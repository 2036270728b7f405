import Walkthrough.Proofs.Page.Law

/-!
The pages that follow rules, alone and in a browser, are oblivious of their history, and none of
their operations is a rest.
-/
namespace Walkthrough
namespace Stage

theorem enter_after (c : PageCall) (calls : List PageCall) (log : List LogRecord) (s : Stage) :
    (s.after calls log).enter c = (s.enter c).after calls log := by
  simp [enter, after, delayOf]

theorem hit_oblivious (c : PageCall) : Oblivious (hit c) := by
  intro calls log s
  simp only [hit, enter_after, failures_after]
  cases failureOf? c (s.enter c).failures <;> rfl

end Stage

theorem withSession_oblivious {b : BrowserPage} {body : Act Unit} (hd : Oblivious b.detach)
    (hb : Oblivious body) : Oblivious (withSession b body) := by
  intro calls log s
  simp only [withSession, hb calls log s]
  cases body s with
  | ok u s' => exact hd calls log s'
  | error fault s' =>
    simp only [mapStage, hd calls log s']
    cases b.detach s' <;> rfl

theorem Oblivious.law : PageLaw (fun _ => True) fun x => Oblivious x where
  pure := .pure
  throw := .throw
  bind := .bind
  tryCatch := .tryCatch
  withSession := withSession_oblivious
  read hc hf := .get_bind hf hc
  hit _ := Stage.hit_oblivious _
  visit _ := .update fun _ _ _ => rfl
  tell r := .update fun calls log s => s.tell_after calls log r

/-- The calls by which a page notes that there was a rest. -/
def Stage.sleeps (s : Stage) : List PageCall := s.calls.filter (·.method == "sleep")

def PageCall.sleep (seconds : Float) : PageCall := ⟨"sleep", [.float seconds], []⟩

theorem Stage.sleeps_rest (s : Stage) (x : Float) : (s.rest x).sleeps = s.sleeps ++ [.sleep x] := by
  simp [sleeps, rest, PageCall.sleep]

def Awake {α : Type} (x : Act α) : Prop := ∀ s, (stageOf (x s)).sleeps = s.sleeps

namespace Awake

theorem hit {c : PageCall} (hc : (c.method == "sleep") = false) : Awake (Stage.hit c) := by
  intro s
  have henter : (s.enter c).sleeps = s.sleeps := by simp [Stage.sleeps, Stage.enter, hc]
  unfold Stage.hit
  dsimp only
  cases failureOf? c (s.enter c).failures with
  | none => exact henter
  | some _ => exact henter

theorem law : PageLaw (fun c => (c.method == "sleep") = false) fun x => Awake x :=
  .ofMoves (R := fun s t => t.sleeps = s.sleeps) (fun _ => rfl) (fun h h' => h'.trans h) hit
    (fun _ _ => rfl) fun _ _ => rfl

end Awake

/-- A page of which no operation is a rest. -/
def PageHandle.IsAwake (page : PageHandle) : Prop :=
  ∀ {α : Type} (op : PageOp α), Awake (page.call op)

namespace Stage

theorem handle_oblivious : ∀ {α : Type} (op : PageOp α), Oblivious (handle.call op) :=
  Oblivious.law.handle fun _ => trivial

theorem browserPage_handle_oblivious : ∀ {α : Type} (op : PageOp α),
    Oblivious (browserPage.handle.call op) :=
  fun op => Oblivious.law.browserPage_handle op fun _ _ => trivial

theorem handle_isAwake : handle.IsAwake := Awake.law.handle id

theorem browserPage_handle_isAwake : browserPage.handle.IsAwake := by
  intro α op
  have hall : (op.browserCalls.all fun c => !(c.method == "sleep")) = true := by
    cases op <;> rfl
  refine Awake.law.browserPage_handle op fun c hc => ?_
  simpa using List.all_eq_true.mp hall c hc

end Stage

namespace Page

/-- The page that follows rules, walked through as it is. -/
def scripted : Page := ⟨Stage.handle, Stage.handle_oblivious⟩

/-- The page that follows rules, walked through as a page of a browser. -/
def browser : Page := ⟨Stage.browserPage.handle, Stage.browserPage_handle_oblivious⟩

end Page

end Walkthrough
