import Walkthrough.Proofs.Page.Scripted
import Walkthrough.Proofs.Step.Plan

/-!
What happens on a page, in order: which operations are called and which rests are made, each with
the page as it was before. A plan that is followed on a page has such a course, in which no
operation is called after one that failed.
-/
namespace Walkthrough

/-- What a page that notes its calls notes of an operation. -/
def PageOp.noted {α : Type} : PageOp α → PageCall
  | .goto url wait => ⟨"goto", [.text url], wait.named⟩
  | .goBack wait => ⟨"go_back", [], wait.named⟩
  | .goForward wait => ⟨"go_forward", [], wait.named⟩
  | .reload wait => ⟨"reload", [], wait.named⟩
  | .waitForNavigation wait => ⟨"wait_for_navigation", [], wait.named⟩
  | .click selector button clickCount delay =>
    ⟨"click", [.text selector],
      [("button", .text button), ("click_count", .int clickCount), ("delay", .ofNumber delay)]⟩
  | .type selector text delay =>
    ⟨"type", [.text selector, .text text], [("delay", .ofNumber delay)]⟩
  | .select selector values => ⟨"select", [.text selector, .list (values.map .text)], []⟩
  | .hover selector => ⟨"hover", [.text selector], []⟩
  | .focus selector => ⟨"focus", [.text selector], []⟩
  | .press key delay => ⟨"press", [.text key], [("delay", .ofNumber delay)]⟩
  | .waitForSelector selector timeout visible hidden =>
    ⟨"wait_for_selector", [.text selector],
      [("timeout", .ofNumber timeout), ("visible", .ofBool? visible), ("hidden", .ofBool? hidden)]⟩
  | .waitForFunction script timeout polling =>
    ⟨"wait_for_function", [.text script], [("timeout", .ofNumber timeout), ("polling", polling)]⟩
  | .evaluate script arg => ⟨"evaluate", [.text script, arg], []⟩
  | .currentUrl => ⟨"current_url", [], []⟩
  | .title => ⟨"title", [], []⟩
  | .setViewport width height scale mobile touch =>
    ⟨"set_viewport", [.int width, .int height],
      [("device_scale_factor", .ofNumber scale), ("is_mobile", .bool mobile),
        ("has_touch", .bool touch)]⟩
  | .count selector => ⟨"count", [.text selector], []⟩
  | .isVisible selector => ⟨"is_visible", [.text selector], []⟩
  | .textContent selector => ⟨"text_content", [.text selector], []⟩

/-- A page that notes each operation that is called, and nothing else. -/
def PageHandle.Notes (page : PageHandle) : Prop :=
  ∀ {α : Type} (op : PageOp α) (s : Stage),
    (stageOf (page.call op s)).calls = s.calls ++ [op.noted]

namespace Stage

theorem calls_hit (c : PageCall) (s : Stage) : (stageOf (hit c s)).calls = s.calls ++ [c] := by
  unfold hit
  dsimp only
  cases failureOf? c (s.enter c).failures with
  | none => rfl
  | some _ => rfl

/-- After a call has been made, what else is done notes nothing. -/
theorem calls_hit_bind {α : Type} (c : PageCall) {f : Unit → Act α}
    (hf : ∀ t, (stageOf (f () t)).calls = t.calls) (s : Stage) :
    (stageOf ((hit c >>= f) s)).calls = s.calls ++ [c] := by
  have hcalls := calls_hit c s
  rcases bind_cases (hit c) f s with ⟨_, t, hs, hbind⟩ | ⟨fault, t, hs, hbind⟩
  · rw [hs] at hcalls
    rw [hbind, hf]
    exact hcalls
  · rw [hs] at hcalls
    rw [hbind]
    exact hcalls

/-- The page that follows rules notes each operation. -/
theorem handle_notes : handle.Notes := by
  intro α op s
  cases op with
  | goto url wait => exact calls_hit_bind _ (fun _ => rfl) s
  | waitForSelector selector timeout visible hidden =>
    refine calls_hit_bind _ (fun t => ?_) s
    change (stageOf ((if _ then _ else _ : Act Unit) t)).calls = _
    split <;> rfl
  | evaluate script arg => exact calls_hit_bind _ (fun _ => rfl) s
  | currentUrl => exact calls_hit_bind _ (fun _ => rfl) s
  | title => exact calls_hit_bind _ (fun _ => rfl) s
  | count selector => exact calls_hit_bind _ (fun _ => rfl) s
  | isVisible selector => exact calls_hit_bind _ (fun _ => rfl) s
  | textContent selector =>
    refine calls_hit_bind _ (fun t => ?_) s
    dsimp only [bind, EStateM.bind, get, getThe, MonadStateOf.get, EStateM.get]
    cases t.matching selector <;> rfl
  | _ => exact calls_hit _ s

end Stage

/-- Something that happens on a page, with the page as it was before. -/
inductive Event : Type 1
  | call {β : Type} (op : PageOp β) (before : Stage)
  | rest (seconds : Float) (before : Stage)

namespace Event

def fault? (page : PageHandle) : Event → Option PageFault
  | call op before =>
    match page.call op before with
    | .ok _ _ => none
    | .error fault _ => some fault
  | rest _ _ => none

/-- What a page that notes its calls notes of an event. -/
def noted : Event → PageCall
  | call op _ => op.noted
  | rest seconds _ => .sleep seconds

end Event

/-- How something on a page ends whose events are these: with an answer, with the error of what was
called last, or, after calls without errors, with a fault of its own. -/
inductive Ending (page : PageHandle) (own : StepFault → Prop) {α : Type} (es : List Event) :
    EStateM.Result StepFault Stage α → Prop
  | answered {a : α} {t : Stage} (h : ∀ e ∈ es, e.fault? page = none) : Ending page own es (.ok a t)
  | called {before : List Event} {last : Event} {f : PageFault} {t : Stage}
    (hes : es = before ++ [last]) (hbefore : ∀ e ∈ before, e.fault? page = none)
    (hlast : last.fault? page = some f) : Ending page own es (.error (.page f) t)
  | failed {f : StepFault} {t : Stage} (hown : own f) (h : ∀ e ∈ es, e.fault? page = none) :
    Ending page own es (.error f t)

/-- An event without an error before all others changes nothing about the end. -/
theorem Ending.cons {page : PageHandle} {own : StepFault → Prop} {α : Type} {es : List Event}
    {r : EStateM.Result StepFault Stage α} {e : Event} (he : e.fault? page = none)
    (h : Ending page own es r) : Ending page own (e :: es) r := by
  have hall {ds : List Event} (hds : ∀ d ∈ ds, d.fault? page = none) :
      ∀ d ∈ e :: ds, d.fault? page = none := List.forall_mem_cons.mpr ⟨he, hds⟩
  cases h with
  | answered h => exact .answered (hall h)
  | called hes hbefore hlast => exact .called (by rw [hes, List.cons_append]) (hall hbefore) hlast
  | failed hown h => exact .failed hown (hall h)

/-- An error of an event is the end: nothing comes after it. -/
theorem Ending.of_fault {page : PageHandle} {own : StepFault → Prop} {α : Type} {es : List Event}
    {r : EStateM.Result StepFault Stage α} (h : Ending page own es r) {before after : List Event}
    {e : Event} {f : PageFault} (hes : es = before ++ e :: after) (he : e.fault? page = some f) :
    after = [] ∧ ∃ t, r = .error (.page f) t := by
  have hmem : e ∈ es := by simp [hes]
  cases h with
  | answered h => simp [h e hmem] at he
  | failed hown h => simp [h e hmem] at he
  | @called before' last g t hlist hbefore hlast =>
    rw [hlist] at hes
    rcases List.eq_nil_or_concat after with rfl | ⟨after', e', rfl⟩
    · obtain ⟨-, heq⟩ := List.append_inj' hes rfl
      obtain rfl : last = e := List.head_eq_of_cons_eq heq
      rw [hlast] at he
      exact ⟨rfl, t, by rw [Option.some.inj he]⟩
    · rw [List.concat_eq_append, ← List.cons_append, ← List.append_assoc] at hes
      obtain ⟨heq, -⟩ := List.append_inj' hes rfl
      have hnone := hbefore e (by simp [heq])
      simp [hnone] at he

/-- From one page to another by what happens on it, in this order, and by log records. -/
inductive Course (page : PageHandle) (s : Stage) : List Event → Stage → Prop
  | refl : Course page s [] s
  | call {es : List Event} {t : Stage} {β : Type} (h : Course page s es t) (op : PageOp β) :
    Course page s (es ++ [.call op t]) (stageOf (page.call op t))
  | rest {es : List Event} {t : Stage} (h : Course page s es t) (seconds : Float) :
    Course page s (es ++ [.rest seconds t]) (t.rest seconds)
  | log {es : List Event} {t : Stage} (h : Course page s es t) (rs : List LogRecord) :
    Course page s es { t with log := t.log ++ rs }

namespace Course
variable {page : PageHandle} {s t u : Stage} {es es' : List Event}

theorem trans (h : Course page s es t) (h' : Course page t es' u) :
    Course page s (es ++ es') u := by
  induction h' with
  | refl => simpa using h
  | call _ op ih =>
    rw [← List.append_assoc]
    exact ih.call op
  | rest _ seconds ih =>
    rw [← List.append_assoc]
    exact ih.rest seconds
  | log _ rs ih => exact ih.log rs

theorem tell (h : Course page s es t) (r : LogRecord) : Course page s es (t.tell r) := h.log [r]

/-- What happens first leads to a page from which the rest happens. -/
theorem of_append (h : Course page s (es ++ es') t) :
    ∃ u, Course page s es u ∧ Course page u es' t := by
  generalize hall : es ++ es' = all at h
  induction h generalizing es' with
  | refl =>
    obtain ⟨rfl, rfl⟩ := List.append_eq_nil_iff.mp hall
    exact ⟨s, .refl, .refl⟩
  | @call ds t' β h op ih =>
    rcases List.eq_nil_or_concat es' with rfl | ⟨init, e, rfl⟩
    · rw [List.append_nil] at hall
      exact ⟨_, hall ▸ h.call op, .refl⟩
    · rw [List.concat_eq_append] at hall ⊢
      rw [← List.append_assoc] at hall
      obtain ⟨hinit, he⟩ := List.append_inj' hall rfl
      obtain ⟨u, hfirst, hrest⟩ := ih hinit
      exact ⟨u, hfirst, he ▸ hrest.call op⟩
  | @rest ds t' h seconds ih =>
    rcases List.eq_nil_or_concat es' with rfl | ⟨init, e, rfl⟩
    · rw [List.append_nil] at hall
      exact ⟨_, hall ▸ h.rest seconds, .refl⟩
    · rw [List.concat_eq_append] at hall ⊢
      rw [← List.append_assoc] at hall
      obtain ⟨hinit, he⟩ := List.append_inj' hall rfl
      obtain ⟨u, hfirst, hrest⟩ := ih hinit
      exact ⟨u, hfirst, he ▸ hrest.rest seconds⟩
  | log _ rs ih =>
    obtain ⟨u, hfirst, hrest⟩ := ih hall
    exact ⟨u, hfirst, hrest.log rs⟩

/-- On a page that notes its calls, what has happened is what has been noted since. -/
theorem calls_eq (hpage : page.Notes) (h : Course page s es t) :
    t.calls = s.calls ++ es.map Event.noted := by
  induction h with
  | refl => simp
  | call _ op ih => rw [hpage op, ih, List.append_assoc, List.map_append]; rfl
  | rest _ seconds ih =>
    change _ ++ [PageCall.sleep seconds] = _
    rw [ih, List.append_assoc, List.map_append]
    rfl
  | log _ rs ih => exact ih

end Course

namespace Plan
variable {α : Type} {page : PageHandle}

def events (page : PageHandle) : Plan α → Stage → List Event
  | done _, _ | fail _, _ => []
  | rest seconds next, s => .rest seconds s :: next.events page (s.rest seconds)
  | call op next, s =>
    .call op s ::
      match page.call op s with
      | .ok b t => (next b).events page t
      | .error _ _ => []

theorem events_call_ok {β : Type} {op : PageOp β} {next : β → Plan α} {s t : Stage} {b : β}
    (h : page.call op s = .ok b t) :
    (call op next).events page s = .call op s :: (next b).events page t := by
  rw [events, h]

theorem events_call_error {β : Type} {op : PageOp β} {next : β → Plan α} {s t : Stage}
    {f : PageFault} (h : page.call op s = .error f t) :
    (call op next).events page s = [.call op s] := by
  rw [events, h]

theorem run_call_ok {β : Type} {op : PageOp β} {next : β → Plan α} {s t : Stage} {b : β}
    (h : page.call op s = .ok b t) : (call op next).run page s = (next b).run page t := by
  change EStateM.bind _ _ s = _
  simp only [EStateM.bind, liftM, monadLift, MonadLift.monadLift, h]

theorem run_call_error {β : Type} {op : PageOp β} {next : β → Plan α} {s t : Stage}
    {f : PageFault} (h : page.call op s = .error f t) :
    (call op next).run page s = .error (.page f) t := by
  change EStateM.bind _ _ s = _
  simp only [EStateM.bind, liftM, monadLift, MonadLift.monadLift, h]

theorem forall_events {calls : ∀ {β : Type}, PageOp β → Prop} {faults : StepFault → Prop}
    {rests : Prop} {p : Plan α} (hp : p.All calls faults rests) {P : Event → Prop}
    (hcall : ∀ {β : Type} (op : PageOp β) (t : Stage), calls op → P (.call op t))
    (hrest : ∀ (seconds : Float) (t : Stage), P (.rest seconds t)) (s : Stage) :
    ∀ e ∈ p.events page s, P e := by
  induction p generalizing s with
  | done a => simp [events]
  | fail fault => simp [events]
  | rest seconds next ih => exact List.forall_mem_cons.mpr ⟨hrest seconds s, ih hp.2 _⟩
  | call op next ih =>
    cases h : page.call op s with
    | ok b t =>
      rw [events_call_ok h]
      exact List.forall_mem_cons.mpr ⟨hcall op s hp.1, ih b (hp.2 b) t⟩
    | error f t =>
      rw [events_call_error h]
      exact List.forall_mem_cons.mpr ⟨hcall op s hp.1, by simp⟩

theorem events_order {β : Type} (op : PageOp β) (s : Stage) :
    (order op).events page s = [.call op s] := by
  unfold order
  cases h : page.call op s with
  | ok b t => rw [events_call_ok h]; rfl
  | error f t => exact events_call_error h

theorem course_run (p : Plan α) (s : Stage) :
    Course page s (p.events page s) (stageOf (p.run page s)) := by
  induction p generalizing s with
  | done a => exact .refl
  | fail fault => exact .refl
  | rest seconds next ih => exact (Course.refl.rest seconds).trans (ih _)
  | call op next ih =>
    have hbegin : Course page s [] s := .refl
    have hcall := hbegin.call op
    cases h : page.call op s with
    | ok b t =>
      rw [events_call_ok h, run_call_ok h]
      rw [h] at hcall
      exact hcall.trans (ih b t)
    | error f t =>
      rw [events_call_error h, run_call_error h]
      rwa [h] at hcall

theorem ending_run {calls : ∀ {β : Type}, PageOp β → Prop} {own : StepFault → Prop} {rests : Prop}
    {p : Plan α} (hp : p.All calls own rests) (s : Stage) :
    Ending page own (p.events page s) (p.run page s) := by
  induction p generalizing s with
  | done a => exact .answered (by simp [events])
  | fail fault => exact .failed hp (by simp [events])
  | rest seconds next ih => exact (ih hp.2 _).cons rfl
  | call op next ih =>
    cases h : page.call op s with
    | ok b t =>
      rw [events_call_ok h, run_call_ok h]
      exact (ih b (hp.2 b) t).cons (by simp [Event.fault?, h])
    | error f t =>
      rw [events_call_error h, run_call_error h]
      have hsplit : [Event.call op s] = [] ++ [.call op s] := rfl
      exact .called hsplit (by simp) (by simp [Event.fault?, h])

end Plan

end Walkthrough
