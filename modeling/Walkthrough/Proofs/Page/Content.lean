import Walkthrough.Page.Browser
import Walkthrough.Proofs.Number.Addition
import Walkthrough.Proofs.Page.Oblivious
import Walkthrough.Proofs.Page.Operation
import Walkthrough.Proofs.Step.Plan

/-!
A page without rules is what it shows: by that alone it answers to every operation, walked through
as it is and walked through as a page of a browser.
-/
namespace Walkthrough

namespace PageContent

def matching (p : PageContent) (selector : String) : List Element :=
  (p.elements.lookup selector).getD []

def showsFirst (p : PageContent) (selector : String) : Bool :=
  (p.matching selector).head?.elim false Element.visible

def HasTexts (p : PageContent) : Prop :=
  ∀ entry ∈ p.elements, ∀ e ∈ entry.2, e.text ≠ none

theorem HasTexts.matching {p : PageContent} (h : p.HasTexts) {selector : String} {e : Element}
    (he : e ∈ p.matching selector) : e.text ≠ none := by
  unfold PageContent.matching at he
  cases hlookup : p.elements.lookup selector with
  | none => simp [hlookup] at he
  | some es =>
    rw [hlookup] at he
    obtain ⟨before, after, helements, -⟩ := List.lookup_eq_some_iff.mp hlookup
    exact h (selector, es) (by simp [helements]) e he

end PageContent

/-- What comes of an operation: an answer and what the page shows then, or nothing before the time
for which a selector is waited for has run out. -/
inductive Response (α : Type)
  | answer (a : α) (p : PageContent)
  | expired (selector : String) (timeout : Number)

/-- How a page that shows so responds to an operation. -/
def PageContent.respond (p : PageContent) : {α : Type} → PageOp α → Response α
  | _, .goto url _ => .answer () { p with url }
  | _, .waitForSelector selector timeout _ hidden =>
    if hidden ≠ some true ∧ (p.matching selector).isEmpty then .expired selector timeout
    else .answer () p
  | _, .evaluate script _ => .answer ((p.answers.lookup script).getD .null) p
  | _, .currentUrl => .answer p.url p
  | _, .title => .answer p.title p
  | _, .count selector => .answer (p.matching selector).length p
  | _, .isVisible selector => .answer (p.showsFirst selector) p
  | _, .textContent selector => .answer ((p.matching selector).head?.bind Element.text) p
  | _, .goBack _ | _, .goForward _ | _, .reload _ | _, .waitForNavigation _ | _, .click _ _ _ _
  | _, .type _ _ _ | _, .select _ _ | _, .hover _ | _, .focus _ | _, .press _ _
  | _, .waitForFunction _ _ _ | _, .setViewport _ _ _ _ _ => .answer () p

theorem PageContent.HasTexts.respond {p p' : PageContent} (h : p.HasTexts) {α : Type}
    {op : PageOp α} {a : α} (hop : p.respond op = .answer a p') : p'.HasTexts := by
  cases op with
  | waitForSelector selector timeout visible hidden =>
    dsimp only [PageContent.respond] at hop
    split at hop
    · cases hop
    · cases hop
      exact h
  | _ => cases hop; exact h

/-- The page shows so at a time, and there are no rules. -/
structure Stage.Shows (s : Stage) (p : PageContent) (clock : Float) : Prop where
  content : s.content = p
  clock : s.clock = clock
  failures : s.failures = []
  changes : s.changes = []
  latency : s.latency = []

/-- What is done on a page that shows so ends with an answer, takes no time, and leaves it showing
something. -/
def Act.Yields {α : Type} (x : Act α) (p : PageContent) (clock : Float) (a : α)
    (p' : PageContent) : Prop :=
  ∀ s : Stage, s.Shows p clock → ∃ t, x s = .ok a t ∧ t.Shows p' clock

/-- What is done on a page that shows so ends as the response tells, with an error of its own once
the time has run out. -/
def Act.Realizes {α : Type} (expiry : String → Number → PageFault) (x : Act α) (p : PageContent)
    (clock : Float) : Response α → Prop
  | .answer a p' => Yields x p clock a p'
  | .expired selector timeout =>
    ∀ s : Stage, s.Shows p clock → ∃ t, x s = .error (expiry selector timeout) t ∧ t.Shows p clock

namespace Act.Yields
open Number.Binary64
variable {α β : Type} {x : Act α} {p p' p'' : PageContent} {clock : Float} {a : α} {b : β}

theorem pure (a : α) : Yields (Pure.pure a) p clock a p := fun s hs => ⟨s, rfl, hs⟩

theorem bind {f : α → Act β} (hx : Yields x p clock a p') (hf : Yields (f a) p' clock b p'') :
    Yields (x >>= f) p clock b p'' := by
  intro s hs
  obtain ⟨t, hend, ht⟩ := hx s hs
  obtain ⟨u, hend', hu⟩ := hf t ht
  exact ⟨u, (bind_of_ok hend).trans hend', hu⟩

theorem hit (hclock : IsUnsigned clock) (c : PageCall) : Yields (Stage.hit c) p clock () p := by
  intro s hs
  refine ⟨{ s with calls := s.calls ++ [c] }, ?_, hs.content, hs.clock, hs.failures, hs.changes,
    hs.latency⟩
  have hdelay : s.delayOf c = 0.0 := by rw [Stage.delayOf, hs.latency]; rfl
  have henter : s.enter c = { s with calls := s.calls ++ [c] } := by
    rw [Stage.enter, hdelay, hs.clock, hclock.add_zero, ← hs.clock]
  have hchange : (s.enter c).change c = s.enter c := by
    rw [henter, Stage.change, hs.changes]
    rfl
  have hfailures : (s.enter c).failures = [] := hs.failures
  simp only [Stage.hit, hfailures, failureOf?]
  rw [hchange, henter]

theorem tell (r : LogRecord) : Yields (modify (Stage.tell r)) p clock () p :=
  fun s hs => ⟨s.tell r, rfl, hs.content, hs.clock, hs.failures, hs.changes, hs.latency⟩

theorem visit (url : String) : Yields (modify (Stage.visit url)) p clock () { p with url } :=
  fun s hs => ⟨s.visit url, rfl, by rw [Stage.visit, hs.content], hs.clock, hs.failures, hs.changes,
    hs.latency⟩

/-- What is on the page may be read, and determines what is done then. -/
theorem read {f : Stage → Act α} (hf : ∀ s : Stage, s.Shows p clock → Yields (f s) p clock a p') :
    Yields (get >>= f) p clock a p' :=
  fun s hs => hf s hs s hs

/-- A call that answers with something on the page. -/
theorem hit_read (hclock : IsUnsigned clock) (c : PageCall) {f : Stage → α}
    (hf : ∀ s : Stage, s.content = p → f s = a) :
    Yields (do Stage.hit c; return f (← get)) p clock a p :=
  (hit hclock c).bind (read fun s hs => by rw [hf s hs.content]; exact pure a)

theorem tryCatch {f : PageFault → Act α} (hx : Yields x p clock a p') :
    Yields (EStateM.tryCatch x f) p clock a p' := by
  intro s hs
  obtain ⟨t, hend, ht⟩ := hx s hs
  refine ⟨t, ?_, ht⟩
  delta EStateM.tryCatch
  dsimp only
  rw [hend]

theorem withSession {b : BrowserPage} {body : Act Unit} (hbody : Yields body p clock () p')
    (hdetach : Yields b.detach p' clock () p'') : Yields (withSession b body) p clock () p'' := by
  intro s hs
  obtain ⟨t, hend, ht⟩ := hbody s hs
  obtain ⟨u, hend', hu⟩ := hdetach t ht
  refine ⟨u, ?_, hu⟩
  rw [Walkthrough.withSession, hend]
  exact hend'

end Act.Yields

theorem SelectorState.ofFlags_ne_hidden_iff (visible hidden : Option Bool) :
    ofFlags visible hidden ≠ .hidden ↔ hidden ≠ some true := by
  unfold ofFlags
  split
  next h => simp [h]
  next h => split <;> simp [h]

namespace Stage
open Number.Binary64
open Act (Yields Realizes)
variable {p : PageContent} {clock : Float}

def expiry (selector : String) (timeout : Number) : PageFault :=
  ⟨.timeout, "Waiting for selector `" ++ selector ++ "` failed: timeout " ++ timeout.text ++
    "ms exceeded"⟩

def browserExpiry (_selector : String) (timeout : Number) : PageFault :=
  ⟨.browser, "Timeout " ++ timeout.text ++ "ms exceeded."⟩

theorem matching_eq {s : Stage} (h : s.content = p) (selector : String) :
    s.matching selector = p.matching selector := by
  rw [← h]
  rfl

theorem showsFirst_eq {s : Stage} (h : s.content = p) (selector : String) :
    s.showsFirst selector = p.showsFirst selector := by
  rw [showsFirst, PageContent.showsFirst, matching_eq h]
  cases p.matching selector <;> rfl

theorem answer_eq {s : Stage} (h : s.content = p) (script : String) :
    s.answer script = (p.answers.lookup script).getD .null := by
  rw [← h]
  rfl

/-- A wait for a selector, whatever is noted of it. -/
theorem realizes_await {c : PageCall} {selector : String} {timeout : Number} {hidden : Option Bool}
    {expiry : String → Number → PageFault} {expires : Prop} [Decidable expires]
    (hclock : IsUnsigned clock) (hexpires : expires ↔ hidden ≠ some true) (visible : Option Bool) :
    Realizes expiry
      (do
        hit c
        let s ← get
        if expires ∧ (s.matching selector).isEmpty then throw (expiry selector timeout))
      p clock (p.respond (.waitForSelector selector timeout visible hidden)) := by
  dsimp only [PageContent.respond]
  split
  next h =>
    intro s hs
    obtain ⟨t, hend, ht⟩ := Yields.hit hclock c s hs
    refine ⟨t, ?_, ht⟩
    have hruns : expires ∧ (t.matching selector).isEmpty = true := by
      rw [hexpires, matching_eq ht.content]
      exact h
    rw [bind_of_ok hend]
    change (if _ then _ else _ : Act Unit) t = _
    rw [if_pos hruns]
    rfl
  next h =>
    refine (Yields.hit hclock c).bind (Yields.read fun s hs => ?_)
    have hstays : ¬(expires ∧ (s.matching selector).isEmpty = true) := by
      rw [hexpires, matching_eq hs.content]
      exact h
    rw [if_neg hstays]
    exact .pure ()

/-- The page that follows rules, as it is, responds as what it shows. -/
theorem handle_realizes (hclock : IsUnsigned clock) : ∀ {α : Type} (op : PageOp α),
    Realizes expiry (handle.call op) p clock (p.respond op)
  | _, .goto url _ => (Yields.hit hclock _).bind (.visit url)
  | _, .goBack .. | _, .goForward .. | _, .reload .. | _, .waitForNavigation .. | _, .click ..
  | _, .type .. | _, .select .. | _, .hover .. | _, .focus .. | _, .press ..
  | _, .waitForFunction .. | _, .setViewport .. => .hit hclock _
  | _, .waitForSelector .. => realizes_await hclock Iff.rfl _
  | _, .evaluate script _ => .hit_read hclock _ fun _ hs => answer_eq hs script
  | _, .currentUrl => .hit_read hclock _ fun _ hs => by rw [hs]
  | _, .title => .hit_read hclock _ fun _ hs => by rw [hs]
  | _, .count selector => .hit_read hclock _ fun _ hs => by rw [matching_eq hs]
  | _, .isVisible selector => .hit_read hclock _ fun _ hs => showsFirst_eq hs selector
  | _, .textContent selector => by
    refine (Yields.hit hclock _).bind (Yields.read fun s hs => ?_)
    rw [matching_eq hs.content]
    cases p.matching selector <;> exact .pure _

theorem loadStateFor_yields (name : String) :
    Yields (loadStateFor name) p clock (LoadState.ofName name) p := by
  unfold loadStateFor
  split
  · exact (Yields.tell _).bind (.pure _)
  · exact .pure _

theorem exists_pollingFor_yields (polling : Value) :
    ∃ mode, ∀ clock, Yields (pollingFor polling) p clock mode p := by
  unfold pollingFor
  split
  · exact ⟨polling, fun _ => .pure _⟩
  · exact ⟨.text "raf", fun _ => (Yields.tell _).bind (.pure _)⟩

theorem browserPage_setViewport_yields (hclock : IsUnsigned clock) (width height : Int)
    (scale : Number) (mobile touch : Bool) :
    Yields (browserPage.setViewport width height scale mobile touch) p clock () p := by
  refine (Yields.hit hclock _).bind ?_
  split
  · exact .pure ()
  · -- the session can be opened, so nothing is caught
    have hopen : Yields (tryOpenSession browserPage) p clock true p := by
      unfold tryOpenSession
      exact Yields.bind (a := Except.error true)
        (Yields.tryCatch (Yields.bind (Yields.hit hclock _) (.pure _))) (.pure true)
    have hemulate : Yields (emulate browserPage width height scale mobile touch) p clock () p :=
      (Yields.hit hclock _).bind (.hit hclock _)
    exact hopen.bind (hemulate.withSession (.hit hclock _))

theorem evaluation_eq {s : Stage} (h : s.content = p) {script : String}
    (hscript : script ≠ PageScript.firstMatchVisible) (arg : Option Value) :
    s.evaluation script arg = (p.answers.lookup script).getD .null := by
  unfold evaluation
  rw [if_neg hscript, answer_eq h]

theorem evaluation_firstMatchVisible {s : Stage} (h : s.content = p) (selector : String) :
    s.evaluation PageScript.firstMatchVisible (some (.text selector)) =
      .bool (p.showsFirst selector) := by
  unfold evaluation
  rw [if_pos rfl]
  exact congrArg Value.bool (showsFirst_eq h selector)

/-- The page that follows rules, as a page of a browser, responds as what it shows: it tells the
text of every element, and answers the script that tells whether something is shown by itself. -/
theorem browserPage_handle_realizes (hclock : IsUnsigned clock) (hp : p.HasTexts) :
    ∀ {α : Type} (op : PageOp α), op.script? ≠ some PageScript.firstMatchVisible →
      Realizes browserExpiry (browserPage.handle.call op) p clock (p.respond op)
  | _, .goto url _, _ =>
    (loadStateFor_yields _).bind ((Yields.hit hclock _).bind (.visit url))
  | _, .goBack .., _ | _, .goForward .., _ | _, .reload .., _ | _, .waitForNavigation .., _ =>
    (loadStateFor_yields _).bind (.hit hclock _)
  | _, .click .., _ | _, .type .., _ | _, .select .., _ | _, .hover .., _ | _, .focus .., _
  | _, .press .., _ => .hit hclock _
  | _, .waitForSelector _ _ visible hidden, _ =>
    realizes_await hclock (SelectorState.ofFlags_ne_hidden_iff visible hidden) _
  | _, .waitForFunction _ _ polling, _ => by
    obtain ⟨mode, hmode⟩ := exists_pollingFor_yields (p := p) polling
    exact (hmode clock).bind (.hit hclock _)
  | _, .evaluate script arg, hscript =>
    .hit_read hclock _ fun _ hs => evaluation_eq hs (fun h => hscript (congrArg some h)) _
  | _, .currentUrl, _ => Yields.read fun s hs => by rw [hs.content]; exact .pure _
  | _, .title, _ => .hit_read hclock _ fun _ hs => by rw [hs]
  | _, .setViewport .., _ => browserPage_setViewport_yields hclock _ _ _ _ _
  | _, .count selector, _ => .hit_read hclock _ fun _ hs => by rw [matching_eq hs]
  | _, .isVisible selector, _ =>
    (Yields.hit_read hclock _ fun _ hs => evaluation_firstMatchVisible hs selector).bind (.pure _)
  | _, .textContent selector, _ => by
    refine (Yields.hit_read hclock _ fun _ hs => by rw [matching_eq hs]).bind ?_
    cases hfirst : (p.matching selector).head? with
    | none => exact .pure none
    | some e =>
      have hread : Yields (browserPage.elementText selector e) p clock e.text p :=
        (Yields.hit hclock _).bind (.pure _)
      obtain ⟨text, htext⟩ := Option.ne_none_iff_exists'.mp
        (hp.matching (List.mem_of_head? hfirst))
      rw [htext] at hread
      rw [Option.bind_some, htext]
      exact hread.bind (.pure (some text))

end Stage

end Walkthrough
