import Walkthrough.Proofs.Page.Operation
import Walkthrough.Step.Perform

/-!
What performing an action does, as a tree: which operation is called next for each answer of the one
before. Followed on a page the tree is the action as it is performed, so that what holds of every
action on every page is one induction on trees.
-/
namespace Walkthrough

/-- The faults that performing an action adds to those of the page. -/
def StepFault.isOfPerforming : StepFault → Bool
  | .comparison _ | .unwritable _ | .oversizedPause => true
  | _ => false

namespace StepAct

/-- What is done on the page itself ends as it does there, with the fault of the page as one of its
own. -/
theorem liftM_cases {α : Type} (x : Act α) (s : Stage) :
    (∃ a t, x s = .ok a t ∧ (liftM x : StepAct α) s = .ok a t) ∨
      ∃ f t, x s = .error f t ∧ (liftM x : StepAct α) s = .error (.page f) t := by
  simp only [liftM, monadLift, MonadLift.monadLift]
  cases x s with
  | ok a t => exact .inl ⟨a, t, rfl, rfl⟩
  | error f t => exact .inr ⟨f, t, rfl, rfl⟩

theorem liftM_bind {α β : Type} (x : Act α) (f : α → Act β) :
    (liftM (x >>= f) : StepAct β) = liftM x >>= fun a => liftM (f a) := by
  funext s
  simp only [liftM, monadLift, MonadLift.monadLift, bind, EStateM.bind]
  cases x s with
  | ok a s' => rfl
  | error f s' => rfl

end StepAct

/-- The selector of the input that evaluating a script clears, if it does. -/
def PageScript.cleared? (script : String) (arg : Value) : Option String :=
  match arg with
  | .text selector => if script = clearValue then some selector else none
  | _ => none

theorem PageScript.cleared?_clearValue (selector : String) :
    cleared? clearValue (.text selector) = some selector := by
  simp [cleared?]

/-- The selector of the element that an operation acts on: with these an action waits until the
element is shown. -/
def PageOp.actsOn? {α : Type} : PageOp α → Option String
  | .click selector _ _ _ | .type selector _ _ | .select selector _ | .hover selector
  | .focus selector => some selector
  | .evaluate script arg => PageScript.cleared? script arg
  | _ => none

def PageOp.script? {α : Type} : PageOp α → Option String
  | .evaluate script _ => some script
  | _ => none

def Action.script? : Action → Option String
  | ⟨.evaluate, _, (script, ())⟩ | ⟨.assert, _, (script, _, ())⟩ => some script
  | _ => none

def ActionKind.actsOnElement : ActionKind → Bool
  | .click | .type | .clear | .select | .hover | .focus => true
  | _ => false

/-- The types of action that can fail although all their calls succeed. -/
def ActionKind.mayFail : ActionKind → Bool
  | .waitForTimeout | .assertSelector | .assertUrl | .assertTitle => true
  | _ => false

/-- An operation as the plan of an action can have it: only the types that act on an element act on
one, and the script that tells whether an element is shown is evaluated only where the action asks
for it. -/
structure PageOp.IsPartOf {α : Type} (op : PageOp α) (a : Action) : Prop where
  acts : op.actsOn? ≠ none → a.kind.actsOnElement = true
  script : ∀ script, op.script? = some script →
    script ≠ PageScript.firstMatchVisible ∨ a.script? = some script

namespace PageOp.IsPartOf
variable {α : Type} {op : PageOp α} {a : Action}

theorem acting (ha : a.kind.actsOnElement = true) (hscript : op.script? = none) :
    op.IsPartOf a :=
  ⟨fun _ => ha, fun script h => by simp [hscript] at h⟩

theorem plain (hacts : op.actsOn? = none) (hscript : op.script? = none) : op.IsPartOf a :=
  ⟨absurd hacts, fun script h => by simp [hscript] at h⟩

theorem evaluating {script : String} {arg : Value}
    (hacts : PageScript.cleared? script arg ≠ none → a.kind.actsOnElement = true)
    (hscript : script ≠ PageScript.firstMatchVisible ∨ a.script? = some script) :
    (PageOp.evaluate script arg).IsPartOf a :=
  ⟨hacts, fun _ h => Option.some.inj h ▸ hscript⟩

end PageOp.IsPartOf

/-- What is done on a page, step by step, with an answer or a fault of its own at the end. -/
inductive Plan (α : Type) : Type 1
  | done (a : α)
  | fail (fault : StepFault)
  | rest (seconds : Float) (next : Plan α)
  | call {β : Type} (op : PageOp β) (next : β → Plan α)

namespace Plan
variable {α : Type}

def run (page : PageHandle) : Plan α → StepAct α
  | done a => pure a
  | fail fault => throw fault
  | rest seconds next => do
    modify (Stage.rest seconds)
    next.run page
  | call op next => do
    (next (← page.call op)).run page

/-- The parts of a plan satisfy conditions: its calls, its faults, and that it rests. -/
def All (calls : ∀ {β : Type}, PageOp β → Prop) (faults : StepFault → Prop) (rests : Prop) :
    Plan α → Prop
  | done _ => True
  | fail fault => faults fault
  | rest _ next => rests ∧ next.All calls faults rests
  | call op next => calls op ∧ ∀ b, (next b).All calls faults rests

def order {β : Type} (op : PageOp β) : Plan Value :=
  call op fun _ => done .null

/-- A call on an element, once it is shown. -/
def onceShown (selector : String) (timeout : Number) {β : Type} (op : PageOp β) : Plan Value :=
  call (.waitForSelector selector timeout (some true) none) fun _ => order op

/-- A text that is asked for and compared with a pattern. -/
def compared [Pattern.Host] (what : String) (op : PageOp String) (pattern : String)
    (message : Option String) (strict : Option Bool) : Plan Value :=
  call op fun actual =>
    match Pattern.compare actual pattern (strict.getD false) with
    | .ok matched => done (Verdict.ofMatch what actual pattern message matched).toValue
    | .error fault => fail (.comparison fault)

def given : Except Unwritable Verdict → Plan Value
  | .ok v => done v.toValue
  | .error fault => fail (.unwritable fault)

/-- The matches of a selector are counted, and the first is looked at if that matters. -/
def counted (selector : String) (message : Option String) (visible : Option Bool)
    (expected : Option Int) : Plan Value :=
  call (.count selector) fun count =>
    match expected with
    | some n => given (Verdict.ofCount selector n count)
    | none =>
      if visible = some true then
        if 0 < count then
          call (.isVisible selector) fun shown => done (Verdict.ofVisibility selector shown).toValue
        else done (Verdict.ofVisibility selector false).toValue
      else given (Verdict.ofPresence selector count message)

/-- A rest, unless it is too long for a double. -/
def paused (ms : Number) : Plan Value :=
  match Step.seconds? ms with
  | some seconds => rest seconds (done .null)
  | none => fail .oversizedPause

def ofAction [Pattern.Host] (s : Settings) : Action → Plan Value
  | ⟨.click, _, (selector, timeout, button, clickCount, delay, ())⟩ =>
    let clicks := clickCount.getD 1
    onceShown selector (Step.timeoutFor .click timeout)
      (.click selector (Verdict.orElse button "left") (if clicks = 0 then 1 else clicks)
        (Step.nonZero delay 0))
  | ⟨.type, _, (selector, text, timeout, delay, ())⟩ =>
    onceShown selector (Step.timeoutFor .type timeout) (.type selector text (Step.nonZero delay 0))
  | ⟨.clear, _, (selector, timeout, ())⟩ =>
    onceShown selector (Step.timeoutFor .type timeout)
      (.evaluate PageScript.clearValue (.text selector))
  | ⟨.select, _, (selector, choice, timeout, ())⟩ =>
    onceShown selector (Step.timeoutFor .select timeout) (.select selector choice.values)
  | ⟨.hover, _, (selector, timeout, ())⟩ =>
    onceShown selector (Step.timeoutFor .hover timeout) (.hover selector)
  | ⟨.focus, _, (selector, timeout, ())⟩ =>
    onceShown selector (Step.timeoutFor .focus timeout) (.focus selector)
  | ⟨.press, _, (key, delay, ())⟩ => order (.press key (Step.nonZero delay 0))
  | ⟨.waitForSelector, _, (selector, timeout, visible, hidden, ())⟩ =>
    order (.waitForSelector selector (Step.timeoutFor .waitForSelector timeout) visible hidden)
  | ⟨.waitForNavigation, _, (timeout, waitUntil, ())⟩ =>
    order (.waitForNavigation (Step.navigation s .waitForNavigation timeout waitUntil))
  | ⟨.waitForTimeout, _, (ms, ())⟩ => paused (Step.pauseOf s ms)
  | ⟨.waitForFunction, _, (script, timeout, polling, ())⟩ =>
    order (.waitForFunction script (Step.timeoutFor .waitForFunction timeout)
      (Step.pollingOf s polling))
  | ⟨.goto, _, (url, timeout, waitUntil, ())⟩ =>
    order (.goto url (Step.navigation s .goto timeout waitUntil))
  | ⟨.goBack, _, (timeout, waitUntil, ())⟩ =>
    order (.goBack (Step.navigation s .goBack timeout waitUntil))
  | ⟨.goForward, _, (timeout, waitUntil, ())⟩ =>
    order (.goForward (Step.navigation s .goForward timeout waitUntil))
  | ⟨.reload, _, (timeout, waitUntil, ())⟩ =>
    order (.reload (Step.navigation s .reload timeout waitUntil))
  | ⟨.scroll, _, (selector, x, y, behavior, ())⟩ =>
    let offset : Entries :=
      [("x", .ofFloat? x), ("y", .ofFloat? y), ("behavior", .ofText? behavior)]
    let target := selector.getD ""
    if target = "" then order (.evaluate PageScript.scrollWindow (.object offset))
    else order (.evaluate PageScript.scrollElement (.object (("selector", .text target) :: offset)))
  | ⟨.scrollToElement, _, (selector, block, inline, behavior, ())⟩ =>
    order (.evaluate PageScript.scrollIntoView (.object [
      ("selector", .text selector), ("block", .ofText? block), ("inline", .ofText? inline),
      ("behavior", .ofText? behavior)]))
  | ⟨.evaluate, _, (script, ())⟩ => call (.evaluate script .null) done
  | ⟨.setViewport, _, (width, height, scale, mobile, touch, ())⟩ =>
    order (.setViewport width height (Step.nonZero scale 1) (mobile.getD false)
      (touch.getD false))
  | ⟨.assert, _, (script, message, ())⟩ =>
    call (.evaluate script .null) fun value => done (Verdict.ofScript value message)
  | ⟨.assertSelector, _, (selector, message, visible, count, ())⟩ =>
    counted selector message visible count
  | ⟨.assertText, _, (selector, text, message, _, strict, ())⟩ =>
    call (.textContent selector) fun
      | none => done (Verdict.ofMissing selector message).toValue
      | some content => done (Verdict.ofText content text (strict.getD false)).toValue
  | ⟨.assertUrl, _, (pattern, message, strict, ())⟩ =>
    compared "URL" .currentUrl pattern message strict
  | ⟨.assertTitle, _, (pattern, message, strict, ())⟩ =>
    compared "Title" .title pattern message strict

end Plan

namespace Plan
open StepAct
variable {page : PageHandle}

theorem plainly_call (op : PageOp Unit) : Step.plainly (page.call op) = (order op).run page := rfl

theorem plainly_discard {β : Type} (op : PageOp β) :
    Step.plainly (discard (page.call op)) = (order op).run page := by
  change (liftM (page.call op >>= fun _ => (pure () : Act Unit)) >>= fun _ => pure Value.null :
    StepAct Value) = _
  rw [liftM_bind, bind_assoc]
  rfl

theorem plainly_onceShown (selector : String) (timeout : Number) {β : Type} {op : PageOp β}
    {x : Act Unit} (h : Step.plainly x = (order op).run page) :
    Step.plainly (Step.awaitShown page selector timeout >>= fun _ => x) =
      (onceShown selector timeout op).run page := by
  unfold Step.plainly at h ⊢
  rw [liftM_bind, bind_assoc]
  change (liftM _ >>= fun _ => _) = (liftM _ >>= fun _ => (order op).run page)
  rw [← h]
  rfl

theorem judge_eq [Pattern.Host] (what : String) (op : PageOp String) (pattern : String)
    (message : Option String) (strict : Option Bool) :
    (liftM (page.call op) >>= fun actual => Step.judge what actual pattern message strict) =
      (compared what op pattern message strict).run page := by
  change _ = (liftM (page.call op) >>= fun actual => _)
  congr 1
  funext actual
  unfold Step.judge
  dsimp only
  cases Pattern.compare actual pattern (strict.getD false) <;> rfl

theorem give_eq (v : Except Unwritable Verdict) : Step.give v = (given v).run page := by
  cases v <;> rfl

theorem judgeSelector_eq (selector : String) (message : Option String) (visible : Option Bool)
    (expected : Option Int) :
    Step.judgeSelector page selector message visible expected =
      (counted selector message visible expected).run page := by
  change (liftM (page.call (.count selector)) >>= fun count => _) =
    (liftM (page.call (.count selector)) >>= fun count => _)
  congr 1
  funext count
  cases expected with
  | some n => exact give_eq _
  | none =>
    dsimp only
    split
    · split
      · rfl
      · rfl
    · exact give_eq _

theorem pause_eq (ms : Number) :
    (Step.pause ms >>= fun _ => pure Value.null) = (paused ms).run page := by
  unfold Step.pause paused
  cases Step.seconds? ms <;> rfl

/-- Performing an action is following its plan. -/
theorem perform_eq [Pattern.Host] (page : PageHandle) (s : Settings) : ∀ a : Action,
    Step.perform page s a = (ofAction s a).run page
  | ⟨.click, _, (_, _, _, _, _, ())⟩ => plainly_onceShown _ _ (plainly_call (.click ..))
  | ⟨.type, _, (_, _, _, _, ())⟩ => plainly_onceShown _ _ (plainly_call (.type ..))
  | ⟨.clear, _, (_, _, ())⟩ => plainly_onceShown _ _ (plainly_discard (.evaluate ..))
  | ⟨.select, _, (_, _, _, ())⟩ => plainly_onceShown _ _ (plainly_call (.select ..))
  | ⟨.hover, _, (_, _, ())⟩ => plainly_onceShown _ _ (plainly_call (.hover _))
  | ⟨.focus, _, (_, _, ())⟩ => plainly_onceShown _ _ (plainly_call (.focus _))
  | ⟨.press, _, (_, _, ())⟩ => plainly_call (.press ..)
  | ⟨.waitForSelector, _, (_, _, _, _, ())⟩ => plainly_call (.waitForSelector ..)
  | ⟨.waitForNavigation, _, (_, _, ())⟩ => plainly_call (.waitForNavigation _)
  | ⟨.waitForTimeout, _, (_, ())⟩ => pause_eq _
  | ⟨.waitForFunction, _, (_, _, _, ())⟩ => plainly_call (.waitForFunction ..)
  | ⟨.goto, _, (_, _, _, ())⟩ => plainly_call (.goto ..)
  | ⟨.goBack, _, (_, _, ())⟩ => plainly_call (.goBack _)
  | ⟨.goForward, _, (_, _, ())⟩ => plainly_call (.goForward _)
  | ⟨.reload, _, (_, _, ())⟩ => plainly_call (.reload _)
  | ⟨.scroll, _, (selector, _, _, _, ())⟩ => by
    simp only [Step.perform, ofAction]
    split
    · exact plainly_discard (.evaluate ..)
    · exact plainly_discard (.evaluate ..)
  | ⟨.scrollToElement, _, (_, _, _, _, ())⟩ => plainly_discard (.evaluate ..)
  | ⟨.evaluate, _, (_, ())⟩ => (bind_pure _).symm
  | ⟨.setViewport, _, (_, _, _, _, _, ())⟩ => plainly_call (.setViewport ..)
  | ⟨.assert, _, (_, _, ())⟩ => rfl
  | ⟨.assertSelector, _, (_, _, _, _, ())⟩ => judgeSelector_eq ..
  | ⟨.assertText, _, (selector, _, _, _, _, ())⟩ => by
    change (liftM (page.call (.textContent selector)) >>= fun content => _) =
      (liftM (page.call (.textContent selector)) >>= fun content => _)
    congr 1
    funext content
    cases content <;> rfl
  | ⟨.assertUrl, _, (_, _, _, ())⟩ => judge_eq "URL" .currentUrl ..
  | ⟨.assertTitle, _, (_, _, _, ())⟩ => judge_eq "Title" .title ..

namespace All
variable {calls : ∀ {β : Type}, PageOp β → Prop} {faults : StepFault → Prop} {rests : Prop}

theorem order {β : Type} {op : PageOp β} (h : calls op) : (order op).All calls faults rests :=
  ⟨h, fun _ => trivial⟩

theorem onceShown {β : Type} {selector : String} {timeout : Number} {op : PageOp β}
    (hwait : calls (.waitForSelector selector timeout (some true) none)) (h : calls op) :
    (onceShown selector timeout op).All calls faults rests :=
  ⟨hwait, fun _ => order h⟩

theorem compared [Pattern.Host] {what : String} {op : PageOp String} {pattern : String}
    {message : Option String} {strict : Option Bool} (h : calls op)
    (hfault : ∀ fault, faults (.comparison fault)) :
    (compared what op pattern message strict).All calls faults rests := by
  refine ⟨h, fun actual => ?_⟩
  dsimp only
  split
  · exact trivial
  · exact hfault _

theorem given {v : Except Unwritable Verdict} (hfault : ∀ fault, faults (.unwritable fault)) :
    (given v).All calls faults rests := by
  cases v with
  | ok v => exact trivial
  | error fault => exact hfault fault

theorem counted {selector : String} {message : Option String} {visible : Option Bool}
    {expected : Option Int} (hcount : calls (.count selector))
    (hvisible : calls (.isVisible selector)) (hfault : ∀ fault, faults (.unwritable fault)) :
    (counted selector message visible expected).All calls faults rests := by
  refine ⟨hcount, fun count => ?_⟩
  cases expected with
  | some n => exact .given hfault
  | none =>
    dsimp only
    split
    · split
      · exact ⟨hvisible, fun _ => trivial⟩
      · exact trivial
    · exact .given hfault

theorem paused {ms : Number} (hrest : rests) (hfault : faults .oversizedPause) :
    (paused ms).All calls faults rests := by
  unfold Plan.paused
  cases Step.seconds? ms with
  | some seconds => exact ⟨hrest, trivial⟩
  | none => exact hfault

theorem mono {α : Type} {calls' : ∀ {β : Type}, PageOp β → Prop} {faults' : StepFault → Prop}
    {rests' : Prop} {p : Plan α} (h : p.All calls faults rests)
    (hcalls : ∀ {β : Type} (op : PageOp β), calls op → calls' op)
    (hfaults : ∀ f, faults f → faults' f) (hrests : rests → rests') :
    p.All calls' faults' rests' := by
  induction p with
  | done a => trivial
  | fail fault => exact hfaults fault h
  | rest seconds next ih => exact ⟨hrests h.1, ih h.2⟩
  | call op next ih => exact ⟨hcalls op h.1, fun b => ih b (h.2 b)⟩

end All

/-- The plan of an action calls such operations, rests only for a pause, and has a fault of its own
only where its type can. -/
theorem ofAction_all [Pattern.Host] (s : Settings) : ∀ a : Action,
    (ofAction s a).All (fun op => op.IsPartOf a)
      (fun f => f.isOfPerforming = true ∧ a.kind.mayFail = true) (a.kind = .waitForTimeout)
  | ⟨.click, _, (_, _, _, _, _, ())⟩ => .onceShown (.plain rfl rfl) (.acting rfl rfl)
  | ⟨.type, _, (_, _, _, _, ())⟩ => .onceShown (.plain rfl rfl) (.acting rfl rfl)
  | ⟨.clear, _, (_, _, ())⟩ =>
    .onceShown (.plain rfl rfl) (.evaluating (fun _ => rfl) (.inl (by decide)))
  | ⟨.select, _, (_, _, _, ())⟩ => .onceShown (.plain rfl rfl) (.acting rfl rfl)
  | ⟨.hover, _, (_, _, ())⟩ => .onceShown (.plain rfl rfl) (.acting rfl rfl)
  | ⟨.focus, _, (_, _, ())⟩ => .onceShown (.plain rfl rfl) (.acting rfl rfl)
  | ⟨.press, _, (_, _, ())⟩ => .order (.plain rfl rfl)
  | ⟨.waitForSelector, _, (_, _, _, _, ())⟩ => .order (.plain rfl rfl)
  | ⟨.waitForNavigation, _, (_, _, ())⟩ => .order (.plain rfl rfl)
  | ⟨.waitForTimeout, _, (_, ())⟩ => .paused rfl ⟨rfl, rfl⟩
  | ⟨.waitForFunction, _, (_, _, _, ())⟩ => .order (.plain rfl rfl)
  | ⟨.goto, _, (_, _, _, ())⟩ => .order (.plain rfl rfl)
  | ⟨.goBack, _, (_, _, ())⟩ => .order (.plain rfl rfl)
  | ⟨.goForward, _, (_, _, ())⟩ => .order (.plain rfl rfl)
  | ⟨.reload, _, (_, _, ())⟩ => .order (.plain rfl rfl)
  | ⟨.scroll, _, (_, _, _, _, ())⟩ => by
    unfold ofAction
    dsimp only
    split
    · exact .order (.evaluating (absurd rfl) (.inl (by decide)))
    · exact .order (.evaluating (absurd rfl) (.inl (by decide)))
  | ⟨.scrollToElement, _, (_, _, _, _, ())⟩ =>
    .order (.evaluating (absurd rfl) (.inl (by decide)))
  | ⟨.evaluate, _, (_, ())⟩ => ⟨.evaluating (absurd rfl) (.inr rfl), fun _ => trivial⟩
  | ⟨.setViewport, _, (_, _, _, _, _, ())⟩ => .order (.plain rfl rfl)
  | ⟨.assert, _, (_, _, ())⟩ => ⟨.evaluating (absurd rfl) (.inr rfl), fun _ => trivial⟩
  | ⟨.assertSelector, _, (_, _, _, _, ())⟩ =>
    .counted (.plain rfl rfl) (.plain rfl rfl) fun _ => ⟨rfl, rfl⟩
  | ⟨.assertText, _, (_, _, _, _, _, ())⟩ =>
    ⟨.plain rfl rfl, fun content => by cases content <;> trivial⟩
  | ⟨.assertUrl, _, (_, _, _, ())⟩ => .compared (.plain rfl rfl) fun _ => ⟨rfl, rfl⟩
  | ⟨.assertTitle, _, (_, _, _, ())⟩ => .compared (.plain rfl rfl) fun _ => ⟨rfl, rfl⟩

end Plan

end Walkthrough
