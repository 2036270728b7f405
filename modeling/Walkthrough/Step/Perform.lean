import Walkthrough.Page.Handle
import Walkthrough.Page.Script
import Walkthrough.Step.Basic
import Walkthrough.Step.Verdict

/-!
Performing one action on a page. Whatever goes wrong becomes the error of the step's result; the
first call that fails ends the step.
-/
namespace Walkthrough

/-- What a step does: it ends with an answer or a fault, and the page stays as it is then. -/
abbrev StepAct := EStateM StepFault Stage

instance : MonadLift Act StepAct where
  monadLift act := fun s =>
    match act s with
    | .ok a s => .ok a s
    | .error f s => .error (.page f) s

namespace Step

/-- How long a type of action waits: as long as it says, or as long as its type does. -/
def timeoutFor (kind : ActionKind) (timeout : Option Float) : Number :=
  match timeout with
  | some x => .float x
  | none => .int (kind.defaultTimeout?.getD 0)

/-- An optional number, or another one if it is missing or zero. -/
def nonZero (x : Option Float) (other : Int) : Number :=
  match x with
  | some x => if x == 0.0 then .int other else .float x
  | none => .int other

def navigation (s : Settings) (kind : ActionKind) (timeout : Option Float)
    (waitUntil : Option String) : NavigationWait :=
  ⟨timeoutFor kind timeout, Verdict.orElse waitUntil s.waitUntil⟩

def pollingOf (s : Settings) (polling : Option Polling) : Value :=
  match polling with
  | some (.every ms) => if ms == 0.0 then .text s.polling else .float ms
  | some (.mode name) => if name = "" then .text s.polling else .text name
  | none => .text s.polling

/-- No pause is longer than this, in milliseconds, whatever the settings say. -/
def pauseCeiling : Int := 30000

/-- The milliseconds of a pause, cut to what the settings and the ceiling allow. -/
def pauseOf (s : Settings) (ms : Float) : Number :=
  ((Number.float ms).least (.int s.maxWaitMs)).least (.int pauseCeiling)

/-- Milliseconds as seconds; none when an integer is out of the range of doubles. -/
def seconds? (ms : Number) : Option Float :=
  match ms with
  | .float x => some (Number.float x).thousandth
  | .int n =>
    let x := (Number.int n).thousandth
    if Number.Binary64.isFinite x then some x else none

def pause (ms : Number) : StepAct Unit :=
  match seconds? ms with
  | some x => modify (Stage.rest x)
  | none => throw .oversizedPause

def awaitShown (page : PageHandle) (selector : String) (timeout : Number) : Act Unit :=
  page.waitForSelector selector timeout (some true) none

def judge [Pattern.Host] (what actual pattern : String) (message : Option String)
    (exact : Option Bool) : StepAct Value :=
  match Pattern.compare actual pattern (exact.getD false) with
  | .ok matched => return (Verdict.ofMatch what actual pattern message matched).toValue
  | .error f => throw (.comparison f)

/-- Gives a verdict, if it can be written out. -/
def give : Except Unwritable Verdict → StepAct Value
  | .ok v => return v.toValue
  | .error f => throw (.unwritable f)

def judgeSelector (page : PageHandle) (selector : String) (message : Option String)
    (visible : Option Bool) (expected : Option Int) : StepAct Value := do
  let count ← page.count selector
  match expected with
  | some n => give (Verdict.ofCount selector n count)
  | none =>
    if visible = some true then
      let shown ← if 0 < count then page.isVisible selector else pure false
      return (Verdict.ofVisibility selector shown).toValue
    else give (Verdict.ofPresence selector count message)

def plainly (act : Act Unit) : StepAct Value := do
  act
  return .null

/-- Performs an action: what it answers, null for most. -/
def perform [Pattern.Host] (page : PageHandle) (s : Settings) : Action → StepAct Value
  | ⟨.click, _, (selector, timeout, button, clickCount, delay, ())⟩ => plainly do
    awaitShown page selector (timeoutFor .click timeout)
    let clicks := clickCount.getD 1
    page.click selector (Verdict.orElse button "left") (if clicks = 0 then 1 else clicks)
      (nonZero delay 0)
  | ⟨.type, _, (selector, text, timeout, delay, ())⟩ => plainly do
    awaitShown page selector (timeoutFor .type timeout)
    page.type selector text (nonZero delay 0)
  | ⟨.clear, _, (selector, timeout, ())⟩ => plainly do
    awaitShown page selector (timeoutFor .type timeout)
    discard (page.evaluate PageScript.clearValue (.text selector))
  | ⟨.select, _, (selector, choice, timeout, ())⟩ => plainly do
    awaitShown page selector (timeoutFor .select timeout)
    page.select selector choice.values
  | ⟨.hover, _, (selector, timeout, ())⟩ => plainly do
    awaitShown page selector (timeoutFor .hover timeout)
    page.hover selector
  | ⟨.focus, _, (selector, timeout, ())⟩ => plainly do
    awaitShown page selector (timeoutFor .focus timeout)
    page.focus selector
  | ⟨.press, _, (key, delay, ())⟩ => plainly (page.press key (nonZero delay 0))
  | ⟨.waitForSelector, _, (selector, timeout, visible, hidden, ())⟩ =>
    plainly (page.waitForSelector selector (timeoutFor .waitForSelector timeout) visible hidden)
  | ⟨.waitForNavigation, _, (timeout, waitUntil, ())⟩ =>
    plainly (page.waitForNavigation (navigation s .waitForNavigation timeout waitUntil))
  | ⟨.waitForTimeout, _, (ms, ())⟩ => do
    pause (pauseOf s ms)
    return .null
  | ⟨.waitForFunction, _, (script, timeout, polling, ())⟩ =>
    plainly (page.waitForFunction script (timeoutFor .waitForFunction timeout)
      (pollingOf s polling))
  | ⟨.goto, _, (url, timeout, waitUntil, ())⟩ =>
    plainly (page.goto url (navigation s .goto timeout waitUntil))
  | ⟨.goBack, _, (timeout, waitUntil, ())⟩ =>
    plainly (page.goBack (navigation s .goBack timeout waitUntil))
  | ⟨.goForward, _, (timeout, waitUntil, ())⟩ =>
    plainly (page.goForward (navigation s .goForward timeout waitUntil))
  | ⟨.reload, _, (timeout, waitUntil, ())⟩ =>
    plainly (page.reload (navigation s .reload timeout waitUntil))
  | ⟨.scroll, _, (selector, x, y, behavior, ())⟩ => plainly do
    let offset : Entries :=
      [("x", .ofFloat? x), ("y", .ofFloat? y), ("behavior", .ofText? behavior)]
    let target := selector.getD ""
    discard <|
      if target = "" then page.evaluate PageScript.scrollWindow (.object offset)
      else page.evaluate PageScript.scrollElement (.object (("selector", .text target) :: offset))
  | ⟨.scrollToElement, _, (selector, block, inline, behavior, ())⟩ => plainly do
    discard (page.evaluate PageScript.scrollIntoView (.object [
      ("selector", .text selector), ("block", .ofText? block), ("inline", .ofText? inline),
      ("behavior", .ofText? behavior)]))
  | ⟨.evaluate, _, (script, ())⟩ => page.evaluate script .null
  | ⟨.setViewport, _, (width, height, scale, mobile, touch, ())⟩ =>
    plainly (page.setViewport width height (nonZero scale 1) (mobile.getD false)
      (touch.getD false))
  | ⟨.assert, _, (script, message, ())⟩ => do
    return Verdict.ofScript (← page.evaluate script .null) message
  | ⟨.assertSelector, _, (selector, message, visible, count, ())⟩ =>
    judgeSelector page selector message visible count
  | ⟨.assertText, _, (selector, text, message, _, exact, ())⟩ => do
    match ← page.textContent selector with
    | none => return (Verdict.ofMissing selector message).toValue
    | some content => return (Verdict.ofText content text (exact.getD false)).toValue
  | ⟨.assertUrl, _, (pattern, message, exact, ())⟩ => do
    judge "URL" (← page.currentUrl) pattern message exact
  | ⟨.assertTitle, _, (pattern, message, exact, ())⟩ => do
    judge "Title" (← page.title) pattern message exact

/-- A step that is an action, or fails to be one; the settings are asked for only if it is. -/
def attempt [Pattern.Host] (page : PageHandle) (settings : Except SettingsFault Settings)
    (action : Except ActionFault Action) : StepAct Value :=
  match action with
  | .error f => throw (.action f)
  | .ok a =>
    match settings with
    | .error f => throw (.settings f)
    | .ok s => perform page s a

/-- Runs a step that goes by a name, and tells what came of it. -/
def report (name : String) (act : StepAct Value) (s : Stage) : StepResult × Stage :=
  match act s with
  | .ok v s' => (⟨true, .text name, s'.since s.clock, v, none, none, .null⟩, s')
  | .error f s' =>
    (⟨false, .text name, s'.since s.clock, .null, some f.text, none, .null⟩,
      s'.tell ⟨.debug, .step, "Action " ++ name ++ " failed"⟩)

def runAction [Pattern.Host] (page : PageHandle) (settings : Except SettingsFault Settings)
    (a : Action) : Stage → StepResult × Stage :=
  report a.name (attempt page settings (.ok a))

/-- The name under which a value is run as a step. -/
def nameOf (v : Value) : String := v.actionName?.getD "unknown"

def run [Pattern.Host] (page : PageHandle) (settings : Except SettingsFault Settings) (v : Value) :
    Stage → StepResult × Stage :=
  report (nameOf v) (attempt page settings (Action.ofValue v))

end Step

end Walkthrough
