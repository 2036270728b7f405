import Walkthrough.Log
import Walkthrough.Value.Basic

/-!
A page that follows rules: what it shows, which calls fail, which calls change it, and how long
calls take. It keeps a clock, the calls made on it, and what was logged meanwhile.
-/
namespace Walkthrough

structure Element where
  text : Option String
  visible : Bool
  deriving DecidableEq, Repr

/-- What a page shows: of two entries for a selector or a script the first one counts. -/
structure PageContent where
  url : String
  title : String
  /-- The elements that match each selector. -/
  elements : List (String × List Element)
  /-- What evaluating each script returns. -/
  answers : List (String × Value)

inductive PageFaultKind
  | runtime
  | timeout
  | value
  | browser
  deriving DecidableEq, Repr

def PageFaultKind.name : PageFaultKind → String
  | .runtime => "RuntimeError"
  | .timeout => "TimeoutError"
  | .value => "ValueError"
  | .browser => "Error"

structure PageFault where
  kind : PageFaultKind
  message : String
  deriving DecidableEq, Repr

/-- The report of an error: its message, or the name of its kind when that is empty. -/
def PageFault.text (f : PageFault) : String :=
  if f.message = "" then f.kind.name else f.message

structure PageCall where
  method : String
  args : List Value
  named : Entries

/-- What a call is aimed at: its first argument, if that is a text. -/
def PageCall.target? (c : PageCall) : Option String :=
  match c.args with
  | .text s :: _ => some s
  | _ => none

/-- Which calls a rule is about: those of a method, on one target or on any. -/
structure CallFilter where
  method : String
  target : Option String
  deriving DecidableEq, Repr

def CallFilter.matches (f : CallFilter) (c : PageCall) : Bool :=
  f.method == c.method && (f.target.isNone || f.target == c.target?)

/-- A rule by which calls fail: always, or so many times. -/
structure FailureRule where
  filter : CallFilter
  fault : PageFault
  times : Option Int
  deriving DecidableEq, Repr

def FailureRule.fires (r : FailureRule) (c : PageCall) : Bool :=
  r.filter.matches c &&
    match r.times with
    | none => true
    | some n => 0 < n

/-- The error of the first rule that makes a call fail, and the rules after that. -/
def failureOf? (c : PageCall) : List FailureRule → Option (PageFault × List FailureRule)
  | [] => none
  | r :: rs =>
    if r.fires c then some (r.fault, { r with times := r.times.map (· - 1) } :: rs)
    else (failureOf? c rs).map fun (fault, rs) => (fault, r :: rs)

structure ChangeRule where
  filter : CallFilter
  url : Option String
  title : Option String
  elements : List (String × List Element)
  answers : List (String × Value)

def ChangeRule.apply (r : ChangeRule) (p : PageContent) : PageContent :=
  { url := r.url.getD p.url
    title := r.title.getD p.title
    elements := r.elements ++ p.elements
    answers := r.answers ++ p.answers }

/-- A page that follows rules, and what has happened on it. -/
structure Stage where
  content : PageContent
  failures : List FailureRule
  changes : List ChangeRule
  /-- The milliseconds that calls of a method take. -/
  latency : List (String × Number)
  /-- Seconds since the start. -/
  clock : Float
  calls : List PageCall
  log : List LogRecord

/-- The page that shows so, without rules and without a history. -/
def PageContent.opened (p : PageContent) : Stage := ⟨p, [], [], [], 0.0, [], []⟩

/-- What is done on a page: it ends with an answer or an error, and the page stays as it is then. -/
abbrev Act := EStateM PageFault Stage

namespace Stage

def matching (s : Stage) (selector : String) : List Element :=
  (s.content.elements.lookup selector).getD []

def answer (s : Stage) (script : String) : Value :=
  (s.content.answers.lookup script).getD .null

/-- Whether the first match of a selector is shown. -/
def showsFirst (s : Stage) (selector : String) : Bool :=
  match s.matching selector with
  | [] => false
  | e :: _ => e.visible

def delayOf (s : Stage) (c : PageCall) : Float :=
  match s.latency.lookup c.method with
  | some ms => ms.thousandth
  | none => 0.0

/-- The page right after a call has begun: the call is noted and its time has passed. -/
def enter (s : Stage) (c : PageCall) : Stage :=
  { s with calls := s.calls ++ [c], clock := s.clock + s.delayOf c }

/-- The page after all changes that a call makes. -/
def change (s : Stage) (c : PageCall) : Stage :=
  let step (p : PageContent) (r : ChangeRule) : PageContent :=
    if r.filter.matches c then r.apply p else p
  { s with content := s.changes.foldl step s.content }

/-- Makes a call: it is noted, takes its time, and fails or changes the page. -/
def hit (c : PageCall) : Act Unit := fun s =>
  let s := s.enter c
  match failureOf? c s.failures with
  | some (fault, failures) => .error fault { s with failures }
  | none => .ok () (s.change c)

def tell (r : LogRecord) (s : Stage) : Stage :=
  { s with log := s.log ++ [r] }

def visit (url : String) (s : Stage) : Stage :=
  { s with content := { s.content with url } }

/-- Rests for some seconds; a time that is not positive does not count. -/
def rest (seconds : Float) (s : Stage) : Stage :=
  { s with
    calls := s.calls ++ [⟨"sleep", [.float seconds], []⟩]
    clock := if 0.0 < seconds then s.clock + seconds else s.clock }

/-- The whole milliseconds from an earlier time until now. -/
def since (s : Stage) (start : Float) : Int :=
  Number.Binary64.truncate ((s.clock - start) * 1000.0)

end Stage

end Walkthrough
