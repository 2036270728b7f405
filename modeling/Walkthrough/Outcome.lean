import Walkthrough.Assertions
import Walkthrough.Run
import Walkthrough.Source

/-!
What a sequence is run for: an instruction prepares a page and has only to succeed, and a test is
about its assertions.
-/
namespace Walkthrough

structure InstructionOutcome where
  success : Bool
  error : Option String
  run : Option RunResult

structure TestOutcome where
  passed : Bool
  message : String
  /-- In whole milliseconds. -/
  duration : Int
  assertions : Option AssertionSummary
  run : Option RunResult

/-- The entry of an object that may be missing. -/
def entriesUnder (key : String) (es : Option Entries) : Entries :=
  match es with
  | some es => [(key, .object es)]
  | none => []

def InstructionOutcome.toEntries (o : InstructionOutcome) : Entries :=
  [("success", .bool o.success), ("error", .ofText? o.error)] ++
    entriesUnder "execution" (o.run.map RunResult.toEntries)

def TestOutcome.toEntries (o : TestOutcome) : Entries :=
  [("passed", .bool o.passed), ("message", .text o.message),
    ("executionTimeMs", .int o.duration)] ++
    entriesUnder "assertions" (o.assertions.map AssertionSummary.toEntries) ++
    entriesUnder "execution" (o.run.map RunResult.toEntries)

def labelled (label : Value) (message : String) : Except Unwritable String :=
  label.write.map fun s => "[" ++ s ++ "] " ++ message

/-- Why a run failed: its own error, or that of the first step that failed. -/
def RunResult.failureMessage (r : RunResult) : Except Unwritable String :=
  let error := r.error.getD ""
  if error ≠ "" then .ok error
  else
    match r.failedStep? with
    | some s => labelled s.label (Value.displayText? s.error)
    | none => .ok "Action sequence failed"

/-- A message, or another one if it is not given. -/
def messageOr (message : Value) (other : String) : Except Unwritable String :=
  if message.truthy then message.write else .ok other

/-- Why a run comes to no outcome. -/
inductive RunFault
  | settings (fault : SettingsFault)
  /-- Something in the run or in its outcome cannot be written out. -/
  | unwritable (fault : Unwritable)
  deriving DecidableEq, Repr

def RunFault.message : RunFault → String
  | .settings f => f.message
  | .unwritable f => f.message

namespace Outcome

/-- Writes a log record about a source that is not run. -/
def refuse (what error : String) : Stage → Stage :=
  Stage.tell ⟨.error, .outcome, what ++ " not run: " ++ error⟩

def instruction (r : RunResult) : Except Unwritable InstructionOutcome :=
  if r.success then .ok ⟨true, none, some r⟩
  else r.failureMessage.map fun message => ⟨false, some message, some r⟩

/-- The verdict on a test that was run: whether it passed, and a message. -/
def verdict (r : RunResult) (s : AssertionSummary) : Except Unwritable (Bool × String) :=
  if !r.success then r.failureMessage.map (false, ·)
  else
    match s.firstFailure? with
    | some a => do
      let message ← messageOr a.message "Assertion failed"
      return (false, ← labelled a.label message)
    | none =>
      if s.total = 0 then .ok (true, "Sequence completed with no assertions")
      else .ok (true, toString s.passed ++ "/" ++ toString s.total ++ " assertion(s) passed")

/-- The outcome of a test that was run and took so many milliseconds. -/
def test (r : RunResult) (duration : Int) : Except Unwritable TestOutcome :=
  let summary := AssertionSummary.ofResults r.results
  (verdict r summary).map fun (passed, message) =>
    ⟨passed, message, duration, some summary, some r⟩

/-- Runs a source as an instruction; settings are asked for only if it is read. -/
def runInstruction [Pattern.Host] (page : PageHandle) (settings : Except SettingsFault Settings)
    (source : Source) (s : Stage) : Except RunFault InstructionOutcome × Stage :=
  match source.read with
  | .error e => (.ok ⟨false, some e.message, none⟩, refuse "Instruction" e.message s)
  | .ok v =>
    match settings with
    | .error f => (.error (.settings f), s)
    | .ok c =>
      let (r, s) := Run.sequence page c (c.options none "Instruction") v s
      ((r.bind instruction).mapError .unwritable, s)

/-- Runs a source as a test; settings are asked for only if it is read. -/
def runTest [Pattern.Host] (page : PageHandle) (settings : Except SettingsFault Settings)
    (source : Source) (s : Stage) : Except RunFault TestOutcome × Stage :=
  match source.read with
  | .error e => (.ok ⟨false, e.message, 0, none, none⟩, refuse "Test" e.message s)
  | .ok v =>
    match settings with
    | .error f => (.error (.settings f), s)
    | .ok c =>
      let (r, s') := Run.sequence page c (c.options none "Test") v s
      ((r.bind (test · (s'.since s.clock))).mapError .unwritable, s')

end Outcome

end Walkthrough
