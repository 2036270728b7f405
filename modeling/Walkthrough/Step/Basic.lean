import Walkthrough.Action.Basic
import Walkthrough.Page.Stage
import Walkthrough.Pattern.Match
import Walkthrough.Settings

/-! What comes of a step: a result, or the fault for which it failed. -/
namespace Walkthrough

inductive StepFault
  | action (fault : ActionFault)
  | settings (fault : SettingsFault)
  | page (fault : PageFault)
  | comparison (fault : Pattern.MatchFault)
  /-- The verdict on a count cannot be written out. -/
  | unwritable (fault : Unwritable)
  | oversizedPause

def StepFault.text : StepFault → String
  | .action f => f.message
  | .settings f => f.message
  | .page f => f.text
  | .comparison f => f.message
  | .unwritable f => f.message
  | .oversizedPause => "integer division result too large for a float"

/-- What came of a step; null stands for a result or a label that is not there. -/
structure StepResult where
  success : Bool
  action : Value
  /-- In whole milliseconds. -/
  duration : Int
  result : Value
  error : Option String
  /-- Counted from one. -/
  stepIndex : Option Int
  label : Value

namespace StepResult

def entry (key : String) (v : Value) : Entries :=
  match v with
  | .null => []
  | v => [(key, v)]

def toEntries (r : StepResult) : Entries :=
  ("action", r.action) ::
    (match r.stepIndex with
      | some n => [("stepIndex", .int n)]
      | none => []) ++
    entry "label" r.label ++
    [("success", .bool r.success), ("duration", .int r.duration)] ++
    entry "result" r.result ++ entry "error" (.ofText? r.error)

/-- The result of a step as the one with an index, under a label. -/
def placed (r : StepResult) (index : Nat) (label : String) : StepResult :=
  { r with stepIndex := some index, label := .text label }

end StepResult

end Walkthrough
