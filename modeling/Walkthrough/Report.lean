import Walkthrough.Source
import Walkthrough.Text.Substring
import Walkthrough.Validation

/-! Reports for editors: every step of a sequence with its verdict, and a summary. -/
namespace Walkthrough

/-- A step of a report, counted from one. -/
structure StepReport where
  index : Nat
  action : Value
  label : Value
  verdict : ActionVerdict

/-- Why a source has no steps to report on. -/
inductive ReportFault
  | unread (fault : SourceFault)
  | noSteps
  deriving DecidableEq, Repr

def ReportFault.message : ReportFault → String
  | .unread f => f.message
  | .noSteps => SequenceError.noSteps.message

/-- A report: on each step of a source, or why there are none. -/
inductive Report
  | refused (fault : ReportFault)
  | onSteps (steps : List StepReport)

structure ReportSummary where
  total : Nat
  valid : Nat
  invalid : Nat
  errors : Nat
  warnings : Nat
  deriving DecidableEq, Repr

def ReportSummary.toEntries (s : ReportSummary) : Entries :=
  [("total", .int s.total), ("valid", .int s.valid), ("invalid", .int s.invalid),
    ("errors", .int s.errors), ("warnings", .int s.warnings)]

def StepReport.toEntries (s : StepReport) : Entries :=
  [("index", .int s.index), ("action", s.action), ("label", s.label),
    ("valid", .bool s.verdict.valid), ("error", .ofText? s.verdict.error),
    ("warnings", .list (s.verdict.warnings.map .text))]

/-- The report on a step with a verdict. -/
def StepReport.of (v : Value) (index : Nat) (verdict : ActionVerdict) : StepReport :=
  let action := v.field "action"
  let label := v.field "label"
  { index := index + 1
    action := if action.truthy then action else .text "unknown"
    label := if label.truthy then label else .null
    verdict }

/-- The reports on steps, the first of them having the given index. -/
def stepReports (index : Nat) : List Value → Except Unwritable (List StepReport)
  | [] => .ok []
  | v :: vs => do
    let r ← validateStep v index
    let rs ← stepReports (index + 1) vs
    return StepReport.of v index r :: rs

namespace Report

def ofSource (s : Source) : Except Unwritable Report :=
  match s.read with
  | .error e => .ok (.refused (.unread e))
  | .ok v =>
    match v.steps? with
    | none => .ok (.refused .noSteps)
    | some steps => (stepReports 0 steps).map .onSteps

def steps : Report → List StepReport
  | .refused _ => []
  | .onSteps rs => rs

def errors (r : Report) : List String :=
  r.steps.filterMap (·.verdict.error)

def warnings (r : Report) : List String :=
  r.steps.flatMap (·.verdict.warnings)

def invalidSteps (r : Report) : List StepReport :=
  r.steps.filter fun s => !s.verdict.valid

/-- Whether there are steps and none of them is rejected. -/
def valid : Report → Bool
  | .refused _ => false
  | .onSteps rs => rs.all (·.verdict.valid)

/-- The counts of a report; a source that is refused counts as one error. -/
def summary (r : Report) : ReportSummary :=
  match r with
  | .refused _ => ⟨0, 0, 0, 1, 0⟩
  | .onSteps rs =>
    let invalid := r.invalidSteps.length
    ⟨rs.length, rs.length - invalid, invalid, invalid, r.warnings.length⟩

/-- What an editor shows of a report that is not valid. -/
def message? (r : Report) : Option String :=
  match r with
  | .refused f => some f.message
  | .onSteps _ =>
    if r.valid then none
    else
      let base := s!"Script validation failed with {r.summary.invalid} error(s):\n" ++
        "; ".intercalate r.errors
      if r.errors.any (Text.contains · "Unknown action type") then
        some (base ++ "\n\nKnown action types: " ++ ", ".intercalate ActionKind.names)
      else some base

def toEntries (r : Report) : Entries :=
  [("valid", .bool r.valid), ("steps", .list (r.steps.map fun s => .object s.toEntries)),
    ("summary", .object r.summary.toEntries)] ++
    match r with
    | .refused f => [("parseError", .text f.message)]
    | .onSteps _ =>
      [("errors", .list (r.errors.map .text)), ("warnings", .list (r.warnings.map .text))]

end Report

end Walkthrough
