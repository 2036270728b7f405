import Walkthrough.Step.Perform
import Walkthrough.Validation

/-!
Running a sequence: it is checked as a whole, and only one without errors is performed, step by
step. A failed step ends the run, or does not, as the settings or the caller say. A run is broken
off where a step cannot be announced, because what it is aimed at cannot be written out.
-/
namespace Walkthrough

structure RunResult where
  success : Bool
  results : List StepResult
  totalSteps : Nat
  completedSteps : Nat
  /-- In whole milliseconds. -/
  totalDuration : Int
  /-- Why no step was performed. -/
  error : Option String

namespace RunResult

def failedStep? (r : RunResult) : Option StepResult :=
  r.results.find? (!·.success)

def toEntries (r : RunResult) : Entries :=
  [("success", .bool r.success), ("results", .list (r.results.map fun s => .object s.toEntries)),
    ("totalSteps", .int r.totalSteps), ("completedSteps", .int r.completedSteps),
    ("totalDuration", .int r.totalDuration)] ++
    StepResult.entry "error" (.ofText? r.error)

def rejected (errors : List String) : RunResult :=
  ⟨false, [], 0, 0, 0, some ("Invalid action sequence: " ++ "; ".intercalate errors)⟩

/-- The result of a sequence of so many steps, from whether none has failed and from those of the
steps that were performed. -/
def ofSteps (total : Nat) (success : Bool) (rs : List StepResult) : RunResult where
  success
  results := rs
  totalSteps := total
  completedSteps := rs.length
  totalDuration := rs.foldl (fun sum r => sum + r.duration) 0
  error := none

end RunResult

/-- How a run is done, beside the settings of its steps. -/
structure RunOptions where
  stopOnError : Bool
  logPrefix : String
  deriving DecidableEq, Repr

/-- The options that are asked for; without them, or with an empty prefix, the settings decide. -/
def Settings.options (s : Settings) (stopOnError : Option Bool) (logPrefix : String) :
    RunOptions where
  stopOnError := stopOnError.getD s.stopOnError
  logPrefix := if logPrefix = "" then s.logPrefix else logPrefix

namespace Run

/-- The label of a step: its own, or its number. -/
def labelOf (v : Value) (index : Nat) : Except Unwritable String :=
  let label := v.field "label"
  if label.truthy then label.write else .ok (stepNumber index)

/-- What a step is aimed at, as the log tells it. -/
def targetOf (v : Value) : Except Unwritable String :=
  let selector := v.field "selector"
  if selector.truthy then selector.write.map fun s => " on \"" ++ s ++ "\"" else .ok ""

def tell (o : RunOptions) (level : LogLevel) (message : String) : Stage → Stage :=
  Stage.tell ⟨level, .run, o.logPrefix ++ ": " ++ message⟩

def beginning (label target : String) (v : Value) : String :=
  "[" ++ label ++ "] " ++ (v.field "action").display ++ target

def completion (label : String) (r : StepResult) : String :=
  "[" ++ label ++ "] Completed in " ++ String.ofList (Number.integerText r.duration) ++ "ms"

def failure (label : String) (r : StepResult) : String :=
  "[" ++ label ++ "] Failed: " ++ Value.displayText? r.error

/-- How a run announces a step: its label, and what it is aimed at. -/
def announcement (v : Value) (index : Nat) : Except Unwritable (String × String) := do
  return (← labelOf v index, ← targetOf v)

/-- Runs the step at an index, the first having index zero. -/
def step [Pattern.Host] (page : PageHandle) (settings : Settings) (o : RunOptions) (index : Nat)
    (v : Value) (s : Stage) : Except Unwritable StepResult × Stage :=
  match announcement v index with
  | .error f => (.error f, s)
  | .ok (label, target) =>
    let (r, s) := Step.run page (.ok settings) v (tell o .info (beginning label target v) s)
    let s :=
      if r.success then tell o .info (completion label r) s else tell o .error (failure label r) s
    (.ok (r.placed (index + 1) label), s)

structure Progress where
  /-- Whether no step has failed. -/
  success : Bool
  results : List StepResult
  /-- Why the run was broken off. -/
  fault : Option Unwritable

/-- The progress of a run that has performed one more step before. -/
def Progress.after (r : StepResult) (p : Progress) : Progress :=
  { p with results := r :: p.results }

/-- Runs steps, the first of them having the given index; `success` tells whether none has failed
before. -/
def steps [Pattern.Host] (page : PageHandle) (settings : Settings) (o : RunOptions) (index : Nat)
    (success : Bool) : List Value → Stage → Progress × Stage
  | [], s => (⟨success, [], none⟩, s)
  | v :: vs, s =>
    match step page settings o index v s with
    | (.error f, s) => (⟨success, [], some f⟩, s)
    | (.ok r, s) =>
      if r.success then
        (steps page settings o (index + 1) success vs s).map (.after r) id
      else if o.stopOnError then
        (⟨false, [r], none⟩, tell o .info "Stopping execution due to error" s)
      else (steps page settings o (index + 1) false vs s).map (.after r) id

/-- The result of a run of so many steps that has come so far, unless it was broken off. -/
def Progress.result (total : Nat) (p : Progress) : Except Unwritable RunResult :=
  match p.fault with
  | some f => .error f
  | none => .ok (.ofSteps total p.success p.results)

def accepted [Pattern.Host] (page : PageHandle) (settings : Settings) (o : RunOptions)
    (vs : List Value) (s : Stage) : Except Unwritable RunResult × Stage :=
  let s := tell o .info ("Executing " ++ toString vs.length ++ " action(s)") s
  let (p, s) := steps page settings o 0 true vs s
  (p.result vs.length, s)

/-- Runs a sequence, if it has no errors. -/
def sequence [Pattern.Host] (page : PageHandle) (settings : Settings) (o : RunOptions) (v : Value)
    (s : Stage) : Except Unwritable RunResult × Stage :=
  let s := { s with log := s.log ++ validationRecords v }
  match validateSequence v with
  | .error f => (.error f, s)
  | .ok verdict =>
    if verdict.valid then accepted page settings o ((v.steps?).getD []) s
    else
      let r := RunResult.rejected verdict.errors
      (.ok r, tell o .error (Value.displayText? r.error) s)

end Run

end Walkthrough
