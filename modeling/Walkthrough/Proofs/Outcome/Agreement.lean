import Walkthrough.Outcome
import Walkthrough.Proofs.Assertions
import Walkthrough.Proofs.Run.Account
import Walkthrough.Proofs.Run.Muted

/-!
An instruction and a test of one source, begun on the same page, are the same run. They differ in
what they make of it: a test also asks whether all assertions passed, and has no outcome where the
message of one that has not cannot be written out.
-/
namespace Walkthrough

/-- The assertions of a run; none when there was no run. -/
def Outcome.records (run : Option RunResult) : List AssertionRecord :=
  match run with
  | some r => (AssertionSummary.ofResults r.results).records
  | none => []

/-- Why a source fails, and the message that says so: it is not read, it is rejected, or one of its
steps fails, the first that does. -/
inductive Outcome.FailsBy (source : Source) : Option RunResult → String → Prop
  | unread {f : SourceFault} (read : source.read = .error f) : FailsBy source none f.message
  | rejected {v : Value} {verdict : SequenceVerdict} {r : RunResult} (read : source.read = .ok v)
      (checked : validateSequence v = .ok verdict) (valid : verdict.valid = false)
      (results : r.results = []) :
      FailsBy source (some r) ("Invalid action sequence: " ++ "; ".intercalate verdict.errors)
  | step {v : Value} {r : RunResult} {before after : List StepResult} {x : StepResult}
      {label error : String} (read : source.read = .ok v)
      (accepted : v.IsAccepted) (results : r.results = before ++ x :: after)
      (before_success : ∀ y ∈ before, y.success = true) (failed : x.success = false)
      (label_eq : x.label = .text label) (error_eq : x.error = some error) :
      FailsBy source (some r) ("[" ++ label ++ "] " ++ error)

/-- What an instruction and a test have in common, and what the test adds. -/
structure Outcome.Agree (source : Source) (i : InstructionOutcome) (t : TestOutcome) : Prop where
  run : i.run = t.run
  run_eq_none_iff : i.run = none ↔ ∃ f, source.read = .error f
  passed_iff : t.passed = true ↔
    i.success = true ∧ ∀ a ∈ Outcome.records i.run, a.passed = true
  failure : i.success = false →
    ∃ e, i.error = some e ∧ e ≠ "" ∧ t.message = e ∧ Outcome.FailsBy source i.run e
  assertion : i.success = true → ∀ before a after,
    Outcome.records i.run = before ++ a :: after → (∀ b ∈ before, b.passed = true) →
    a.passed = false → t.message = "[" ++ a.label.display ++ "] " ++
      if a.message.truthy then a.message.display else "Assertion failed"
  message : t.passed = true → Outcome.records i.run ≠ [] →
    t.message = toString (Outcome.records i.run).length ++ "/" ++
      toString (Outcome.records i.run).length ++ " assertion(s) passed"

namespace Run
variable [Pattern.Host] {page : PageHandle} {c : Settings} {o : RunOptions} {v : Value} {s : Stage}
  {r : RunResult}

end Run

namespace Outcome
variable {r : RunResult} {a : AssertionRecord} {label message : String}

def IsFirstFailure (run : Option RunResult) (a : AssertionRecord) : Prop :=
  ∃ before after, records run = before ++ a :: after ∧ (∀ b ∈ before, b.passed = true) ∧
    a.passed = false

section
variable {s : AssertionSummary}

end

section
variable {source : Source} {v : Value} (hread : source.read = .ok v)
include hread

end

open scoped Walkthrough.Pattern.Host

end Outcome

end Walkthrough
