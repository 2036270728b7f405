import Walkthrough.Proofs.Outcome.Agreement
import Walkthrough.Report

/-!
The report on a source and the checks before a run say the same: step by step the report has their
verdicts, in total it has their errors and warnings, and what has no report is not run. Both are
broken off at a label that cannot be written out.
-/
namespace Walkthrough

section
variable [Pattern.Host]

namespace Source

end Source

end

/-- The reports on steps under titles that can be written out, the first of the steps having the
given index. -/
def titledReports (index : Nat) (vs : List Value) : List StepReport :=
  (vs.zipIdx index).map fun (v, i) => .of v i (.titled (titleText v i) v)

/-- A report is broken off just when the checks are. -/
theorem stepReports_eq (index : Nat) (vs : List Value) :
    stepReports index vs = (validateSteps index vs).map fun _ => titledReports index vs := by
  induction vs generalizing index with
  | nil => rfl
  | cons v vs ih =>
    rw [stepReports, validateSteps, validateStep_eq, ih]
    cases (v.field "label").isWritable with
    | false => rfl
    | true => cases validateSteps (index + 1) vs <;> rfl

/-- The verdicts of a report on steps are those of the checks, in order. -/
theorem titledReports_verdicts (index : Nat) (vs : List Value) :
    (titledReports index vs).map StepReport.verdict = titledVerdicts index vs := by
  rw [titledReports, List.map_map]
  rfl

namespace Report

theorem message?_eq_none_iff (r : Report) : r.message? = none ↔ r.valid = true := by
  cases r with
  | refused f => simp [message?, valid]
  | onSteps rs =>
    unfold message?
    dsimp only
    split
    next h => simp [h]
    next h => split <;> simp [h]

/-- Every rejected step has an error, and no other step has one. -/
theorem length_invalidSteps (r : Report) : r.invalidSteps.length = r.errors.length := by
  unfold invalidSteps errors
  generalize r.steps = rs
  induction rs with
  | nil => rfl
  | cons s rs ih =>
    cases h : s.verdict.error with
    | none => simpa [ActionVerdict.valid, h, List.filter_cons, List.filterMap_cons] using ih
    | some e => simpa [ActionVerdict.valid, h, List.filter_cons, List.filterMap_cons] using ih

theorem errors_onSteps (index : Nat) (vs : List Value) :
    (onSteps (titledReports index vs)).errors =
      (SequenceVerdict.ofSteps (titledVerdicts index vs)).errors := by
  rw [← titledReports_verdicts, SequenceVerdict.ofSteps, List.filterMap_map]
  rfl

/-- A report is valid if it has no errors. -/
theorem valid_onSteps (rs : List StepReport) :
    (onSteps rs).valid = (onSteps rs).errors.isEmpty := by
  rw [Bool.eq_iff_iff, List.isEmpty_iff, ← List.length_eq_zero_iff, ← length_invalidSteps,
    List.length_eq_zero_iff]
  simp [valid, invalidSteps, steps, List.filter_eq_nil_iff]

section
variable {source : Source} {v : Value} {vs : List Value}

theorem ofSource_of_steps (h : source.read = .ok v) (hvs : v.steps? = some vs) :
    ofSource source = (stepReports 0 vs).map .onSteps := by
  simp only [ofSource, h, hvs]

/-- The report on steps whose labels can all be written out. -/
theorem ofSource_of_labels (h : source.read = .ok v) (hvs : v.steps? = some vs)
    (hlabels : ∀ w ∈ vs, (w.field "label").isWritable = true) :
    ofSource source = .ok (.onSteps (titledReports 0 vs)) := by
  rw [ofSource_of_steps h hvs, stepReports_eq, validateSteps_eq_ok_iff.mpr ⟨hlabels, rfl⟩]
  rfl

end

end Report

section
variable {v : Value} {vs : List Value}

end

open scoped Walkthrough.Pattern.Host

end Walkthrough
