import Mathlib.Algebra.Ring.Int.Defs
import Walkthrough.Proofs.Run.Steps

/-!
The account that a run gives of itself: which step each result is about, under which label, and
figures that agree with the results, however the run ends.
-/
namespace Walkthrough

/-- A result that is about the step at an index, under the label that messages about it bear. -/
structure StepResult.IsAbout (r : StepResult) (index : Nat) (v : Value) : Prop where
  stepIndex : r.stepIndex = some (index + 1)
  action : r.action = v.field "action"
  label : r.label = .text (if (v.field "label").truthy then (v.field "label").display
    else "Step " ++ toString (index + 1))
  messages : ∀ label verdict, r.label = .text label → validateAction v index = .ok verdict →
    ∀ m ∈ verdict.messages, ∃ rest,
      m = (if (v.field "label").truthy then "\"" ++ label ++ "\"" else label) ++ ": " ++ rest

/-- The result of a run of steps that accounts for them: those performed, in order, and figures. -/
structure RunResult.IsAccountOf (r : RunResult) (vs : List Value) (stops : Bool) : Prop where
  about : ∀ (i : Nat) (x : StepResult), r.results[i]? = some x →
    ∃ v, vs[i]? = some v ∧ x.IsAbout i v
  coherent : ∀ x ∈ r.results, x.Coherent
  completedSteps : r.completedSteps = r.results.length
  totalSteps : r.totalSteps = vs.length
  totalDuration : r.totalDuration = (r.results.map (·.duration)).sum
  success_iff : r.success = true ↔ ∀ x ∈ r.results, x.success = true
  failedStep_iff : r.success = true ↔ r.failedStep? = none
  goes_on : stops = false → r.completedSteps = r.totalSteps
  stops_late : stops = true → ∀ (i : Nat) (x : StepResult), i + 1 < r.results.length →
    r.results[i]? = some x → x.success = true
  stops_early : stops = true → r.completedSteps < r.totalSteps →
    ∃ x, r.results.getLast? = some x ∧ x.success = false

theorem stepNumber_natCast (index : Nat) :
    stepNumber index = "Step " ++ toString (index + 1) := by
  have hn : ¬((index : Int) + 1 < 0) := by omega
  have habs : ((index : Int) + 1).natAbs = index + 1 := by omega
  simp only [stepNumber, Number.integerText, hn, if_false, habs]
  rfl

theorem RunResult.totalDuration_ofSteps (total : Nat) (success : Bool) (rs : List StepResult) :
    (ofSteps total success rs).totalDuration = (rs.map (·.duration)).sum := by
  rw [List.sum_eq_foldl, List.foldl_map]
  rfl

namespace Run

theorem labelText_eq (v : Value) (index : Nat) :
    labelText v index = if (v.field "label").truthy then (v.field "label").display
      else "Step " ++ toString (index + 1) := by
  unfold labelText
  rw [stepNumber_natCast]

theorem titleText_eq (v : Value) (index : Nat) :
    titleText v index =
      if (v.field "label").truthy then "\"" ++ labelText v index ++ "\""
      else labelText v index := by
  unfold titleText labelText
  split <;> simp_all

section
variable [Pattern.Host] {page : PageHandle} {c : Settings} {o : RunOptions}

theorem performStep_isAbout {v : Value} (hv : ∃ kind : ActionKind, kind.Admits v) (index : Nat)
    (s : Stage) : (performStep page c o index v s).1.IsAbout index v where
  stepIndex := rfl
  action := by
    obtain ⟨kind, es, -, haction, -⟩ := hv
    change (Step.report _ _ _).1.action = _
    rw [Step.report_action, haction, Step.nameOf, Value.actionName?, haction]
    rfl
  label := congrArg Value.text (labelText_eq v index)
  messages := by
    rintro label verdict hlabel hverdict m hm
    obtain rfl : labelText v index = label := Value.text.inj hlabel
    obtain ⟨-, rfl⟩ := validateAction_eq_ok_iff.mp hverdict
    obtain ⟨rest, rfl⟩ := ActionVerdict.titled_messages hm
    exact ⟨rest, by rw [titleText_eq]⟩

theorem performStep_coherent (index : Nat) (v : Value) (s : Stage) :
    (performStep page c o index v s).1.Coherent :=
  (Step.report_coherent _ _ _).placed _ _

theorem performSteps_isAccountOf {vs : List Value}
    (hvs : ∀ v ∈ vs, ∃ kind : ActionKind, kind.Admits v) (s : Stage) :
    let rs := (performSteps page c o 0 vs s).1
    (RunResult.ofSteps vs.length (rs.all (·.success)) rs).IsAccountOf vs o.stopOnError where
  about := by
    intro i x hx
    obtain ⟨v, t, hv, rfl⟩ := exists_step_of_getElem? hx
    refine ⟨v, hv, ?_⟩
    rw [Nat.zero_add]
    exact performStep_isAbout (hvs v (List.mem_of_getElem? hv)) i t
  coherent := forall_mem_performSteps performStep_coherent 0 vs s
  completedSteps := rfl
  totalSteps := rfl
  totalDuration := RunResult.totalDuration_ofSteps _ _ _
  success_iff := List.all_eq_true
  failedStep_iff := by simp [RunResult.ofSteps, RunResult.failedStep?]
  goes_on ho := length_performSteps_of_continue ho 0 vs s
  stops_late ho := (stop_of_stopOnError ho 0 vs s).1
  stops_early ho := (stop_of_stopOnError ho 0 vs s).2

end

open scoped Walkthrough.Pattern.Host

end Run

end Walkthrough
