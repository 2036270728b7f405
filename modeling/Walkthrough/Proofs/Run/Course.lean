import Mathlib.Data.List.Forall2
import Walkthrough.Proofs.Run.Steps
import Walkthrough.Proofs.Step.Course

/-!
What happens in a run is what happens in the steps that it performs, one after the other: what holds
of the events of every step holds of those of a run, group by group.
-/
namespace Walkthrough.Run
variable {page : PageHandle} {c : Settings} {o : RunOptions} {P : Value → List Event → Prop}

theorem course_tell {s t : Stage} {es : List Event} (h : Course page s es t) (level : LogLevel)
    (message : String) : Course page s es (tell o level message t) :=
  h.tell _

section
variable [Pattern.Host] (hP : ∀ (v : Value) (s : Stage), ∃ es,
  Course page s es (Step.run page (.ok c) v s).2 ∧ P v es)
include hP

theorem exists_step_course (index : Nat) (v : Value) (s : Stage) :
    ∃ es, Course page s es (performStep page c o index v s).2 ∧ P v es := by
  let started := tell o .info (beginning (labelText v index) (targetText v) v) s
  have hbegin : Course page s [] started := course_tell .refl _ _
  obtain ⟨es, hrun, hes⟩ := hP v started
  refine ⟨es, ?_, hes⟩
  unfold performStep
  dsimp only
  split
  · exact course_tell (hbegin.trans hrun) _ _
  · exact course_tell (hbegin.trans hrun) _ _

/-- The steps that a run performs are as many as its results. -/
theorem exists_steps_course (index : Nat) (vs : List Value) (s : Stage) :
    ∃ groups, List.Forall₂ P (vs.take (performSteps page c o index vs s).1.length) groups ∧
      Course page s groups.flatten (performSteps page c o index vs s).2 := by
  induction vs generalizing index s with
  | nil => exact ⟨[], .nil, .refl⟩
  | cons v vs ih =>
    obtain ⟨es, hstep, hes⟩ := @exists_step_course page c o P _ hP index v s
    rw [performSteps]
    dsimp only
    split
    · refine ⟨[es], .cons hes .nil, ?_⟩
      rw [List.flatten_singleton]
      exact course_tell hstep _ _
    · obtain ⟨groups, hgroups, hrest⟩ := ih (index + 1) (performStep page c o index v s).2
      refine ⟨es :: groups, .cons hes hgroups, ?_⟩
      rw [List.flatten_cons]
      exact hstep.trans hrest

/-- However a run ends, it has performed some first steps of the sequence: as many as it has
results, if it comes to one. -/
theorem exists_sequence_course (v : Value) (s : Stage) :
    ∃ n groups, (∀ r, (sequence page c o v s).1 = .ok r → n = r.results.length) ∧
      List.Forall₂ P ((v.steps?.getD []).take n) groups ∧
      Course page s groups.flatten (sequence page c o v s).2 := by
  obtain ⟨rs, hstage, hresults⟩ | ⟨hstage, hresults⟩ := sequence_cases page c o v s
  · refine ⟨0, [], fun r hr => by rw [hresults r hr]; rfl, .nil, ?_⟩
    rw [hstage]
    exact Course.refl.log rs
  · obtain ⟨groups, hgroups, hsteps⟩ := @exists_steps_course page c o P _ hP 0
      ((v.steps?.getD []).takeWhile Value.isAnnounced)
      (begun o (v.steps?.getD []) (checked v s))
    rw [take_takeWhile (length_performSteps_le _ _ _)] at hgroups
    refine ⟨_, groups, fun r hr => by rw [hresults r hr], hgroups, ?_⟩
    have hchecked : Course page s [] (checked v s) := Course.refl.log _
    rw [hstage]
    exact (course_tell hchecked _ _).trans hsteps

end
end Walkthrough.Run
