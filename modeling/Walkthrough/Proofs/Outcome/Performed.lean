import Walkthrough.Outcome

/-!
The steps that have been performed when a source has been run as an instruction or as a test: those
that its sequence has performed, and none if it has not been read.
-/
namespace Walkthrough

/-- The steps of a sequence that is handed in; none if it is not read. -/
def Source.steps (source : Source) : List Value :=
  match source.read with
  | .ok v => v.steps?.getD []
  | .error _ => []

namespace Outcome

theorem run_of_instruction {r : RunResult} {i : InstructionOutcome} (h : instruction r = .ok i) :
    i.run = some r := by
  unfold instruction at h
  split at h
  · exact Except.ok.inj h ▸ rfl
  · obtain ⟨message, -, rfl⟩ := map_eq_ok_iff.mp h
    rfl

theorem run_of_test {r : RunResult} {duration : Int} {t : TestOutcome}
    (h : test r duration = .ok t) : t.run = some r := by
  obtain ⟨-, -, rfl⟩ := map_eq_ok_iff.mp h
  rfl

/-- What comes of a run is made of its result. -/
theorem bind_mapError_eq_ok {α : Type} {x : Except Unwritable RunResult}
    {f : RunResult → Except Unwritable α} {a : α}
    (h : (x.bind f).mapError RunFault.unwritable = .ok a) : ∃ r, x = .ok r ∧ f r = .ok a := by
  have hok := mapError_eq_ok_iff.mp h
  cases x with
  | error e => cases hok
  | ok r => exact ⟨r, rfl, hok⟩

section
variable [Pattern.Host] {page : PageHandle} {c : Settings} {source : Source} {s : Stage}
  {Q : List Value → Stage → Prop} (hlog : ∀ rs, Q [] { s with log := s.log ++ rs })
  (hrun : ∀ o v, ∃ n, (∀ r, (Run.sequence page c o v s).1 = .ok r → n = r.results.length) ∧
    Q ((v.steps?.getD []).take n) (Run.sequence page c o v s).2)
include hlog hrun

/-- What holds of the steps performed in any run of a sequence, and of the page after it, holds of a
source that is run as an instruction. -/
theorem runInstruction_performed :
    ∃ n, (∀ i, (runInstruction page (.ok c) source s).1 = .ok i →
        n = i.run.elim 0 (·.results.length)) ∧
      Q (source.steps.take n) (runInstruction page (.ok c) source s).2 := by
  unfold runInstruction Source.steps
  cases source.read with
  | error e => exact ⟨0, fun i hi => Except.ok.inj hi ▸ rfl, hlog _⟩
  | ok v =>
    obtain ⟨n, hn, hQ⟩ := hrun (c.options none "Instruction") v
    refine ⟨n, fun i hi => ?_, hQ⟩
    obtain ⟨r, hr, hi⟩ := bind_mapError_eq_ok hi
    rw [hn r hr, run_of_instruction hi]
    rfl

/-- The same holds of one that is run as a test. -/
theorem runTest_performed :
    ∃ n, (∀ t, (runTest page (.ok c) source s).1 = .ok t →
        n = t.run.elim 0 (·.results.length)) ∧
      Q (source.steps.take n) (runTest page (.ok c) source s).2 := by
  unfold runTest Source.steps
  cases source.read with
  | error e => exact ⟨0, fun t ht => Except.ok.inj ht ▸ rfl, hlog _⟩
  | ok v =>
    obtain ⟨n, hn, hQ⟩ := hrun (c.options none "Test") v
    refine ⟨n, fun t ht => ?_, hQ⟩
    obtain ⟨r, hr, ht⟩ := bind_mapError_eq_ok ht
    rw [hn r hr, run_of_test ht]
    rfl

end
end Outcome

end Walkthrough
