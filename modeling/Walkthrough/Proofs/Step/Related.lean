import Walkthrough.Proofs.Step.Plan

/-!
Two pages whose operations are related act alike: what relates the operations relates every action
that is performed by them.
-/
namespace Walkthrough
namespace StepAct

/-- A relation of acts that holds of equal ends and goes through sequencing. -/
structure Congruence (R : ∀ {α : Type}, StepAct α → StepAct α → Prop) : Prop where
  pure : ∀ {α : Type} (a : α), R (Pure.pure a) (Pure.pure a)
  throw : ∀ {α : Type} (f : StepFault), f.isOfPerforming = true →
    R (α := α) (MonadExcept.throw f) (MonadExcept.throw f)
  bind : ∀ {α β : Type} {x y : StepAct α} {f g : α → StepAct β},
    R x y → (∀ a, R (f a) (g a)) → R (x >>= f) (y >>= g)

namespace Congruence
variable {R : ∀ {α : Type}, StepAct α → StepAct α → Prop} (hR : Congruence R)
  {page page' : PageHandle}
  (h : ∀ {α : Type} (op : PageOp α), R (liftM (page.call op)) (liftM (page'.call op)))
include hR h

/-- A plan is followed alike on both pages. -/
theorem run {α : Type} {calls : ∀ {β : Type}, PageOp β → Prop} {faults : StepFault → Prop}
    {rests : Prop} {p : Plan α} (hp : p.All calls faults rests)
    (hfaults : ∀ f, faults f → f.isOfPerforming = true)
    (hrests : rests → ∀ x, R (modify (Stage.rest x)) (modify (Stage.rest x))) :
    R (p.run page) (p.run page') := by
  induction p with
  | done a => exact hR.pure a
  | fail fault => exact hR.throw fault (hfaults fault hp)
  | rest seconds next ih => exact hR.bind (hrests hp.1 seconds) fun _ => ih hp.2
  | call op next ih => exact hR.bind (h op) fun b => ih b (hp.2 b)

theorem perform [Pattern.Host] (s : Settings) (a : Action)
    (hrest : a.kind = .waitForTimeout → ∀ x, R (modify (Stage.rest x)) (modify (Stage.rest x))) :
    R (Step.perform page s a) (Step.perform page' s a) := by
  rw [Plan.perform_eq, Plan.perform_eq]
  exact hR.run h (Plan.ofAction_all s a) (fun _ hf => hf.1) hrest

theorem attempt [Pattern.Host]
    (hthrow : ∀ f, R (α := Value) (MonadExcept.throw f) (MonadExcept.throw f))
    (hrest : ∀ x : Float, R (modify (Stage.rest x)) (modify (Stage.rest x)))
    (settings : Except SettingsFault Settings) (action : Except ActionFault Action) :
    R (Step.attempt page settings action) (Step.attempt page' settings action) := by
  cases action with
  | error f => exact hthrow _
  | ok a =>
    cases settings with
    | error f => exact hthrow _
    | ok s => exact hR.perform h s a fun _ => hrest

end Congruence
end StepAct

end Walkthrough
