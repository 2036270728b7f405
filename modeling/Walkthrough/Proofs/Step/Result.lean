import Walkthrough.Proofs.Fault
import Walkthrough.Proofs.Page.Oblivious
import Walkthrough.Proofs.Step.Related

/-!
What a step ends with: a failed one always says why and has nothing to give, and no step depends on
what has been called and logged before it.
-/
namespace Walkthrough

/-- A successful result has no error; a failed one has an error that says something, and nothing
else. -/
structure StepResult.Coherent (r : StepResult) : Prop where
  error_of_success : r.success = true → r.error = none
  error_of_failure : r.success = false → ∃ e, r.error = some e ∧ e ≠ ""
  result_of_failure : r.success = false → r.result = .null

theorem StepResult.Coherent.placed {r : StepResult} (h : r.Coherent) (index : Nat)
    (label : String) : (r.placed index label).Coherent :=
  ⟨h.error_of_success, h.error_of_failure, h.result_of_failure⟩

namespace Step

theorem report_action (name : String) (act : StepAct Value) (s : Stage) :
    (report name act s).1.action = .text name := by
  unfold report
  cases act s <;> rfl

theorem report_coherent (name : String) (act : StepAct Value) (s : Stage) :
    (report name act s).1.Coherent := by
  unfold report
  cases act s with
  | ok v s' => exact ⟨fun _ => rfl, nofun, nofun⟩
  | error f s' => exact ⟨nofun, fun _ => ⟨_, rfl, f.text_ne_empty⟩, fun _ => rfl⟩

/-- A step succeeds only by what it does, and gives what that answered. -/
theorem report_success {name : String} {act : StepAct Value} {s : Stage}
    (h : (report name act s).1.success = true) :
    ∃ s', act s = .ok (report name act s).1.result s' := by
  unfold report at h ⊢
  cases ha : act s with
  | ok v s' => exact ⟨s', rfl⟩
  | error f s' => simp [ha] at h

theorem report_muted {act : StepAct Value} (hact : Oblivious act) (name : String) {s t : Stage}
    (h : s.muted = t.muted) : Stage.MutedEq (report name act s) (report name act t) := by
  have hends := hact.muted_eq h
  have hclock := Stage.clock_eq_of_muted_eq h
  unfold report
  cases hs : act s with
  | ok v s' =>
    cases ht : act t with
    | ok w t' =>
      simp only [hs, ht, mapStage, EStateM.Result.ok.injEq] at hends
      obtain ⟨rfl, hmuted⟩ := hends
      refine ⟨?_, hmuted⟩
      simp only [hclock, Stage.since_eq_of_muted_eq hmuted]
    | error f t' => simp [hs, ht, mapStage] at hends
  | error f s' =>
    cases ht : act t with
    | ok w t' => simp [hs, ht, mapStage] at hends
    | error g t' =>
      simp only [hs, ht, mapStage, EStateM.Result.error.injEq] at hends
      obtain ⟨rfl, hmuted⟩ := hends
      refine ⟨?_, hmuted⟩
      simp only [hclock, Stage.since_eq_of_muted_eq hmuted]

theorem report_after {act : StepAct Value} (hact : Oblivious act) (name : String)
    (calls : List PageCall) (log : List LogRecord) (s : Stage) :
    report name act (s.after calls log) = (report name act s).map id (·.after calls log) := by
  unfold report
  rw [hact calls log s]
  cases act s with
  | ok v s' => rfl
  | error f s' =>
    refine Prod.ext rfl ?_
    exact s'.tell_after calls log _

theorem rest_oblivious (x : Float) : Oblivious (modify (Stage.rest x) : StepAct PUnit) :=
  .update fun calls log s => by simp [Stage.rest, Stage.after]

theorem oblivious_congruence : StepAct.Congruence fun x _ => Oblivious x where
  pure a := .pure a
  throw f _ := .throw f
  bind hx hf := hx.bind hf

theorem liftM_oblivious {α : Type} {x : Act α} (hx : Oblivious x) :
    Oblivious (liftM x : StepAct α) := by
  intro calls log s
  simp only [liftM, monadLift, MonadLift.monadLift, hx calls log s]
  cases x s <;> rfl

theorem attempt_oblivious [Pattern.Host] (page : Page) (settings : Except SettingsFault Settings)
    (action : Except ActionFault Action) : Oblivious (attempt page.handle settings action) :=
  @StepAct.Congruence.attempt _ oblivious_congruence page.handle page.handle
    (fun op => liftM_oblivious (page.oblivious op)) inferInstance .throw rest_oblivious settings
    action

end Step

end Walkthrough
