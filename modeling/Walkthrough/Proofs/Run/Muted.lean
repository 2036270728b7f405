import Walkthrough.Proofs.Run.Steps

/-!
What a run writes to the log has no influence on it: with another prefix, on a page that differs in
nothing but the log, it has the same results and leaves such a page.
-/
namespace Walkthrough.Run
variable [Pattern.Host] {page : Page} {c : Settings} {stop : Bool} {s t : Stage}

/-- To perform a step within a run is to run it, up to the log and to where its result is placed. -/
theorem performStep_eq_run (o : RunOptions) (h : s.muted = t.muted) (index : Nat) (v : Value) :
    Stage.MutedEq (performStep page.handle c o index v s)
      ((Step.run page.handle (.ok c) v t).map (·.placed (index + 1) (labelText v index)) id) := by
  have hact := Step.attempt_oblivious page (.ok c) (Action.ofValue v)
  have hbegun : (tell o .info (beginning (labelText v index) (targetText v) v) s).muted =
      t.muted := by
    rw [muted_tell, h]
  obtain ⟨hresult, hstage⟩ := Step.report_muted hact (Step.nameOf v) hbegun
  constructor
  · exact congrArg (·.placed (index + 1) (labelText v index)) hresult
  · unfold performStep
    dsimp only
    split <;> exact hstage

theorem performStep_muted (p q : String) (h : s.muted = t.muted) (index : Nat) (v : Value) :
    Stage.MutedEq (performStep page.handle c ⟨stop, p⟩ index v s)
      (performStep page.handle c ⟨stop, q⟩ index v t) := by
  obtain ⟨hresult, hstage⟩ := @performStep_eq_run _ page c _ _ ⟨stop, p⟩ h index v
  obtain ⟨hresult', hstage'⟩ := @performStep_eq_run _ page c _ _ ⟨stop, q⟩ rfl index v
  exact ⟨hresult.trans hresult'.symm, hstage.trans hstage'.symm⟩

theorem performSteps_muted (p q : String) (h : s.muted = t.muted) (index : Nat)
    (vs : List Value) :
    Stage.MutedEq (performSteps page.handle c ⟨stop, p⟩ index vs s)
      (performSteps page.handle c ⟨stop, q⟩ index vs t) := by
  induction vs generalizing index s t with
  | nil => exact ⟨rfl, h⟩
  | cons v vs ih =>
    have hstep : Stage.MutedEq (performStep page.handle c ⟨stop, p⟩ index v s) _ :=
      performStep_muted p q h index v
    have hrest := ih hstep.stage (index + 1)
    simp only [performSteps, hstep.result]
    split
    · exact ⟨rfl, hstep.stage⟩
    · exact ⟨congrArg (List.cons _) hrest.result, hrest.stage⟩

end Walkthrough.Run
