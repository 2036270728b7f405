import Walkthrough.Proofs.Outcome.Performed
import Walkthrough.Proofs.Run.Steps
import Walkthrough.Proofs.Step.Sleep

/-!
How a run sleeps: once for each of its steps that is a pause and has been performed, and for no
longer than the ceiling and the settings allow, unless a step asks for a pause that is no number.
-/
namespace Walkthrough

/-- A run that has performed steps, from one page to another: it sleeps for those that are pauses,
on a page without rests of its own there are no others, and it never sleeps for too long. -/
structure Run.SleepsFor (page : PageHandle) (c : Settings) (vs : List Value) (s t : Stage) :
    Prop where
  passes : Passes page s (vs.filterMap (Step.sleep? c)) t
  noted : page.IsAwake → t.sleeps = s.sleeps ++ (vs.filterMap (Step.sleep? c)).map .sleep
  allowed : ∀ x ∈ vs.filterMap (Step.sleep? c),
    c.Allows x ∨ x.isNaN = true ∧ ∃ v ∈ vs, v.AsksForNaN

/-- A step as a run performs it: it sleeps at most once, not at all if it is no pause, and a pause
has nothing to do with the page but for its rest. One that cannot be announced does nothing. -/
structure Run.StepSleeps [Pattern.Host] (page : PageHandle) (c : Settings) (o : RunOptions)
    (index : Nat) (v : Value) (s : Stage) : Prop where
  passes : ∀ r, (step page c o index v s).1 = .ok r →
    Passes page s (Step.sleep? c v).toList (step page c o index v s).2
  broken_off : ∀ f, (step page c o index v s).1 = .error f → (step page c o index v s).2 = s
  other : v.actionKind? ≠ some .waitForTimeout → Step.sleep? c v = none
  pause_page : v.actionKind? = some .waitForTimeout →
    ∀ page', step page' c o index v s = step page c o index v s
  pause_calls : v.actionKind? = some .waitForTimeout → ∀ r, (step page c o index v s).1 = .ok r →
    (step page c o index v s).2.calls = s.calls ++ (Step.sleep? c v).toList.map .sleep

namespace Run
variable {page : PageHandle} {c : Settings} {o : RunOptions}

theorem passes_tell {s t : Stage} {xs : List Float} (h : Passes page s xs t) (level : LogLevel)
    (message : String) : Passes page s xs (tell o level message t) :=
  h.log [_]

theorem sleepsFor_of_passes {vs : List Value} {s t : Stage}
    (h : Passes page s (vs.filterMap (Step.sleep? c)) t) : SleepsFor page c vs s t where
  passes := h
  noted hpage := h.sleeps_eq hpage
  allowed x hx := by
    obtain ⟨v, hv, hsleep⟩ := List.mem_filterMap.mp hx
    rcases Step.sleep?_allowed hsleep with hallowed | ⟨hnan, hasked⟩
    · exact .inl hallowed
    · exact .inr ⟨hnan, v, hv, hasked⟩

section
variable [Pattern.Host]

theorem performStep_passes (index : Nat) (v : Value) (s : Stage) :
    Passes page s (Step.sleep? c v).toList (performStep page c o index v s).2 := by
  let started := tell o .info (beginning (labelText v index) (targetText v) v) s
  have hbegin : Passes page s [] started := passes_tell .refl _ _
  have hrun := hbegin.trans (Step.run_passes page c v _)
  unfold performStep
  dsimp only
  split
  · exact passes_tell hrun _ _
  · exact passes_tell hrun _ _

theorem performSteps_passes (index : Nat) (vs : List Value) (s : Stage) :
    Passes page s
      ((vs.take (performSteps page c o index vs s).1.length).filterMap (Step.sleep? c))
      (performSteps page c o index vs s).2 := by
  -- a result for each step performed: a run that stops has slept for those alone
  induction vs generalizing index s with
  | nil => exact .refl
  | cons v vs ih =>
    have hstep := @performStep_passes page c o _ index v s
    have hhead (ws : List Value) : (v :: ws).filterMap (Step.sleep? c) =
        (Step.sleep? c v).toList ++ ws.filterMap (Step.sleep? c) := by
      rw [List.filterMap_cons]
      cases Step.sleep? c v <;> rfl
    rw [performSteps]
    dsimp only
    split
    · rw [List.length_singleton, List.take_succ_cons, List.take_zero, hhead, List.filterMap_nil,
        List.append_nil]
      exact passes_tell hstep _ _
    · rw [List.length_cons, List.take_succ_cons, hhead]
      exact hstep.trans (ih _ _)

theorem sequence_sleepsFor (v : Value) (s : Stage) :
    ∃ n, (∀ r, (sequence page c o v s).1 = .ok r → n = r.results.length) ∧
      SleepsFor page c ((v.steps?.getD []).take n) s (sequence page c o v s).2 := by
  obtain ⟨rs, hstage, hresults⟩ | ⟨hstage, hresults⟩ := sequence_cases page c o v s
  · refine ⟨0, fun r hr => by rw [hresults r hr]; rfl, sleepsFor_of_passes ?_⟩
    rw [hstage]
    exact Passes.refl.log rs
  · refine ⟨_, fun r hr => by rw [hresults r hr], sleepsFor_of_passes ?_⟩
    have hchecked : Passes page s [] (checked v s) := Passes.refl.log _
    rw [hstage, ← take_takeWhile (length_performSteps_le _ _ _)]
    exact (passes_tell hchecked _ _).trans (performSteps_passes 0 _ _)

theorem step_sleeps (index : Nat) (v : Value) (s : Stage) :
    StepSleeps page c o index v s where
  passes r hr := by
    rw [step_eq] at hr ⊢
    split at hr
    next hannounced =>
      rw [if_pos hannounced]
      exact performStep_passes index v s
    · cases hr
  broken_off f hf := by
    rw [step_eq] at hf ⊢
    split at hf
    · cases hf
    next hsilent => rw [if_neg hsilent]
  other := Step.sleep?_of_kind
  pause_page h page' := by
    have hrun : Step.run page' (.ok c) v = Step.run page (.ok c) v := by
      rw [Step.run, Step.run, Step.attempt_pause h page' page c]
    unfold step
    rw [hrun]
  pause_calls h r hr := by
    have hcalls := Step.attempt_pause_calls h page c
      (tell o .info (beginning (labelText v index) (targetText v) v) s)
    have hreport (name : String) (act : StepAct Value) (t : Stage) :
        (Step.report name act t).2.calls = (stageOf (act t)).calls := by
      unfold Step.report
      cases act t <;> rfl
    rw [step_eq] at hr ⊢
    split at hr
    next hannounced =>
      rw [if_pos hannounced]
      unfold performStep
      simp only [Prod.map_snd, id_eq]
      split
      · rw [calls_tell, Step.run, hreport, hcalls, calls_tell]
      · rw [calls_tell, Step.run, hreport, hcalls, calls_tell]
    · cases hr

/-- However a sequence is run, it sleeps for the pauses that are performed and for nothing else,
each time as long as is allowed, unless a step asks for a pause that is no number. As many steps are
performed as there are results, where the run comes to any. -/
theorem sleeps_allowed (page : PageHandle) (c : Settings) (o : RunOptions) (s : Stage) :
    (∀ v, ∃ n, (∀ r, (sequence page c o v s).1 = .ok r → n = r.results.length) ∧
      SleepsFor page c ((v.steps?.getD []).take n) s (sequence page c o v s).2) ∧
    (∀ source, ∃ n, (∀ i, (Outcome.runInstruction page (.ok c) source s).1 = .ok i →
        n = i.run.elim 0 (·.results.length)) ∧
      SleepsFor page c (source.steps.take n) s
        (Outcome.runInstruction page (.ok c) source s).2) ∧
    (∀ source, ∃ n, (∀ t, (Outcome.runTest page (.ok c) source s).1 = .ok t →
        n = t.run.elim 0 (·.results.length)) ∧
      SleepsFor page c (source.steps.take n) s (Outcome.runTest page (.ok c) source s).2) ∧
    ∀ index v, StepSleeps page c o index v s := by
  have hlog (rs : List LogRecord) : SleepsFor page c [] s { s with log := s.log ++ rs } :=
    sleepsFor_of_passes (Passes.refl.log rs)
  refine ⟨fun v => sequence_sleepsFor v s, fun source => ?_, fun source => ?_,
    fun index v => step_sleeps index v s⟩
  · exact Outcome.runInstruction_performed (Q := fun vs t => SleepsFor page c vs s t) hlog
      fun o v => sequence_sleepsFor v s
  · exact Outcome.runTest_performed (Q := fun vs t => SleepsFor page c vs s t) hlog
      fun o v => sequence_sleepsFor v s

end

open scoped Walkthrough.Pattern.Host

/-- A pause of a million seconds is cut to what the settings allow, and a short one is not. -/
theorem sleeps_allowed_cut :
    let pause (ms : Value) : Value := .object [("action", .text "waitForTimeout"), ("ms", ms)]
    let v : Value := .object [("steps", .list [pause (.int 1000000000), pause (.float 250.0)])]
    let c : Settings := { Settings.standard with maxWaitMs := 20000 }
    (sequence Stage.handle c ⟨true, "Run"⟩ v (titled [])).2.sleeps = [.sleep 20.0, .sleep 0.25] ∧
      c.Allows 20.0 ∧ c.Allows 0.25 := by
  intro pause v c
  obtain ⟨n, hn, hsleeps⟩ := (sleeps_allowed Stage.handle c ⟨true, "Run"⟩ (titled [])).1 v
  have hlength : (sequence Stage.handle c ⟨true, "Run"⟩ v (titled [])).1.toOption.map
      (·.results.length) = some 2 := by decide +kernel
  obtain rfl : n = 2 := by
    cases hr : (sequence Stage.handle c ⟨true, "Run"⟩ v (titled [])).1 with
    | error f => simp [hr, Except.toOption] at hlength
    | ok r => exact (hn r hr).trans (by simpa [hr, Except.toOption] using hlength)
  have hpauses : ((v.steps?.getD []).take 2).filterMap (Step.sleep? c) = [20.0, 0.25] := by
    decide +kernel
  have hnoted := hsleeps.noted Stage.handle_isAwake
  have hallowed := hsleeps.allowed
  rw [hpauses] at hnoted hallowed
  refine ⟨hnoted, ?_, ?_⟩
  · rcases hallowed 20.0 (by simp) with h | ⟨hnan, -⟩
    · exact h
    · cases hnan
  · rcases hallowed 0.25 (by simp) with h | ⟨hnan, -⟩
    · exact h
    · cases hnan

/-- A pause that is no number is not cut: the run sleeps for no number of seconds. -/
theorem sleeps_nan :
    let v : Value := .object [("steps", .list [.object [("action", .text "waitForTimeout"),
      ("ms", .float .nan)]])]
    let r := sequence Stage.handle .standard ⟨true, "Run"⟩ v (titled [])
    v.IsAccepted ∧
      ∃ x, r.2.sleeps = [.sleep x] ∧ ¬x ≤ 30.0 := by
  intro v r
  refine ⟨⟨_, rfl, rfl⟩, .nan, rfl, ?_⟩
  decide

end Run

end Walkthrough
