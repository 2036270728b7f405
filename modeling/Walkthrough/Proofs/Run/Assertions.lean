import Mathlib.Data.List.Forall2
import Walkthrough.Proofs.Run.Account
import Walkthrough.Proofs.Step.Assertion

/-!
No assertion of a run is lost: the summary has one record for each assertion that was performed to
its end, in order, and none for anything else.
-/
namespace Walkthrough

/-- The result of an assertion that did not fail to be one. -/
def StepResult.asserts (x : StepResult) : Bool :=
  x.success && x.action.namesAssertion

def StepResult.record? (x : StepResult) : Option AssertionRecord :=
  AssertionRecord.of? x.action x.result x.label

/-- The record of a result: its action, its label and its verdict. -/
structure AssertionRecord.IsRecordOf (a : AssertionRecord) (x : StepResult) : Prop where
  action : x.action = .text a.action
  label : a.label = x.label
  passed : x.result.field "passed" = .bool a.passed
  message : a.message = x.result.field "message"

theorem StepResult.record?_of_isVerdict {x : StepResult} (hn : x.action.namesAssertion = true)
    (hv : x.result.IsVerdict) :
    ∃ a, x.record? = some a ∧ a.IsRecordOf x := by
  obtain ⟨es, passed, hresult, hpassed⟩ := hv
  have hget : Entries.getD es "passed" = .bool passed := by rw [Entries.getD, hpassed]; rfl
  cases haction : x.action with
  | text name =>
    have hname : isAssertion name = true := by rwa [haction] at hn
    refine ⟨⟨name, passed, Entries.getD es "message", x.label⟩, ?_, haction, rfl, ?_, ?_⟩
    · simp only [record?, AssertionRecord.of?, haction, hresult, hname, hget, Value.truthy, if_true]
    · rw [hresult]
      exact hget
    · rw [hresult]
      rfl
  | _ => simp [haction, Value.namesAssertion] at hn

theorem StepResult.record?_eq_none {x : StepResult} (hx : x.Coherent)
    (ha : x.asserts = false) : x.record? = none := by
  unfold record? AssertionRecord.of?
  cases hs : x.success with
  | false =>
    rw [hx.result_of_failure hs]
    split <;> simp_all
  | true =>
    have hn : x.action.namesAssertion = false := by simpa [asserts, hs] using ha
    split
    next name es haction _ =>
      have hname : isAssertion name = false := by rwa [haction] at hn
      simp [hname]
    · rfl

/-- Each assertion that came to a verdict has its record, and nothing else has one. -/
theorem AssertionSummary.records_ofResults {rs : List StepResult} (hrs : ∀ x ∈ rs, x.Coherent)
    (hv : ∀ x ∈ rs, x.asserts = true → x.result.IsVerdict) :
    List.Forall₂ AssertionRecord.IsRecordOf (ofResults rs).records (rs.filter (·.asserts)) := by
  change List.Forall₂ _ (rs.filterMap StepResult.record?) _
  induction rs with
  | nil => exact .nil
  | cons x rs ih =>
    rw [List.forall_mem_cons] at hrs hv
    have hrest := ih hrs.2 hv.2
    cases ha : x.asserts with
    | true =>
      have hn : x.action.namesAssertion = true := (Bool.and_eq_true_iff.mp ha).2
      obtain ⟨a, hrecord, hof⟩ := StepResult.record?_of_isVerdict hn (hv.1 ha)
      rw [List.filterMap_cons_some hrecord, List.filter_cons_of_pos ha]
      exact .cons hof hrest
    | false =>
      have hrecord := StepResult.record?_eq_none hrs.1 ha
      rw [List.filterMap_cons_none hrecord, List.filter_cons_of_neg (by simp [ha])]
      exact hrest

/-- A run that succeeds has a result for each step. -/
theorem RunResult.IsAccountOf.actions_eq {r : RunResult} {vs : List Value} {stops : Bool}
    (h : r.IsAccountOf vs stops) (hs : r.success = true) :
    r.results.map (·.action) = vs.map (·.field "action") := by
  have hlength : vs.length ≤ r.results.length := by
    rw [← h.completedSteps, ← h.totalSteps]
    cases stops with
    | false => exact Nat.le_of_eq (h.goes_on rfl).symm
    | true =>
      refine Nat.le_of_not_lt fun hlt => ?_
      obtain ⟨x, hlast, hfailed⟩ := h.stops_early rfl hlt
      have hx := h.success_iff.mp hs x (List.mem_of_getLast? hlast)
      rw [hfailed] at hx
      cases hx
  refine List.ext_getElem? fun i => ?_
  rw [List.getElem?_map, List.getElem?_map]
  cases hx : r.results[i]? with
  | none =>
    have hi : r.results.length ≤ i := List.getElem?_eq_none_iff.mp hx
    rw [List.getElem?_eq_none (Nat.le_trans hlength hi)]
    rfl
  | some x =>
    obtain ⟨v, hv, habout⟩ := h.about i x hx
    rw [hv]
    exact congrArg some habout.action

namespace Run

section
variable [Pattern.Host] {page : PageHandle} {c : Settings} {o : RunOptions}

theorem performStep_isVerdict (index : Nat) (v : Value) (s : Stage)
    (h : (performStep page c o index v s).1.asserts = true) :
    (performStep page c o index v s).1.result.IsVerdict := by
  obtain ⟨hs, hn⟩ := Bool.and_eq_true_iff.mp h
  exact Step.run_isVerdict hs hn

/-- The summary of a run has its assertions that did not fail to be performed, in order, and only
those; when the run succeeds, these are all assertions of the sequence. -/
theorem sequence_assertions (page : PageHandle) (c : Settings) (o : RunOptions) {v : Value}
    (hv : v.IsAccepted) (s : Stage) :
    ∀ r, (sequence page c o v s).1 = .ok r →
      let summary := AssertionSummary.ofResults r.results
      (∀ x ∈ r.results, x.asserts = true → x.result.IsVerdict) ∧
        List.Forall₂ AssertionRecord.IsRecordOf summary.records (r.results.filter (·.asserts)) ∧
        (r.success = true → ∃ vs, v.steps? = some vs ∧
          summary.total = vs.countP fun w => (w.field "action").namesAssertion) := by
  intro r hr
  obtain ⟨vs, hvs, -, hsound⟩ := Value.isAccepted_iff.mp hv
  obtain rfl := ofSteps_of_sequence_ok hv hvs hr
  generalize begun o vs (checked v s) = t
  have haccount := @performSteps_isAccountOf _ page c o vs
    (fun w hw => (hsound w hw).admitted) t
  have hverdicts : ∀ x ∈ (performSteps page c o 0 vs t).1,
      x.asserts = true → x.result.IsVerdict :=
    forall_mem_performSteps performStep_isVerdict 0 vs t
  generalize (performSteps page c o 0 vs t).1 = rs at *
  dsimp only at haccount ⊢
  have hrecords := AssertionSummary.records_ofResults haccount.coherent hverdicts
  refine ⟨hverdicts, hrecords, fun hs => ⟨vs, hvs, ?_⟩⟩
  calc (AssertionSummary.ofResults rs).total
      = rs.countP (·.asserts) := by
        rw [AssertionSummary.total, List.countP_eq_length_filter]
        exact hrecords.length_eq
    _ = rs.countP (·.action.namesAssertion) := by
        refine List.countP_congr fun x hx => ?_
        simp [StepResult.asserts, haccount.success_iff.mp hs x hx]
    _ = (rs.map (·.action)).countP Value.namesAssertion := by
        rw [List.countP_map]
        rfl
    _ = (vs.map (·.field "action")).countP Value.namesAssertion :=
        congrArg _ (haccount.actions_eq hs)
    _ = vs.countP fun w => (w.field "action").namesAssertion := by
        rw [List.countP_map]
        rfl

end

open scoped Walkthrough.Pattern.Host

/-- A run of one assertion and one other step, both of which succeed. -/
theorem sequence_assertions_titleCheck :
    titleCheck.IsAccepted ∧
      ∃ r, (sequence Stage.handle .standard ⟨true, "Run"⟩ titleCheck (titled [])).1 = .ok r ∧
        r.success = true ∧ (∀ x ∈ r.results, x.asserts = true → x.result.IsVerdict) ∧
        ∃ vs, titleCheck.steps? = some vs ∧
          (AssertionSummary.ofResults r.results).total =
            vs.countP fun w => (w.field "action").namesAssertion := by
  obtain ⟨hverdicts, -, htotal⟩ := sequence_assertions Stage.handle .standard ⟨true, "Run"⟩
    titleCheck_isAccepted (titled []) _ rfl
  exact ⟨titleCheck_isAccepted, _, rfl, rfl, hverdicts, htotal rfl⟩

end Run

end Walkthrough
