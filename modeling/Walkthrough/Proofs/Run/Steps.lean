import Mathlib.Data.List.TakeWhile
import Walkthrough.Proofs.Step.Result
import Walkthrough.Proofs.Validation
import Walkthrough.Run

/-!
Runs of steps, one after the other. As long as steps can be announced they are simply performed:
what each result is, and how a run that stops at the first failure compares with one that goes on. A
run is that of the steps before the first one that cannot be announced, and is broken off there.
-/
namespace Walkthrough

/-- Whether a step can be announced: its label and what it is aimed at can be written out. -/
def Value.isAnnounced (v : Value) : Bool :=
  (v.field "label").isWritable && (v.field "selector").isWritable

namespace Run

def labelText (v : Value) (index : Nat) : String :=
  if (v.field "label").truthy then (v.field "label").display else stepNumber index

def targetText (v : Value) : String :=
  if (v.field "selector").truthy then " on \"" ++ (v.field "selector").display ++ "\"" else ""

theorem labelOf_eq (v : Value) (index : Nat) :
    labelOf v index =
      if (v.field "label").isWritable then .ok (labelText v index) else .error .tooGreat := by
  unfold labelOf labelText Value.write
  dsimp only
  cases ht : (v.field "label").truthy with
  | true => rfl
  | false =>
    rw [Value.isWritable_of_not_truthy ht]
    rfl

theorem targetOf_eq (v : Value) :
    targetOf v =
      if (v.field "selector").isWritable then .ok (targetText v) else .error .tooGreat := by
  unfold targetOf targetText Value.write
  dsimp only
  cases ht : (v.field "selector").truthy with
  | true => cases (v.field "selector").isWritable <;> rfl
  | false =>
    rw [Value.isWritable_of_not_truthy ht]
    rfl

theorem announcement_eq (v : Value) (index : Nat) :
    announcement v index =
      if v.isAnnounced then .ok (labelText v index, targetText v) else .error .tooGreat := by
  unfold announcement Value.isAnnounced
  rw [labelOf_eq, targetOf_eq]
  cases (v.field "label").isWritable <;> cases (v.field "selector").isWritable <;> rfl

def performStep [Pattern.Host] (page : PageHandle) (c : Settings) (o : RunOptions) (index : Nat)
    (v : Value) (s : Stage) : StepResult × Stage :=
  let label := labelText v index
  let (r, s) := Step.run page (.ok c) v (tell o .info (beginning label (targetText v) v) s)
  let s :=
    if r.success then tell o .info (completion label r) s else tell o .error (failure label r) s
  (r.placed (index + 1) label, s)

/-- Performs steps that can be announced, the first of them having the given index. -/
def performSteps [Pattern.Host] (page : PageHandle) (c : Settings) (o : RunOptions) (index : Nat) :
    List Value → Stage → List StepResult × Stage
  | [], s => ([], s)
  | v :: vs, s =>
    let (r, s) := performStep page c o index v s
    if !r.success && o.stopOnError then
      ([r], tell o .info "Stopping execution due to error" s)
    else
      let (rs, s) := performSteps page c o (index + 1) vs s
      (r :: rs, s)

/-- Why a run is broken off whose steps before that had these results. -/
def breakOff? (o : RunOptions) (vs : List Value) (rs : List StepResult) : Option Unwritable :=
  if vs.all Value.isAnnounced || (o.stopOnError && rs.any (!·.success)) then none
  else some .tooGreat

/-- What comes of a run that has these results by the time when it ends or is broken off. -/
def concluded (o : RunOptions) (vs : List Value) (rs : List StepResult) :
    Except Unwritable RunResult :=
  Progress.result vs.length ⟨rs.all (·.success), rs, breakOff? o vs rs⟩

theorem concluded_eq_ok_iff {o : RunOptions} {vs : List Value} {rs : List StepResult}
    {r : RunResult} : concluded o vs rs = .ok r ↔
      breakOff? o vs rs = none ∧ r = .ofSteps vs.length (rs.all (·.success)) rs := by
  unfold concluded
  cases breakOff? o vs rs <;> simp [Progress.result, eq_comm]

theorem concluded_of_breakOff?_eq_none {o : RunOptions} {vs : List Value} {rs : List StepResult}
    (h : breakOff? o vs rs = none) :
    concluded o vs rs = .ok (.ofSteps vs.length (rs.all (·.success)) rs) :=
  concluded_eq_ok_iff.mpr ⟨h, rfl⟩

@[simp] theorem calls_tell (o : RunOptions) (level : LogLevel) (message : String) (s : Stage) :
    (tell o level message s).calls = s.calls := rfl

@[simp] theorem muted_tell (o : RunOptions) (level : LogLevel) (message : String) (s : Stage) :
    (tell o level message s).muted = s.muted := rfl

section Steps
variable [Pattern.Host] {page : PageHandle} {c : Settings} {o : RunOptions}

theorem step_eq (index : Nat) (v : Value) (s : Stage) :
    step page c o index v s =
      if v.isAnnounced then (performStep page c o index v s).map .ok id
      else (.error .tooGreat, s) := by
  unfold step
  rw [announcement_eq]
  cases v.isAnnounced <;> rfl

/-- A run is that of the steps before the first one that cannot be announced. Whether it succeeds is
whether all its results do. -/
theorem steps_eq (index : Nat) (success : Bool) (vs : List Value) (s : Stage) :
    steps page c o index success vs s =
      let p := performSteps page c o index (vs.takeWhile Value.isAnnounced) s
      (⟨success && p.1.all (·.success), p.1, breakOff? o vs p.1⟩, p.2) := by
  induction vs generalizing index success s with
  | nil => simp [steps, performSteps, breakOff?]
  | cons v vs ih =>
    rw [steps, step_eq]
    cases hv : v.isAnnounced with
    | false => simp [hv, performSteps, breakOff?]
    | true =>
      simp only [hv, if_true, List.takeWhile_cons, performSteps, ih]
      obtain ⟨r, t⟩ := performStep page c o index v s
      cases hr : r.success with
      | true => simp [Progress.after, hr, breakOff?, hv]
      | false => cases ho : o.stopOnError <;> simp [Progress.after, hr, ho, breakOff?, hv]

/-- The results of a run: that of the first step, and those of the rest unless it ends there. -/
theorem fst_performSteps_cons (index : Nat) (v : Value) (vs : List Value) (s : Stage) :
    (performSteps page c o index (v :: vs) s).1 = (performStep page c o index v s).1 ::
      if !(performStep page c o index v s).1.success && o.stopOnError then []
      else (performSteps page c o (index + 1) vs (performStep page c o index v s).2).1 := by
  rw [performSteps]
  dsimp only
  split <;> rfl

theorem length_performSteps_le (index : Nat) (vs : List Value) (s : Stage) :
    (performSteps page c o index vs s).1.length ≤ vs.length := by
  induction vs generalizing index s with
  | nil => exact Nat.le_refl _
  | cons v vs ih =>
    rw [fst_performSteps_cons, List.length_cons, List.length_cons]
    split
    · exact Nat.le_add_left _ _
    · exact Nat.succ_le_succ (ih (index + 1) _)

/-- A run without a stop performs every step. -/
theorem length_performSteps_of_continue (ho : o.stopOnError = false) (index : Nat)
    (vs : List Value) (s : Stage) : (performSteps page c o index vs s).1.length = vs.length := by
  induction vs generalizing index s with
  | nil => rfl
  | cons v vs ih => simp [fst_performSteps_cons, ho, ih]

/-- Steps after others are run on the page as these leave it, unless the run stops before them. -/
theorem performSteps_append (index : Nat) (xs ys : List Value) (s : Stage) :
    performSteps page c o index (xs ++ ys) s =
      let first := performSteps page c o index xs s
      if o.stopOnError && !first.1.all (·.success) then first
      else
        let second := performSteps page c o (index + xs.length) ys first.2
        (first.1 ++ second.1, second.2) := by
  induction xs generalizing index s with
  | nil => simp [performSteps]
  | cons x xs ih =>
    have hindex : index + (x :: xs).length = index + 1 + xs.length := by
      rw [List.length_cons]
      omega
    simp only [List.cons_append, performSteps, hindex, ih]
    generalize performStep page c o index x s = r
    cases hr : r.1.success with
    | false => cases o.stopOnError <;> simp [hr]
    | true =>
      simp only [Bool.not_true, Bool.false_and, Bool.false_eq_true, if_false, List.all_cons, hr,
        Bool.true_and]
      split <;> rfl

/-- Each result is that of the step at its place, performed on the page as it was by then. -/
theorem exists_step_of_getElem? {index i : Nat} {vs : List Value} {s : Stage} {r : StepResult}
    (h : (performSteps page c o index vs s).1[i]? = some r) :
    ∃ v t, vs[i]? = some v ∧ r = (performStep page c o (index + i) v t).1 := by
  induction vs generalizing index i s with
  | nil => simp [performSteps] at h
  | cons v vs ih =>
    rw [fst_performSteps_cons] at h
    cases i with
    | zero => exact ⟨v, s, rfl, (Option.some.inj h).symm⟩
    | succ i =>
      rw [List.getElem?_cons_succ] at h
      split at h
      · cases h
      · obtain ⟨w, t, hw, hr⟩ := ih h
        exact ⟨w, t, hw, by rw [hr, Nat.add_right_comm, Nat.add_assoc]⟩

/-- What holds of every step's result holds of all results of a run. -/
theorem forall_mem_performSteps {P : StepResult → Prop}
    (h : ∀ (index : Nat) (v : Value) (t : Stage), P (performStep page c o index v t).1)
    (index : Nat) (vs : List Value) (s : Stage) :
    ∀ x ∈ (performSteps page c o index vs s).1, P x := by
  intro x hx
  obtain ⟨i, hi⟩ := List.getElem?_of_mem hx
  obtain ⟨v, t, -, rfl⟩ := exists_step_of_getElem? hi
  exact h (index + i) v t

/-- A run that stops performs what one that goes on performs up to its first failure. -/
theorem fst_performSteps_stop (logPrefix : String) (index : Nat) (vs : List Value) (s : Stage) :
    (performSteps page c ⟨true, logPrefix⟩ index vs s).1 =
      let rs := (performSteps page c ⟨false, logPrefix⟩ index vs s).1
      rs.take (rs.findIdx (fun r => !r.success) + 1) := by
  induction vs generalizing index s with
  | nil => rfl
  | cons v vs ih =>
    have hstep : performStep page c ⟨true, logPrefix⟩ index v s =
      performStep page c ⟨false, logPrefix⟩ index v s := rfl
    simp only [fst_performSteps_cons, hstep]
    cases hr : (performStep page c ⟨false, logPrefix⟩ index v s).1.success with
    | false => simp [hr, List.findIdx_cons]
    | true => simp [hr, List.findIdx_cons, ih]

/-- In a run that stops, only the last result can be a failure, and nothing else ends it early. -/
theorem stop_of_stopOnError (ho : o.stopOnError = true) (index : Nat) (vs : List Value)
    (s : Stage) :
    (∀ i r, i + 1 < (performSteps page c o index vs s).1.length →
      (performSteps page c o index vs s).1[i]? = some r → r.success = true) ∧
    ((performSteps page c o index vs s).1.length < vs.length →
      ∃ r, (performSteps page c o index vs s).1.getLast? = some r ∧ r.success = false) := by
  obtain ⟨stop, logPrefix⟩ := o
  obtain rfl : stop = true := ho
  have hfull : (performSteps page c ⟨false, logPrefix⟩ index vs s).1.length = vs.length :=
    length_performSteps_of_continue rfl index vs s
  rw [fst_performSteps_stop]
  generalize (performSteps page c ⟨false, logPrefix⟩ index vs s).1 = rs at hfull
  simp only [List.length_take]
  constructor
  · intro i r hi hr
    have hlt : i < rs.findIdx fun r => !r.success := by omega
    rw [List.getElem?_take_of_lt (by omega)] at hr
    obtain ⟨hlen, rfl⟩ := List.getElem?_eq_some_iff.mp hr
    simpa using List.not_of_lt_findIdx hlt
  · intro hlt
    have hfound : (rs.findIdx fun r => !r.success) < rs.length := by omega
    refine ⟨rs[rs.findIdx fun r => !r.success], ?_, ?_⟩
    · rw [List.getLast?_take]
      simp [hfound]
    · simpa using List.findIdx_getElem (w := hfound)

end Steps

/-- The page when a sequence has been checked and what was found is logged. -/
def checked (v : Value) (s : Stage) : Stage :=
  { s with log := s.log ++ validationRecords v }

/-- The page when a run of steps has been announced. -/
def begun (o : RunOptions) (vs : List Value) (s : Stage) : Stage :=
  tell o .info ("Executing " ++ toString vs.length ++ " action(s)") s

@[simp] theorem muted_checked (v : Value) (s : Stage) : (checked v s).muted = s.muted := rfl

@[simp] theorem muted_begun (o : RunOptions) (vs : List Value) (s : Stage) :
    (begun o vs s).muted = s.muted := rfl

section Sequence
variable [Pattern.Host] {page : PageHandle} {c : Settings} {o : RunOptions} {v : Value}
  {vs : List Value} {s : Stage}

/-- A sequence without errors is run step by step, once it has been checked. -/
theorem sequence_eq (hv : v.IsAccepted) (hvs : v.steps? = some vs) (s : Stage) :
    sequence page c o v s = accepted page c o vs (checked v s) := by
  obtain ⟨r, hr, hvalid⟩ := hv
  simp [sequence, checked, hr, hvalid, hvs]

theorem accepted_eq (vs : List Value) (s : Stage) :
    accepted page c o vs s =
      let p := performSteps page c o 0 (vs.takeWhile Value.isAnnounced) (begun o vs s)
      (concluded o vs p.1, p.2) := by
  unfold accepted
  dsimp only
  rw [steps_eq]
  rfl

/-- A run that is not broken off has performed its steps, all of them or up to a failure. -/
theorem performSteps_takeWhile
    (h : breakOff? o vs (performSteps page c o 0 (vs.takeWhile Value.isAnnounced) s).1 = none) :
    performSteps page c o 0 (vs.takeWhile Value.isAnnounced) s = performSteps page c o 0 vs s := by
  rw [breakOff?, ite_eq_left_iff] at h
  by_cases hall : vs.all Value.isAnnounced = true
  · rw [List.takeWhile_eq_self_iff.mpr (List.all_eq_true.mp hall)]
  · have happend := @performSteps_append _ page c o 0 (vs.takeWhile Value.isAnnounced)
      (vs.dropWhile Value.isAnnounced) s
    generalize performSteps page c o 0 (vs.takeWhile Value.isAnnounced) s = p at h happend ⊢
    have hstop : (o.stopOnError && !p.1.all (·.success)) = true := by
      rw [List.not_all_eq_any_not]
      by_contra hstop
      exact nomatch h (by simp [hall, hstop])
    rw [List.takeWhile_append_dropWhile] at happend
    exact (happend.trans (if_pos hstop)).symm

/-- The result of a run that comes to one: that of its steps, performed one after the other. -/
theorem ofSteps_of_sequence_ok (hv : v.IsAccepted) (hvs : v.steps? = some vs) {r : RunResult}
    (h : (sequence page c o v s).1 = .ok r) :
    let rs := (performSteps page c o 0 vs (begun o vs (checked v s))).1
    r = .ofSteps vs.length (rs.all (·.success)) rs := by
  rw [sequence_eq hv hvs, accepted_eq] at h
  obtain ⟨hends, rfl⟩ := concluded_eq_ok_iff.mp h
  rw [performSteps_takeWhile hends]

/-- Any sequence either is not run at all, or its steps are performed up to the first one that
cannot be announced. -/
theorem sequence_cases (page : PageHandle) (c : Settings) (o : RunOptions) (v : Value) (s : Stage) :
    (∃ rs, (sequence page c o v s).2 = { s with log := s.log ++ rs } ∧
      ∀ r, (sequence page c o v s).1 = .ok r → r.results = []) ∨
    let vs := v.steps?.getD []
    let p := performSteps page c o 0 (vs.takeWhile Value.isAnnounced) (begun o vs (checked v s))
    (sequence page c o v s).2 = p.2 ∧
      ∀ r, (sequence page c o v s).1 = .ok r → r.results = p.1 := by
  unfold sequence
  cases validateSequence v with
  | error f => exact .inl ⟨_, rfl, nofun⟩
  | ok verdict =>
    dsimp only
    split
    · right
      change (accepted page c o _ (checked v s)).2 = _ ∧
        ∀ r, (accepted page c o _ (checked v s)).1 = .ok r → _
      rw [accepted_eq]
      refine ⟨rfl, fun r hr => ?_⟩
      rw [(concluded_eq_ok_iff.mp hr).2]
      rfl
    · exact .inl ⟨_, congrArg (fun log => { s with log }) (List.append_assoc ..),
        fun r hr => Except.ok.inj hr ▸ rfl⟩

end Sequence

/-- The steps performed are the first ones, whether or not all of them can be announced. -/
theorem take_takeWhile {p : Value → Bool} {vs : List Value} {n : Nat}
    (h : n ≤ (vs.takeWhile p).length) : (vs.takeWhile p).take n = vs.take n := by
  have htake := List.prefix_iff_eq_take.mp (List.takeWhile_prefix p : vs.takeWhile p <+: vs)
  rw [htake, List.take_take, Nat.min_eq_left h]

/-- A sequence of two steps: a key is pressed, and then the title is compared. -/
def titleCheck : Value :=
  .object [("steps", .list [
    .object [("action", .text "press"), ("key", .text "Enter")],
    .object [("label", .text "results"), ("action", .text "assertTitle"),
      ("pattern", .text "Results")]])]

/-- A page with nothing but a title, on which calls fail by rules. -/
def titled (failures : List FailureRule) : Stage :=
  { PageContent.opened ⟨"about:blank", "Results", [], []⟩ with failures }

theorem titleCheck_isAccepted : titleCheck.IsAccepted := ⟨⟨[], []⟩, rfl, rfl⟩

end Run

end Walkthrough
