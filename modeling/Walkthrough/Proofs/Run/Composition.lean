import Walkthrough.Proofs.Run.Muted
import Walkthrough.Proofs.Run.Account
import Walkthrough.Proofs.Page.Scripted

/-!
Sequential composition: a run of steps followed by others is the run of the former, and then, unless
that has stopped it or was broken off, the run of the latter on the page as it was left, with its
results renumbered.
-/
namespace Walkthrough

def Value.ofSteps (vs : List Value) : Value := .object [("steps", .list vs)]

@[simp] theorem Value.steps?_ofSteps (vs : List Value) : (ofSteps vs).steps? = some vs := rfl

theorem Value.isAccepted_append {xs ys : List Value} (hxs : (ofSteps xs).IsAccepted)
    (hys : (ofSteps ys).IsAccepted) : (ofSteps (xs ++ ys)).IsAccepted := by
  simp only [isAccepted_iff, steps?_ofSteps, Option.some.injEq, exists_eq_left'] at *
  refine ⟨List.append_ne_nil_of_left_ne_nil hxs.1 ys, fun v hv => ?_⟩
  rcases List.mem_append.mp hv with hv | hv
  · exact hxs.2 v hv
  · exact hys.2 v hv

namespace StepResult

/-- The result of a step as that of the same step with so many others in front of it: its number is
higher, and so is the one in its label, if the step has no label of its own. -/
def renumbered (n : Nat) (v : Value) (r : StepResult) : StepResult :=
  match r.stepIndex with
  | some k =>
    { r with
      stepIndex := some (k + n)
      label := if (v.field "label").truthy then r.label else .text (stepNumber (k - 1 + n)) }
  | none => r

theorem success_renumbered (n : Nat) (v : Value) (r : StepResult) :
    (r.renumbered n v).success = r.success := by
  unfold renumbered
  split <;> rfl

theorem duration_renumbered (n : Nat) (v : Value) (r : StepResult) :
    (r.renumbered n v).duration = r.duration := by
  unfold renumbered
  split <;> rfl

theorem renumbered_placed (r : StepResult) (n index : Nat) (v : Value) :
    (r.placed (index + 1) (Run.labelText v index)).renumbered n v =
      r.placed (index + n + 1) (Run.labelText v (index + n)) := by
  have hindex : ((index + 1 : Nat) : Int) + n = (index + n + 1 : Nat) := by omega
  have hnumber : ((index + 1 : Nat) : Int) - 1 + n = (index + n : Nat) := by omega
  simp only [renumbered, placed, hindex, hnumber, Run.labelText]
  split <;> rfl

/-- What renumbering leaves alone is the same for all results. -/
theorem map_zipWith_renumbered {α : Type} {f : StepResult → α} {n : Nat}
    (hf : ∀ v r, f (renumbered n v r) = f r) {vs : List Value} {rs : List StepResult}
    (h : rs.length ≤ vs.length) : (List.zipWith (renumbered n) vs rs).map f = rs.map f := by
  induction rs generalizing vs with
  | nil => simp
  | cons r rs ih =>
    cases vs with
    | nil => simp at h
    | cons v vs =>
      rw [List.zipWith_cons_cons, List.map_cons, List.map_cons, hf, ih (by simpa using h)]

end StepResult

namespace RunResult

/-- The result of a run that goes on with further steps, from what came of these by themselves. -/
def followedBy (first : RunResult) (vs : List Value) (second : RunResult) : RunResult where
  success := first.success && second.success
  results := first.results ++
    List.zipWith (StepResult.renumbered first.totalSteps) vs second.results
  totalSteps := first.totalSteps + second.totalSteps
  completedSteps := first.completedSteps + second.completedSteps
  totalDuration := first.totalDuration + second.totalDuration
  error := none

theorem all_zipWith_renumbered {n : Nat} {rs : List StepResult} {vs : List Value}
    (h : rs.length ≤ vs.length) :
    (List.zipWith (StepResult.renumbered n) vs rs).all (·.success) = rs.all (·.success) := by
  have hmap := StepResult.map_zipWith_renumbered (StepResult.success_renumbered n) h
  have hall := congrArg (List.all · id) hmap
  rwa [List.all_map, List.all_map] at hall

theorem ofSteps_append {m n : Nat} {rs rs' : List StepResult} {vs : List Value}
    (h : rs'.length ≤ vs.length) :
    let whole := rs ++ List.zipWith (StepResult.renumbered m) vs rs'
    ofSteps (m + n) (whole.all (·.success)) whole =
      (ofSteps m (rs.all (·.success)) rs).followedBy vs
        (ofSteps n (rs'.all (·.success)) rs') := by
  intro whole
  have hlength : (List.zipWith (StepResult.renumbered m) vs rs').length = rs'.length := by
    rw [List.length_zipWith]
    omega
  have hduration : (ofSteps (m + n) (whole.all (·.success)) whole).totalDuration =
      (ofSteps m (rs.all (·.success)) rs).totalDuration +
        (ofSteps n (rs'.all (·.success)) rs').totalDuration := by
    simp only [whole, totalDuration_ofSteps, List.map_append, List.sum_append,
      StepResult.map_zipWith_renumbered (StepResult.duration_renumbered m) h]
  unfold followedBy
  rw [← hduration]
  simp only [whole, ofSteps, List.all_append, all_zipWith_renumbered h, List.length_append, hlength]

end RunResult

theorem zipWith_of_prefix {α β γ : Type} {f : α → β → γ} {xs ys : List α} {zs : List β}
    (h : xs <+: ys) (hlength : zs.length ≤ xs.length) :
    List.zipWith f ys zs = List.zipWith f xs zs := by
  obtain ⟨tail, rfl⟩ := h
  induction zs generalizing xs with
  | nil => simp
  | cons z zs ih =>
    cases xs with
    | nil => simp at hlength
    | cons x xs =>
      rw [List.cons_append, List.zipWith_cons_cons, List.zipWith_cons_cons,
        ih (by simpa using hlength)]

namespace Stage

/-- The page as it is, with nothing called on it and nothing logged yet. -/
def fresh (s : Stage) : Stage := { s with calls := [], log := [] }

theorem muted_after (calls : List PageCall) (log : List LogRecord) (s : Stage) :
    (s.after calls log).muted = s.muted.after calls [] := rfl

/-- A page is what it is with nothing called on it yet, behind the calls that it has seen. -/
theorem muted_eq_fresh_after (s : Stage) : s.muted = (s.fresh.after s.calls []).muted := by
  simp [fresh, after, muted]

theorem fresh_after (calls : List PageCall) (log : List LogRecord) (s : Stage) :
    (s.after calls log).fresh = s.fresh := rfl

theorem fresh_eq_of_muted_eq {s t : Stage} (h : s.muted = t.muted) : s.fresh = t.fresh := by
  change s.muted.fresh = t.muted.fresh
  rw [h]

end Stage

namespace Run

theorem tell_after {o : RunOptions} (calls : List PageCall) (log : List LogRecord)
    (level : LogLevel) (message : String) (s : Stage) :
    tell o level message (s.after calls log) = (tell o level message s).after calls log :=
  s.tell_after calls log _

section
variable [Pattern.Host] {page : Page} {c : Settings} {o : RunOptions} {s t : Stage}

theorem performStep_after (calls : List PageCall) (log : List LogRecord) (index : Nat) (v : Value)
    (s : Stage) :
    performStep page.handle c o index v (s.after calls log) =
      (performStep page.handle c o index v s).map id (·.after calls log) := by
  have hact := Step.attempt_oblivious page (.ok c) (Action.ofValue v)
  have hrun (t : Stage) : Step.run page.handle (.ok c) v (t.after calls log) =
      (Step.run page.handle (.ok c) v t).map id (·.after calls log) :=
    Step.report_after hact (Step.nameOf v) calls log t
  simp only [performStep, tell_after, hrun, Prod.map_fst, Prod.map_snd, id_eq]
  split <;> rfl

/-- What has been called and logged before a run stays in front of it, and has no other influence.
-/
theorem performSteps_after (calls : List PageCall) (log : List LogRecord) (index : Nat)
    (vs : List Value) (s : Stage) :
    performSteps page.handle c o index vs (s.after calls log) =
      (performSteps page.handle c o index vs s).map id (·.after calls log) := by
  induction vs generalizing index s with
  | nil => rfl
  | cons v vs ih =>
    simp only [performSteps, performStep_after, Prod.map_fst, Prod.map_snd, id_eq, ih, tell_after]
    split <;> rfl

/-- Steps that others come before are performed as without them, under higher numbers. -/
theorem performSteps_renumbered (n index : Nat) (h : s.muted = t.muted) (vs : List Value) :
    Stage.MutedEq (performSteps page.handle c o (index + n) vs s)
      ((performSteps page.handle c o index vs t).map
        (List.zipWith (StepResult.renumbered n) vs) id) := by
  induction vs generalizing index s t with
  | nil => exact ⟨rfl, h⟩
  | cons v vs ih =>
    have hstep : Stage.MutedEq (performStep page.handle c o (index + n) v s)
        ((performStep page.handle c o index v t).map (StepResult.renumbered n v) id) := by
      obtain ⟨hresult, hstage⟩ := @performStep_eq_run _ page c _ _ o h (index + n) v
      obtain ⟨hresult', hstage'⟩ := @performStep_eq_run _ page c _ _ o rfl index v
      constructor
      · rw [hresult, Prod.map_fst, Prod.map_fst, hresult', Prod.map_fst,
          StepResult.renumbered_placed]
      · exact hstage.trans hstage'.symm
    have hsuccess := congrArg StepResult.success hstep.result
    rw [Prod.map_fst, StepResult.success_renumbered] at hsuccess
    have hrest := ih (index + 1) hstep.stage
    rw [Nat.add_right_comm] at hrest
    simp only [performSteps, hsuccess]
    split
    · refine ⟨?_, hstep.stage⟩
      rw [hstep.result, Prod.map_fst, Prod.map_fst, List.zipWith_cons_cons, List.zipWith_nil_right]
    · exact ⟨congrArg₂ List.cons hstep.result hrest.result, hrest.stage⟩

/-- Going on with steps is to run them by themselves, on the page as it is, and to renumber. -/
theorem performSteps_continued (n : Nat) (vs : List Value) (s : Stage) :
    Stage.MutedEq (performSteps page.handle c o n vs s)
      ((performSteps page.handle c o 0 vs s.fresh).map
        (List.zipWith (StepResult.renumbered n) vs) (·.after s.calls [])) := by
  have hrun := @performSteps_renumbered _ page c o _ _ n 0 s.muted_eq_fresh_after vs
  rwa [Nat.zero_add, performSteps_after] at hrun

/-- A run goes on after some results: it does not stop, or none of them has failed. -/
def GoesOn (o : RunOptions) (rs : List StepResult) : Prop :=
  o.stopOnError = false ∨ rs.all (·.success) = true

/-- Unless a run stops before them, further steps are run on the page as it is left. -/
theorem performSteps_append_of_goesOn (xs ys : List Value) (s : Stage)
    (h : GoesOn o (performSteps page.handle c o 0 xs s).1) :
    let first := performSteps page.handle c o 0 xs s
    let second := performSteps page.handle c o 0 ys first.2.fresh
    Stage.MutedEq (performSteps page.handle c o 0 (xs ++ ys) s)
      (first.1 ++ List.zipWith (StepResult.renumbered xs.length) ys second.1,
        second.2.after first.2.calls []) := by
  intro first second
  obtain ⟨hresults, hstage⟩ :
      Stage.MutedEq (performSteps page.handle c o xs.length ys first.2) _ :=
    performSteps_continued xs.length ys first.2
  have hgo : (o.stopOnError && !first.1.all (·.success)) = false := by
    rcases h with hstop | hall
    · rw [hstop, Bool.false_and]
    · rw [hall, Bool.not_true, Bool.and_false]
  have hwhole : performSteps page.handle c o 0 (xs ++ ys) s =
      (first.1 ++ (performSteps page.handle c o xs.length ys first.2).1,
        (performSteps page.handle c o xs.length ys first.2).2) := by
    rw [performSteps_append, Nat.zero_add]
    exact if_neg (Bool.eq_false_iff.mp hgo)
  rw [hwhole]
  exact ⟨congrArg (first.1 ++ ·) hresults, hstage⟩

theorem sequence_ofSteps_muted {vs : List Value} (hvs : (Value.ofSteps vs).IsAccepted)
    (h : s.muted = t.muted) :
    Stage.MutedEq (sequence page.handle c o (.ofSteps vs) s)
      ((performSteps page.handle c o 0 (vs.takeWhile Value.isAnnounced) t).map
        (concluded o vs) id) := by
  have hbegun : (begun o vs (checked (.ofSteps vs) s)).muted = t.muted := h
  obtain ⟨hresults, hstage⟩ := @performSteps_muted _ page c o.stopOnError _ _ o.logPrefix
    o.logPrefix hbegun 0 (vs.takeWhile Value.isAnnounced)
  rw [sequence_eq hvs (Value.steps?_ofSteps vs), accepted_eq]
  exact ⟨congrArg (concluded o vs) hresults, hstage⟩

end

section
variable {o : RunOptions} {xs ys : List Value} {rs rs' : List StepResult}

/-- A run that goes on after steps that could all be announced comes to what the rest comes to. -/
theorem concluded_append_of_goesOn (hxs : xs.all Value.isAnnounced = true) (h : GoesOn o rs)
    (hlength : rs'.length ≤ ys.length) :
    concluded o (xs ++ ys) (rs ++ List.zipWith (StepResult.renumbered xs.length) ys rs') =
      (concluded o ys rs').map
        ((RunResult.ofSteps xs.length (rs.all (·.success)) rs).followedBy ys) := by
  have hfailed : (o.stopOnError &&
        (rs ++ List.zipWith (StepResult.renumbered xs.length) ys rs').any (!·.success)) =
      (o.stopOnError && rs'.any (!·.success)) := by
    rw [← List.not_all_eq_any_not, ← List.not_all_eq_any_not, List.all_append,
      RunResult.all_zipWith_renumbered hlength]
    rcases h with hstop | hall
    · rw [hstop, Bool.false_and, Bool.false_and]
    · rw [hall, Bool.true_and]
  have hbroken : breakOff? o (xs ++ ys)
      (rs ++ List.zipWith (StepResult.renumbered xs.length) ys rs') = breakOff? o ys rs' := by
    unfold breakOff?
    rw [List.all_append, hxs, Bool.true_and, hfailed]
  unfold concluded
  rw [hbroken, List.length_append]
  cases breakOff? o ys rs' with
  | some f => rfl
  | none => exact congrArg Except.ok (RunResult.ofSteps_append hlength)

/-- A run ends with the first of its steps or is broken off in them. -/
def EndsIn (o : RunOptions) (xs : List Value) (rs : List StepResult) : Prop :=
  xs.all Value.isAnnounced = false ∨ (o.stopOnError && !rs.all (·.success)) = true

theorem goesOn_of_not_endsIn (h : ¬EndsIn o xs rs) :
    xs.all Value.isAnnounced = true ∧ GoesOn o rs := by
  unfold EndsIn at h
  unfold GoesOn
  cases hall : rs.all (·.success) <;> cases hstop : o.stopOnError <;> simp_all

theorem EndsIn.of_ok (h : EndsIn o xs rs) (hok : breakOff? o xs rs = none) :
    o.stopOnError = true ∧ rs.all (·.success) = false := by
  unfold breakOff? at hok
  rw [← List.not_all_eq_any_not] at hok
  rcases h with hsilent | hstopped
  · simp_all
  · simpa using hstopped

/-- Where a run ends or is broken off, further steps do not matter to it. -/
theorem concluded_append_of_endsIn (h : EndsIn o xs rs) :
    concluded o (xs ++ ys) rs =
      (concluded o xs rs).map ({ · with totalSteps := xs.length + ys.length }) := by
  have hbroken : breakOff? o (xs ++ ys) rs = breakOff? o xs rs := by
    unfold breakOff?
    rw [← List.not_all_eq_any_not]
    rcases h with hsilent | hstopped
    · rw [List.all_append, hsilent, Bool.false_and]
    · rw [hstopped, Bool.or_true, Bool.or_true]
  unfold concluded
  rw [hbroken, List.length_append]
  cases breakOff? o xs rs <;> rfl

end

section
variable [Pattern.Host]

theorem performSteps_append_of_endsIn {page : Page} {c : Settings} {o : RunOptions}
    {xs : List Value} (ys : List Value) {s : Stage}
    (h : EndsIn o xs (performSteps page.handle c o 0 (xs.takeWhile Value.isAnnounced) s).1) :
    performSteps page.handle c o 0 ((xs ++ ys).takeWhile Value.isAnnounced) s =
      performSteps page.handle c o 0 (xs.takeWhile Value.isAnnounced) s := by
  cases hall : xs.all Value.isAnnounced with
  | false =>
    have hshort : (xs.takeWhile Value.isAnnounced).length ≠ xs.length := by
      intro hlength
      rw [← (List.takeWhile_prefix _).eq_of_length hlength, List.all_takeWhile] at hall
      cases hall
    rw [List.takeWhile_append, if_neg hshort]
  | true =>
    have hxs : xs.takeWhile Value.isAnnounced = xs :=
      List.takeWhile_eq_self_iff.mpr (List.all_eq_true.mp hall)
    have hstopped := h.resolve_left (by simp [hall])
    rw [List.takeWhile_append_of_pos (List.all_eq_true.mp hall), performSteps_append]
    rw [hxs] at hstopped ⊢
    exact if_pos hstopped

/-- Where a run goes on after steps that could all be announced, the rest is run on the page as it
is left, as far as it can be announced. -/
theorem performSteps_append_of_not_endsIn {page : Page} {c : Settings} {o : RunOptions}
    {xs : List Value} (ys : List Value) {s : Stage}
    (h : ¬EndsIn o xs (performSteps page.handle c o 0 (xs.takeWhile Value.isAnnounced) s).1) :
    let first := performSteps page.handle c o 0 (xs.takeWhile Value.isAnnounced) s
    let second := performSteps page.handle c o 0 (ys.takeWhile Value.isAnnounced) first.2.fresh
    Stage.MutedEq
      ((performSteps page.handle c o 0 ((xs ++ ys).takeWhile Value.isAnnounced) s).map
        (concluded o (xs ++ ys)) id)
      ((concluded o ys second.1).map
          ((RunResult.ofSteps xs.length (first.1.all (·.success)) first.1).followedBy ys),
        second.2.after first.2.calls []) := by
  obtain ⟨hannounced, hgoes⟩ := goesOn_of_not_endsIn h
  have hall := List.all_eq_true.mp hannounced
  rw [List.takeWhile_append_of_pos hall]
  rw [List.takeWhile_eq_self_iff.mpr hall] at hgoes ⊢
  obtain ⟨hresults, hstage⟩ :=
    performSteps_append_of_goesOn xs (ys.takeWhile Value.isAnnounced) s hgoes
  intro first second
  have hlength : second.1.length ≤ (ys.takeWhile Value.isAnnounced).length :=
    length_performSteps_le 0 _ _
  have hprefix : ys.takeWhile Value.isAnnounced <+: ys := List.takeWhile_prefix _
  refine ⟨?_, hstage⟩
  rw [Prod.map_fst, hresults, ← zipWith_of_prefix hprefix hlength]
  exact concluded_append_of_goesOn hannounced hgoes (hlength.trans hprefix.length_le)

section
variable {page : Page} {c : Settings} {o : RunOptions} {xs ys : List Value} {s : Stage}
  (hxs : (Value.ofSteps xs).IsAccepted) (hys : (Value.ofSteps ys).IsAccepted)
include hxs hys

/-- A run that stops or is broken off before further steps is as if these were not there. -/
theorem sequence_append_of_endsIn
    (h : EndsIn o xs (performSteps page.handle c o 0 (xs.takeWhile Value.isAnnounced) s).1) :
    let first := sequence page.handle c o (.ofSteps xs) s
    let whole := sequence page.handle c o (.ofSteps (xs ++ ys)) s
    whole.1 = first.1.map ({ · with totalSteps := xs.length + ys.length }) ∧
      whole.2.muted = first.2.muted ∧
      ∀ r, first.1 = .ok r → o.stopOnError = true ∧ r.success = false := by
  intro first whole
  obtain ⟨hfirst, hleft⟩ : Stage.MutedEq first _ := sequence_ofSteps_muted hxs rfl
  obtain ⟨hwhole, hend⟩ : Stage.MutedEq whole _ :=
    sequence_ofSteps_muted (Value.isAccepted_append hxs hys) rfl
  rw [Prod.map_fst] at hfirst hwhole
  rw [performSteps_append_of_endsIn ys h] at hwhole hend
  refine ⟨?_, hend.trans hleft.symm, fun r hr => ?_⟩
  · rw [hwhole, hfirst]
    exact concluded_append_of_endsIn h
  · obtain ⟨hok, rfl⟩ := concluded_eq_ok_iff.mp (hfirst.symm.trans hr)
    exact h.of_ok hok

/-- A run that does neither comes to a result, and the further steps are run on the page as it is
left. -/
theorem sequence_append_of_not_endsIn
    (h : ¬EndsIn o xs (performSteps page.handle c o 0 (xs.takeWhile Value.isAnnounced) s).1) :
    let first := sequence page.handle c o (.ofSteps xs) s
    let second := sequence page.handle c o (.ofSteps ys) first.2.fresh
    let whole := sequence page.handle c o (.ofSteps (xs ++ ys)) s
    ∃ r, first.1 = .ok r ∧ (o.stopOnError = false ∨ r.success = true) ∧
      whole.1 = second.1.map (r.followedBy ys) ∧
      whole.2.calls = first.2.calls ++ second.2.calls ∧ whole.2.fresh = second.2.fresh := by
  intro first second whole
  let rs := performSteps page.handle c o 0 (xs.takeWhile Value.isAnnounced) s
  let rs' := performSteps page.handle c o 0 (ys.takeWhile Value.isAnnounced) rs.2.fresh
  obtain ⟨hfirst, hleft⟩ : Stage.MutedEq first (rs.map (concluded o xs) id) :=
    sequence_ofSteps_muted hxs rfl
  obtain ⟨hsecond, hleft'⟩ : Stage.MutedEq second (rs'.map (concluded o ys) id) :=
    sequence_ofSteps_muted hys (congrArg Stage.muted (Stage.fresh_eq_of_muted_eq hleft))
  obtain ⟨hwhole, hend⟩ : Stage.MutedEq whole _ :=
    sequence_ofSteps_muted (Value.isAccepted_append hxs hys) rfl
  rw [Prod.map_fst] at hfirst hsecond hwhole
  obtain ⟨hresult, hstage⟩ := performSteps_append_of_not_endsIn ys h
  obtain ⟨hannounced, hgoes⟩ := goesOn_of_not_endsIn h
  have hlast : whole.2.muted = (second.2.after first.2.calls []).muted := by
    rw [Stage.calls_eq_of_muted_eq hleft, Stage.muted_after, hleft']
    exact hend.trans hstage
  have hok : first.1 = .ok (.ofSteps xs.length (rs.1.all (·.success)) rs.1) := by
    rw [hfirst]
    exact concluded_of_breakOff?_eq_none (by rw [breakOff?, hannounced]; rfl)
  refine ⟨_, hok, hgoes, ?_, Stage.calls_eq_of_muted_eq hlast, ?_⟩
  · rw [hwhole, hsecond]
    exact hresult
  · exact (Stage.fresh_eq_of_muted_eq hlast).trans (Stage.fresh_after _ _ _)

end

/-- A run of steps and of others after them is the run of the former followed by that of the latter
on the page as it was left, unless it stops or is broken off before these. -/
theorem sequence_append (page : Page) (c : Settings) (o : RunOptions) {xs ys : List Value}
    (hxs : (Value.ofSteps xs).IsAccepted) (hys : (Value.ofSteps ys).IsAccepted) (s : Stage) :
    let first := sequence page.handle c o (.ofSteps xs) s
    let second := sequence page.handle c o (.ofSteps ys) first.2.fresh
    let whole := sequence page.handle c o (.ofSteps (xs ++ ys)) s
    (Value.ofSteps (xs ++ ys)).IsAccepted ∧
      (∀ r, first.1 = .ok r →
        (o.stopOnError = false ∨ r.success = true →
          whole.1 = second.1.map (r.followedBy ys) ∧
          whole.2.calls = first.2.calls ++ second.2.calls ∧
          whole.2.fresh = second.2.fresh) ∧
        (o.stopOnError = true → r.success = false →
          whole.1 = .ok { r with totalSteps := xs.length + ys.length } ∧
          whole.2.muted = first.2.muted)) ∧
      ∀ f, first.1 = .error f → whole.1 = .error f ∧ whole.2.muted = first.2.muted := by
  intro first second whole
  refine ⟨Value.isAccepted_append hxs hys, ?_⟩
  by_cases hends :
      EndsIn o xs (performSteps page.handle c o 0 (xs.takeWhile Value.isAnnounced) s).1
  · obtain ⟨hsame, hmuted, hfails⟩ : whole.1 = first.1.map _ ∧ _ ∧ ∀ r, first.1 = .ok r → _ :=
      sequence_append_of_endsIn hxs hys hends
    refine ⟨fun r hr => ⟨fun hgoes => ?_, fun _ _ => ⟨by rw [hsame, hr]; rfl, hmuted⟩⟩,
      fun f hf => ⟨by rw [hsame, hf]; rfl, hmuted⟩⟩
    obtain ⟨hstop, hfailed⟩ := hfails r hr
    rcases hgoes with hgoes | hgoes
    · exact absurd (hstop.symm.trans hgoes) (by decide)
    · exact absurd (hfailed.symm.trans hgoes) (by decide)
  · obtain ⟨r, hr, hgoes, happend⟩ := sequence_append_of_not_endsIn hxs hys hends
    refine ⟨fun r' hr' => ⟨fun _ => ?_, fun hstop hfails => ?_⟩, fun f hf => ?_⟩
    · obtain rfl := Except.ok.inj (hr.symm.trans hr')
      exact happend
    · obtain rfl := Except.ok.inj (hr.symm.trans hr')
      rcases hgoes with hgoes | hgoes
      · exact absurd (hstop.symm.trans hgoes) (by decide)
      · exact absurd (hfails.symm.trans hgoes) (by decide)
    · exact nomatch hr.symm.trans hf

end

open scoped Walkthrough.Pattern.Host

/-- A key is pressed in vain, and the title is compared all the same, or not any more. -/
theorem sequence_append_titleCheck :
    let s := titled [⟨⟨"press", none⟩, ⟨.timeout, ""⟩, none⟩]
    let xs : List Value := [.object [("action", .text "press"), ("key", .text "Enter")]]
    let ys : List Value := [.object [("action", .text "assertTitle"), ("pattern", .text "Results")]]
    let run (stop : Bool) (vs : List Value) :=
      sequence Stage.handle .standard ⟨stop, "Run"⟩ (.ofSteps vs)
    (Value.ofSteps xs).IsAccepted ∧ (Value.ofSteps ys).IsAccepted ∧
      ∃ r r' both stopped, (run false xs s).1 = .ok r ∧
        (run false ys (run false xs s).2.fresh).1 = .ok r' ∧
        (run false (xs ++ ys) s).1 = .ok both ∧ both = r.followedBy ys r' ∧
        both.results.map (·.label) = [.text "Step 1", .text "Step 2"] ∧
        (run true xs s).1 = .ok stopped ∧
        (run true (xs ++ ys) s).1 = .ok { stopped with totalSteps := 2 } := by
  intro s xs ys run
  have hxs : (Value.ofSteps xs).IsAccepted := ⟨⟨[], []⟩, rfl, rfl⟩
  have hys : (Value.ofSteps ys).IsAccepted := ⟨⟨[], []⟩, rfl, rfl⟩
  have happend (stop : Bool) :=
    sequence_append Page.scripted .standard ⟨stop, "Run"⟩ hxs hys s
  obtain ⟨-, hgoes, -⟩ := happend false
  obtain ⟨-, hstops, -⟩ := happend true
  have hboth := ((hgoes _ rfl).1 (.inl rfl)).1
  exact ⟨hxs, hys, _, _, _, _, rfl, rfl, rfl, Except.ok.inj hboth, rfl, rfl,
    ((hstops _ rfl).2 rfl rfl).1⟩

end Run

end Walkthrough
