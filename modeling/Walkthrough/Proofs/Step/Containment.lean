import Walkthrough.Proofs.Step.Course
import Walkthrough.Proofs.Step.Pause
import Walkthrough.Proofs.Step.Result

/-!
What goes wrong in a step stays in it. A call that fails is the last one of its step, and its error
is that of the step; without such a call a step fails only where a pattern cannot be compared, the
verdict on a count cannot be written out, or the settings ask for a pause that cannot be told in
seconds. A verdict never makes a step fail.
-/
namespace Walkthrough

/-- What an operation answers is something that a pattern cannot be compared with. -/
def PageHandle.FailsToCompare [Pattern.Host] (page : PageHandle) (op : PageOp String)
    (pattern : String) (strict : Option Bool) (s : Stage) : Prop :=
  ∃ actual t f, page.call op s = .ok actual t ∧
    Pattern.compare actual pattern (strict.getD false) = .error f

/-- The numbers that the verdict on the matches of a selector tells. -/
def toldCounts (visible : Option Bool) (expected : Option Int) (count : Nat) : List Int :=
  match expected with
  | some n => [n, count]
  | none => if visible = some true then [] else [count]

/-- What a selector is counted to is told, and has too many digits, or what it should be has. -/
def PageHandle.FailsToTell (page : PageHandle) (selector : String) (visible : Option Bool)
    (expected : Option Int) (s : Stage) : Prop :=
  ∃ count t, page.call (.count selector) s = .ok count t ∧
    ∃ n ∈ toldCounts visible expected count, (Value.int n).isWritable = false

namespace Step

def ComparisonFails [Pattern.Host] (page : PageHandle) (s : Stage) : Action → Prop
  | ⟨.assertUrl, _, (pattern, _, strict, ())⟩ => page.FailsToCompare .currentUrl pattern strict s
  | ⟨.assertTitle, _, (pattern, _, strict, ())⟩ => page.FailsToCompare .title pattern strict s
  | _ => False

def CountFails (page : PageHandle) (s : Stage) : Action → Prop
  | ⟨.assertSelector, _, (selector, _, visible, expected, ())⟩ =>
    page.FailsToTell selector visible expected s
  | _ => False

/-- A pause is cut to an integer of milliseconds that is out of the range of doubles in seconds. -/
def PauseFails (c : Settings) : Action → Prop
  | ⟨.waitForTimeout, _, (ms, ())⟩ => seconds? (pauseOf c ms) = none
  | _ => False

/-- The name that a step goes by: the text under `action` of an object, if there is one. -/
inductive GoesBy (v : Value) : String → Prop
  | named {es : Entries} {name : String} (hv : v = .object es)
    (h : es.get? "action" = some (.text name)) : GoesBy v name
  | unknown (h : ∀ (es : Entries) (name : String), v = .object es →
      es.get? "action" ≠ some (.text name)) : GoesBy v "unknown"

/-- An action as it is performed: what happens on the page, and the result that comes of it. -/
structure Contained [Pattern.Host] (page : PageHandle) (c : Settings) (a : Action) (s : Stage)
    (es : List Event) (r : StepResult) (t : Stage) : Prop where
  course : Course page s es t
  noted : page.Notes → t.calls = s.calls ++ es.map Event.noted
  raised : ∀ before e after f, es = before ++ e :: after → e.fault? page = some f →
    after = [] ∧ r.success = false ∧ r.result = .null ∧
      r.error = some (if f.message = "" then f.kind.name else f.message)
  success_iff : r.success = true ↔
    (∀ e ∈ es, e.fault? page = none) ∧ ¬ComparisonFails page s a ∧ ¬CountFails page s a ∧
      ¬PauseFails c a
  error_of_success : r.success = true → r.error = none

end Step

theorem Verdict.ofCount_error_iff {selector : String} {expected : Int} {count : Nat} :
    (∃ f, ofCount selector expected count = .error f) ↔
      (Value.int expected).isWritable = false ∨ (Value.int count).isWritable = false := by
  unfold ofCount
  cases hexpected : (Value.int expected).isWritable with
  | false =>
    rw [Value.write_of_not_isWritable hexpected]
    exact iff_of_true ⟨_, rfl⟩ (.inl rfl)
  | true =>
    rw [Value.write_of_isWritable hexpected]
    dsimp only [bind, Except.bind]
    split
    next heq =>
      rw [heq, hexpected]
      exact iff_of_false nofun (by decide)
    · cases hcount : (Value.int count).isWritable with
      | false =>
        rw [Value.write_of_not_isWritable hcount]
        exact iff_of_true ⟨_, rfl⟩ (.inr rfl)
      | true =>
        rw [Value.write_of_isWritable hcount]
        exact iff_of_false nofun (by decide)

theorem Verdict.ofPresence_error_iff {selector : String} {count : Nat} {message : Option String} :
    (∃ f, ofPresence selector count message = .error f) ↔
      (Value.int count).isWritable = false := by
  unfold ofPresence
  cases hcount : (Value.int count).isWritable with
  | false =>
    have hpos : 0 < count := by
      refine Nat.pos_of_ne_zero fun hzero => ?_
      rw [hzero, Value.isWritable_of_not_truthy rfl] at hcount
      cases hcount
    rw [if_pos hpos, Value.write_of_not_isWritable hcount]
    exact iff_of_true ⟨_, rfl⟩ rfl
  | true =>
    rw [Value.write_of_isWritable hcount]
    refine iff_of_false ?_ (by decide)
    split <;> exact nofun

namespace Plan
variable {page : PageHandle} {s : Stage}

/-- A plan ends with a fault that is not one of the page. -/
def FailsByItself (page : PageHandle) (p : Plan Value) (s : Stage) : Prop :=
  ∃ f t, f.isOfPerforming = true ∧ p.run page s = .error f t

theorem failsByItself_given {v : Except Unwritable Verdict} :
    (given v).FailsByItself page s ↔ ∃ f, v = .error f := by
  cases v with
  | ok v =>
    refine iff_of_false ?_ nofun
    rintro ⟨f, t, -, hrun⟩
    cases hrun
  | error f => exact iff_of_true ⟨.unwritable f, s, rfl, rfl⟩ ⟨f, rfl⟩

theorem failsByItself_done {v : Value} : ¬(done v).FailsByItself page s := by
  rintro ⟨f, t, -, hrun⟩
  cases hrun

theorem failsByItself_call {β : Type} {op : PageOp β} {next : β → Plan Value} :
    (call op next).FailsByItself page s ↔
      ∃ b t, page.call op s = .ok b t ∧ (next b).FailsByItself page t := by
  constructor
  · rintro ⟨f, t, hown, hrun⟩
    cases h : page.call op s with
    | error g u =>
      rw [run_call_error h] at hrun
      cases hrun
      cases hown
    | ok b u =>
      rw [run_call_ok h] at hrun
      exact ⟨b, u, rfl, f, t, hown, hrun⟩
  · rintro ⟨b, t, h, f, u, hown, hrun⟩
    exact ⟨f, u, hown, by rw [run_call_ok h, hrun]⟩

theorem failsByItself_compared [Pattern.Host] {what : String} {op : PageOp String}
    {pattern : String} {message : Option String} {strict : Option Bool} :
    (compared what op pattern message strict).FailsByItself page s ↔
      page.FailsToCompare op pattern strict s := by
  refine failsByItself_call.trans (exists₂_congr fun actual t => ?_)
  cases hcompare : Pattern.compare actual pattern (strict.getD false) with
  | ok matched => simp [failsByItself_done]
  | error f => exact ⟨fun h => ⟨f, h.1, rfl⟩, fun ⟨_, h, _⟩ => ⟨h, .comparison f, t, rfl, rfl⟩⟩

theorem failsByItself_counted {selector : String} {message : Option String} {visible : Option Bool}
    {expected : Option Int} :
    (counted selector message visible expected).FailsByItself page s ↔
      page.FailsToTell selector visible expected s := by
  refine failsByItself_call.trans (exists₂_congr fun count t => and_congr_right fun _ => ?_)
  unfold toldCounts
  cases expected with
  | some n =>
    refine failsByItself_given.trans (Verdict.ofCount_error_iff.trans ?_)
    simp
  | none =>
    dsimp only
    split
    · refine iff_of_false ?_ (by simp)
      split
      · rw [failsByItself_call]
        rintro ⟨shown, u, -, hfails⟩
        exact failsByItself_done hfails
      · exact failsByItself_done
    · refine failsByItself_given.trans (Verdict.ofPresence_error_iff.trans ?_)
      simp

theorem failsByItself_paused {ms : Number} :
    (paused ms).FailsByItself page s ↔ Step.seconds? ms = none := by
  unfold paused FailsByItself
  cases Step.seconds? ms with
  | some seconds =>
    refine iff_of_false ?_ (Option.some_ne_none _)
    rintro ⟨f, t, -, hrun⟩
    cases hrun
  | none => exact iff_of_true ⟨.oversizedPause, s, rfl, rfl⟩ rfl

/-- An action fails by itself only by a comparison, by a count or by a pause. -/
theorem failsByItself_ofAction_iff [Pattern.Host] (page : PageHandle) (c : Settings) (s : Stage)
    (a : Action) :
    (ofAction c a).FailsByItself page s ↔
      Step.ComparisonFails page s a ∨ Step.CountFails page s a ∨ Step.PauseFails c a := by
  have hmay (hfails : (ofAction c a).FailsByItself page s) : a.kind.mayFail = true := by
    obtain ⟨f, t, hown, hrun⟩ := hfails
    have hending := @ending_run _ page _ _ _ _ (ofAction_all c a) s
    rw [hrun] at hending
    cases hending with
    | called => cases hown
    | failed hf => exact hf.2
  obtain ⟨kind, label, fields⟩ := a
  cases kind with
  | waitForTimeout =>
    exact failsByItself_paused.trans ((or_iff_right not_false).trans (or_iff_right not_false)).symm
  | assertSelector =>
    exact failsByItself_counted.trans ((or_iff_right not_false).trans (or_iff_left not_false)).symm
  | assertUrl => exact failsByItself_compared.trans (or_iff_left (·.elim id id)).symm
  | assertTitle => exact failsByItself_compared.trans (or_iff_left (·.elim id id)).symm
  | _ =>
    exact iff_of_false (fun hfails => Bool.false_ne_true (hmay hfails))
      fun h => h.elim id (·.elim id id)

end Plan

namespace Step
variable {page : PageHandle} {c : Settings} {a : Action}

theorem course_report {name : String} {act : StepAct Value} {s : Stage} {es : List Event}
    (h : Course page s es (stageOf (act s))) : Course page s es (report name act s).2 := by
  unfold report
  cases hact : act s with
  | ok v t => rwa [hact] at h
  | error f t =>
    rw [hact] at h
    exact h.tell _

theorem report_contained [Pattern.Host] (name : String) (s : Stage) :
    Contained page c a s ((Plan.ofAction c a).events page s)
      (report name (attempt page (.ok c) (.ok a)) s).1
      (report name (attempt page (.ok c) (.ok a)) s).2 := by
  have hperform : attempt page (.ok c) (.ok a) = (Plan.ofAction c a).run page :=
    Plan.perform_eq page c a
  rw [hperform]
  have hcourse : Course page s ((Plan.ofAction c a).events page s)
      (report name ((Plan.ofAction c a).run page) s).2 :=
    course_report ((Plan.ofAction c a).course_run s)
  have hfails := Plan.failsByItself_ofAction_iff page c s a
  have hending := @Plan.ending_run _ page _ _ _ _ (Plan.ofAction_all c a) s
  constructor
  case course => exact hcourse
  case noted => exact fun hpage => hcourse.calls_eq hpage
  case error_of_success => exact (report_coherent name _ s).error_of_success
  case raised =>
    intro before e after f hes he
    obtain ⟨hafter, t, hrun⟩ := hending.of_fault hes he
    unfold report
    rw [hrun]
    exact ⟨hafter, rfl, rfl, rfl⟩
  case success_iff =>
    unfold report
    cases hrun : (Plan.ofAction c a).run page s with
    | ok v t =>
      rw [hrun] at hending
      cases hending with
      | answered hnone =>
        have hdone : ¬(Plan.ofAction c a).FailsByItself page s := by
          rintro ⟨f, u, -, herror⟩
          rw [hrun] at herror
          cases herror
        rw [hfails, not_or, not_or] at hdone
        exact iff_of_true rfl ⟨hnone, hdone⟩
    | error f t =>
      refine iff_of_false Bool.false_ne_true ?_
      rintro ⟨hnone, hcomparison, hcount, hpause⟩
      rw [hrun] at hending
      cases hending with
      | @called before last g u hes _ hlast =>
        rw [hnone last (by simp [hes])] at hlast
        cases hlast
      | failed hown =>
        exact (hfails.mp ⟨f, t, hown.1, hrun⟩).elim hcomparison (·.elim hcount hpause)

/-- What happens in a step is nothing, or what its action plans. -/
theorem exists_course [Pattern.Host] {P : List Event → Prop} {v : Value} {s : Stage} (hnone : P [])
    (hplan : ∀ a, Action.ofValue v = .ok a → P ((Plan.ofAction c a).events page s)) :
    ∃ es, Course page s es (run page (.ok c) v s).2 ∧ P es := by
  cases ha : Action.ofValue v with
  | error f =>
    refine ⟨[], ?_, hnone⟩
    rw [run, ha]
    exact Course.refl.tell _
  | ok a =>
    refine ⟨_, ?_, hplan a ha⟩
    rw [run, ha]
    exact (report_contained _ s).course

theorem goesBy_nameOf (v : Value) : GoesBy v (nameOf v) := by
  unfold nameOf Value.actionName?
  cases v with
  | object es =>
    cases hget : Entries.get? es "action" with
    | none =>
      have hfield : (Value.object es).field "action" = .null := by
        simp [Value.field, Entries.getD, hget]
      rw [hfield]
      refine .unknown fun es' name hv => ?_
      cases hv
      simp [hget]
    | some w =>
      have hfield : (Value.object es).field "action" = w := by
        simp [Value.field, Entries.getD, hget]
      rw [hfield]
      cases w with
      | text name => exact .named rfl hget
      | _ =>
        refine .unknown fun es' name hv => ?_
        cases hv
        simp [hget]
  | _ => exact .unknown fun _ _ hv => by cases hv

/-- A pause can fail only if the settings allow no pause, and that by a number out of range. -/
theorem PauseFails.setting (h : PauseFails c a) :
    c.maxWaitMs < 0 ∧
      Number.Binary64.isFinite (Number.int c.maxWaitMs).thousandth = false := by
  obtain ⟨kind, label, fields⟩ := a
  cases kind with
  | waitForTimeout =>
    replace h : seconds? (pauseOf c fields.1) = none := h
    have hint {n : ℤ} (hn : seconds? (.int n) = none) :
        Number.Binary64.isFinite (Number.int n).thousandth = false := by
      unfold seconds? at hn
      dsimp only at hn
      split at hn
      · cases hn
      next hfinite => exact Bool.eq_false_iff.mpr hfinite
    rcases pauseOf_cases c fields.1 with ⟨hpause, -⟩ | ⟨hpause, hshort⟩ | ⟨hpause, -⟩
    · rw [hpause] at h
      cases h
    · rw [hpause] at h
      refine ⟨?_, hint h⟩
      by_contra hnonneg
      have hsign := Number.sign?_thousandth c.maxWaitMs
      rw [decide_eq_false hnonneg] at hsign
      have hfinite := Number.Binary64.isFinite_of_le hsign (y := (Number.int 30000).thousandth) rfl
        (Number.thousandth_int_le hshort (by decide))
      rw [hint h] at hfinite
      cases hfinite
    · rw [hpause] at h
      cases h
  | _ => exact h.elim

/-- Whatever a step is and however calls fail, it is contained: one that is no action calls nothing
and fails, and any other calls nothing after a call that failed, the error of which becomes its own.
It succeeds if no call fails, no comparison, no verdict on a count and no pause. -/
theorem run_contained [Pattern.Host] (page : PageHandle) (c : Settings) (s : Stage) :
    (∀ v,
      (∃ name, GoesBy v name ∧ (run page (.ok c) v s).1.action = .text name) ∧
      (∀ f, Action.ofValue v = .error f →
        (run page (.ok c) v s).1.success = false ∧ (run page (.ok c) v s).1.result = .null ∧
        (run page (.ok c) v s).1.error = some f.message ∧
        (run page (.ok c) v s).2.muted = s.muted) ∧
      ∀ a, Action.ofValue v = .ok a →
        ∃ es, Contained page c a s es (run page (.ok c) v s).1 (run page (.ok c) v s).2) ∧
    (∀ a, (runAction page (.ok c) a s).1.action = .text a.kind.name ∧
      ∃ es, Contained page c a s es (runAction page (.ok c) a s).1
        (runAction page (.ok c) a s).2) ∧
    ∀ a, PauseFails c a → c.maxWaitMs < 0 ∧
      Number.Binary64.isFinite (Number.int c.maxWaitMs).thousandth = false := by
  refine ⟨fun v => ⟨⟨nameOf v, goesBy_nameOf v, report_action _ _ s⟩, fun f hf => ?_,
    fun a ha => ?_⟩, fun a => ⟨report_action _ _ s, _, report_contained a.name s⟩,
    fun a => PauseFails.setting⟩
  · rw [run, hf]
    exact ⟨rfl, rfl, rfl, rfl⟩
  · rw [run, ha]
    exact ⟨_, report_contained _ s⟩

open scoped Walkthrough.Pattern.Host

/-- A title that cannot be asked for in time: the assertion about it ends with that call. -/
theorem run_contained_title :
    let v : Value := .object [("action", .text "assertTitle"), ("pattern", .text "Results")]
    let a : Action := ⟨.assertTitle, none, ("Results", none, none, ())⟩
    let s : Stage := { PageContent.opened ⟨"about:blank", "Results", [], []⟩ with
      failures := [⟨⟨"title", none⟩, ⟨.timeout, ""⟩, none⟩] }
    let r := run Stage.handle (.ok .standard) v s
    Action.ofValue v = .ok a ∧ r.1.error = some "TimeoutError" ∧
      ∃ es, Contained Stage.handle .standard a s es r.1 r.2 ∧
        es.map Event.noted = [⟨"title", [], []⟩] := by
  intro v a s r
  obtain ⟨es, hes⟩ := ((run_contained Stage.handle .standard s).1 v).2.2 a rfl
  refine ⟨rfl, by decide, es, hes, ?_⟩
  have hcalls : r.2.calls = [⟨"title", [], []⟩] := rfl
  have hnoted := hes.noted Stage.handle_notes
  rw [hcalls] at hnoted
  exact hnoted.symm

/-- Steps fail although no call does and nothing is compared. The settings cut a pause to a number
of milliseconds that is out of range in seconds; the number of matches that an assertion expects has
too many digits for the verdict to tell it. -/
theorem run_fails_without_faults :
    let rest : Value := .object [("action", .text "waitForTimeout"), ("ms", .int 5)]
    let count : Value := .object [("action", .text "assertSelector"), ("selector", .text "#a"),
      ("count", .int (10 ^ 4300))]
    let c : Settings := { Settings.standard with maxWaitMs := -(10 ^ 400) }
    let s := PageContent.opened ⟨"about:blank", "", [], []⟩
    let rested := run Stage.handle (.ok c) rest s
    let counted := run Stage.handle (.ok .standard) count s
    (∃ a, Action.ofValue rest = .ok a ∧ ¬ComparisonFails Stage.handle s a) ∧
      rested.2.calls = [] ∧ rested.1.success = false ∧
      rested.1.error = some "integer division result too large for a float" ∧
      counted.2.calls = [⟨"count", [.text "#a"], []⟩] ∧ counted.1.success = false ∧
      counted.1.error = some Number.tooGreatMessage := by
  intro rest count c s rested counted
  have hwrite : (Value.int (10 ^ 4300)).write = .error .tooGreat :=
    Value.write_of_not_isWritable (by decide +kernel)
  have hattempt : attempt Stage.handle (.ok .standard) (Action.ofValue count) s =
      .error (.unwritable .tooGreat) (s.enter ⟨"count", [.text "#a"], []⟩) := by
    change give (Verdict.ofCount "#a" (10 ^ 4300) 0) _ = _
    unfold Verdict.ofCount
    rw [hwrite]
    rfl
  have hcounted : counted =
      report "assertSelector" (attempt Stage.handle (.ok .standard) (Action.ofValue count)) s := rfl
  have hrested : rested.2.calls = [] ∧ rested.1.success = false ∧
      rested.1.error = some "integer division result too large for a float" := by decide +kernel
  refine ⟨⟨⟨.waitForTimeout, none, (5.0, ())⟩, rfl, id⟩, hrested.1, hrested.2.1, hrested.2.2, ?_⟩
  rw [hcounted, report, hattempt]
  exact ⟨rfl, rfl, rfl⟩

end Step

end Walkthrough
