import Walkthrough.Proofs.Action.Limits
import Walkthrough.Proofs.Page.Scripted
import Walkthrough.Proofs.Step.Assertion
import Walkthrough.Proofs.Step.Pause

/-!
What a step does to a page besides calling its operations: it sleeps only if it is a pause, once at
most, and for no longer than the settings allow.
-/
namespace Walkthrough

/-- From one page to another by operations of the page, log records, and sleeps of so many seconds
each, in this order. -/
inductive Passes (page : PageHandle) (s : Stage) : List Float → Stage → Prop
  | refl : Passes page s [] s
  | call {xs : List Float} {t : Stage} {α : Type} (h : Passes page s xs t) (op : PageOp α) :
    Passes page s xs (stageOf (page.call op t))
  | log {xs : List Float} {t : Stage} (h : Passes page s xs t) (rs : List LogRecord) :
    Passes page s xs { t with log := t.log ++ rs }
  | sleep {xs : List Float} {t : Stage} (h : Passes page s xs t) (x : Float) :
    Passes page s (xs ++ [x]) (t.rest x)

namespace Passes
variable {page : PageHandle} {s t u : Stage} {xs ys : List Float}

theorem trans (h : Passes page s xs t) (h' : Passes page t ys u) : Passes page s (xs ++ ys) u := by
  induction h' with
  | refl => simpa using h
  | call _ op ih => exact ih.call op
  | log _ rs ih => exact ih.log rs
  | sleep _ x ih =>
    rw [← List.append_assoc]
    exact ih.sleep x

theorem tell (h : Passes page s xs t) (r : LogRecord) : Passes page s xs (t.tell r) := h.log [r]

/-- On a page whose operations are no rests, the rests that are noted are the sleeps. -/
theorem sleeps_eq (hpage : page.IsAwake) (h : Passes page s xs t) :
    t.sleeps = s.sleeps ++ xs.map .sleep := by
  induction h with
  | refl => simp
  | call _ op ih => rw [hpage op, ih]
  | log _ rs ih => exact ih
  | sleep _ x ih => rw [Stage.sleeps_rest, ih, List.map_append, List.append_assoc]; rfl

end Passes

def Value.AsksForNaN (v : Value) : Prop := ∃ y : Float, y.isNaN = true ∧ v.field "ms" = .float y

namespace FieldKind

/-- A pause that was read is not negative, and is a NaN only if that was written. -/
theorem pause_bounds {v w : Value} {ms : Float} (hw : prepare .pause v = .ok w)
    (h : asFloat w = .ok ms) :
    Number.Binary64.belowInt ms 0 = false ∧ (ms.isNaN = true → v = .float ms) := by
  have hkept := prepare_pause_float hw h
  constructor
  · by_contra hbelow
    have hneg : (Number.float ms).lt (.int 0) = true := by simpa [Number.lt] using hbelow
    simp [prepare, Value.number?, hneg] at hkept
  · intro hnan
    have hzero : ms ≠ 0.0 := by
      rintro rfl
      cases hnan
    obtain ⟨w', hw', hfloat⟩ := asFloat_prepare_pause v
    obtain rfl := Except.ok.inj (hw.symm.trans hw')
    rw [hfloat] at h
    cases v with
    | float y =>
      by_cases hneg : (Number.float y).lt (.int 0) = true
      · simp only [Value.number?, if_pos hneg] at h
        exact absurd (Except.ok.inj h).symm hzero
      · simp only [Value.number?, if_neg hneg] at h
        exact congrArg Value.float (Except.ok.inj h)
    | int i =>
      by_cases hneg : (Number.int i).lt (.int 0) = true
      · simp only [Value.number?, if_pos hneg] at h
        exact absurd (Except.ok.inj h).symm hzero
      · simp only [Value.number?, if_neg hneg, asFloat] at h
        -- an integer that is converted is a finite double, so no NaN comes of one
        split at h
        next hfinite =>
          obtain rfl := Except.ok.inj h
          simp [Number.Binary64.isFinite, Number.Binary64.isNaN_iff.mp hnan] at hfinite
        · cases h
    | _ => exact absurd (Except.ok.inj h).symm hzero

end FieldKind

theorem Action.pause_of_ofValue {v : Value} {label : Option String} {ms : Float}
    (h : ofValue v = .ok ⟨.waitForTimeout, label, (ms, ())⟩) :
    ∃ w, FieldKind.prepare .pause (v.field "ms") = .ok w ∧ asFloat w = .ok ms := by
  obtain ⟨es, rfl, hread⟩ := read_fields_of_ofValue h
  obtain ⟨hms, -⟩ := Record.read_cons hread
  obtain ⟨w, hw, hconvert⟩ := Field.convert_of_read_need hms
  exact ⟨w, hw, FieldKind.alone_eq_ok hconvert⟩

theorem Action.actionKind?_of_ofValue {v : Value} {a : Action} (h : ofValue v = .ok a) :
    v.actionKind? = some a.kind := by
  rw [Value.actionKind?, actionName?_of_ofValue h]
  exact ActionKind.ofName?_name a.kind

theorem Action.eq_pause_of_ofValue {v : Value} {a : Action}
    (h : v.actionKind? = some .waitForTimeout) (ha : ofValue v = .ok a) :
    ∃ label ms, a = ⟨.waitForTimeout, label, (ms, ())⟩ := by
  rw [actionKind?_of_ofValue ha] at h
  obtain ⟨kind, label, fields⟩ := a
  obtain rfl : kind = .waitForTimeout := Option.some.inj h
  exact ⟨label, fields.1, rfl⟩

namespace Step
variable {page : PageHandle} {c : Settings} {v : Value}

def sleep? (c : Settings) (v : Value) : Option Float :=
  match Action.ofValue v with
  | .ok ⟨.waitForTimeout, _, (ms, ())⟩ => seconds? (pauseOf c ms)
  | _ => none

theorem sleep?_pause {label : Option String} {ms : Float}
    (h : Action.ofValue v = .ok ⟨.waitForTimeout, label, (ms, ())⟩) :
    sleep? c v = seconds? (pauseOf c ms) := by
  unfold sleep?
  rw [h]

theorem exists_of_sleep? {x : Float} (h : sleep? c v = some x) :
    ∃ label ms, Action.ofValue v = .ok ⟨.waitForTimeout, label, (ms, ())⟩ ∧
      seconds? (pauseOf c ms) = some x := by
  unfold sleep? at h
  split at h
  next label ms hms => exact ⟨label, ms, hms, h⟩
  · cases h

theorem sleep?_of_kind (h : v.actionKind? ≠ some .waitForTimeout) : sleep? c v = none := by
  refine Option.eq_none_iff_forall_ne_some.mpr fun x hx => ?_
  obtain ⟨label, ms, hms, -⟩ := exists_of_sleep? hx
  exact h (Action.actionKind?_of_ofValue hms)

/-- No step sleeps for longer than is allowed, unless it is asked for a pause that is no number. -/
theorem sleep?_allowed {x : Float} (h : sleep? c v = some x) :
    c.Allows x ∨ x.isNaN = true ∧ v.AsksForNaN := by
  obtain ⟨label, ms, hms, hx⟩ := exists_of_sleep? h
  obtain ⟨w, hw, hfloat⟩ := Action.pause_of_ofValue hms
  obtain ⟨hzero, hasked⟩ := FieldKind.pause_bounds hw hfloat
  cases hnan : ms.isNaN with
  | true => exact .inr ⟨seconds?_isNaN hnan hx, ms, hnan, hasked hnan⟩
  | false => exact .inl (allows_of_seconds? hnan hzero hx)

/-- Nothing is done but calling operations of the page and logging. -/
def Sleepless (page : PageHandle) {α : Type} (x : StepAct α) : Prop :=
  ∀ s, Passes page s [] (stageOf (x s))

theorem sleepless_congruence : StepAct.Congruence fun x _ => Sleepless page x where
  pure _ s := .refl
  throw _ _ s := .refl
  bind {_ _ x _ f _} hx hf s := by
    have hfirst := hx s
    rcases bind_cases x f s with ⟨a, t, hs, hbind⟩ | ⟨e, t, hs, hbind⟩
    · rw [hs] at hfirst
      rw [hbind]
      exact hfirst.trans (hf a t)
    · rw [hs] at hfirst
      rw [hbind]
      exact hfirst

theorem sleepless_call {α : Type} (op : PageOp α) :
    Sleepless page (liftM (page.call op) : StepAct α) := by
  intro s
  have hcall : Passes page s [] (stageOf (page.call op s)) := Passes.refl.call op
  rcases StepAct.liftM_cases (page.call op) s with ⟨a, t, hs, hlift⟩ | ⟨f, t, hs, hlift⟩ <;>
    rw [hs] at hcall <;> rw [hlift] <;> exact hcall

section
variable [Pattern.Host]

theorem sleepless_perform {a : Action} (h : a.kind ≠ .waitForTimeout) :
    Sleepless page (perform page c a) :=
  @StepAct.Congruence.perform _ sleepless_congruence page page sleepless_call _ c a
    fun hkind => absurd hkind h

/-- A pause asks nothing of the page, and rests once or not at all. -/
theorem perform_pause (page : PageHandle) (c : Settings) (label : Option String) (ms : Float)
    (s : Stage) :
    perform page c ⟨.waitForTimeout, label, (ms, ())⟩ s =
      match seconds? (pauseOf c ms) with
      | some x => .ok .null (s.rest x)
      | none => .error .oversizedPause s := by
  change (pause (pauseOf c ms) >>= fun _ => pure Value.null) s = _
  unfold pause
  cases seconds? (pauseOf c ms) <;> rfl

theorem attempt_passes (page : PageHandle) (c : Settings) (v : Value) (s : Stage) :
    Passes page s (sleep? c v).toList
      (stageOf (attempt page (.ok c) (Action.ofValue v) s)) := by
  cases ha : Action.ofValue v with
  | error f =>
    have hnone : sleep? c v = none := by simp [sleep?, ha]
    rw [hnone]
    exact .refl
  | ok a =>
    change Passes page s _ (stageOf (perform page c a s))
    by_cases hkind : v.actionKind? = some .waitForTimeout
    · obtain ⟨label, ms, rfl⟩ := Action.eq_pause_of_ofValue hkind ha
      rw [sleep?_pause ha, perform_pause]
      cases seconds? (pauseOf c ms) with
      | none => exact .refl
      | some x => exact Passes.refl.sleep x
    · rw [sleep?_of_kind hkind]
      rw [Action.actionKind?_of_ofValue ha] at hkind
      exact sleepless_perform (fun hpause => hkind (congrArg some hpause)) s

/-- What a pause does has nothing to do with the page that it is performed on. -/
theorem attempt_pause (h : v.actionKind? = some .waitForTimeout) (page page' : PageHandle)
    (c : Settings) :
    attempt page (.ok c) (Action.ofValue v) = attempt page' (.ok c) (Action.ofValue v) := by
  cases ha : Action.ofValue v with
  | error f => rfl
  | ok a =>
    obtain ⟨label, ms, rfl⟩ := Action.eq_pause_of_ofValue h ha
    rfl

theorem attempt_pause_calls (h : v.actionKind? = some .waitForTimeout) (page : PageHandle)
    (c : Settings) (s : Stage) :
    (stageOf (attempt page (.ok c) (Action.ofValue v) s)).calls =
      s.calls ++ (sleep? c v).toList.map .sleep := by
  cases ha : Action.ofValue v with
  | error f =>
    have hnone : sleep? c v = none := by simp [sleep?, ha]
    rw [hnone]
    exact (List.append_nil _).symm
  | ok a =>
    obtain ⟨label, ms, rfl⟩ := Action.eq_pause_of_ofValue h ha
    change (stageOf (perform page c ⟨.waitForTimeout, label, (ms, ())⟩ s)).calls = _
    rw [sleep?_pause ha, perform_pause]
    cases seconds? (pauseOf c ms) with
    | none => exact (List.append_nil _).symm
    | some x => rfl

end

theorem report_passes {name : String} {act : StepAct Value} {s : Stage} {xs : List Float}
    (h : Passes page s xs (stageOf (act s))) : Passes page s xs (report name act s).2 := by
  unfold report
  cases ha : act s with
  | ok w t => simpa [ha, stageOf] using h
  | error f t =>
    rw [ha] at h
    exact h.tell _

theorem run_passes [Pattern.Host] (page : PageHandle) (c : Settings) (v : Value) (s : Stage) :
    Passes page s (sleep? c v).toList (run page (.ok c) v s).2 :=
  report_passes (attempt_passes page c v s)

end Step

end Walkthrough
