import Walkthrough.Proofs.Action.Limits
import Walkthrough.Proofs.Step.Related

/-!
The timeout that an action passes to the page: its own, unless the checks have something against it,
and then the one that its type has.
-/
namespace Walkthrough

def PageOp.timeout? {α : Type} : PageOp α → Option Number
  | .goto _ wait | .goBack wait | .goForward wait | .reload wait | .waitForNavigation wait =>
    some wait.timeout
  | .waitForSelector _ timeout _ _ | .waitForFunction _ timeout _ => some timeout
  | _ => none

namespace Step

/-- On any page, an act begins with an operation that is given the timeout, and no other operation
that it calls is given one. -/
def PassesTimeout (timeout : Number) (act : PageHandle → StepAct Value) : Prop :=
  ∃ (op : PageOp Unit) (rest : PageHandle → StepAct Value), op.timeout? = some timeout ∧
    (∀ page, act page = liftM (page.call op) >>= fun _ => rest page) ∧
    ∀ page page' : PageHandle,
      (∀ {α : Type} (op : PageOp α), op.timeout? = none → page.call op = page'.call op) →
        rest page = rest page'

theorem plainly_bind (x y : Act Unit) :
    plainly (x >>= fun _ => y) = liftM x >>= fun _ => plainly y := by
  unfold plainly
  rw [StepAct.liftM_bind, bind_assoc]

/-- Waiting for an element to be shown comes first, and is all that takes a timeout. -/
theorem passesTimeout_afterShown {selector : String} {timeout : Number}
    {act : PageHandle → Act Unit}
    (hact : ∀ page page' : PageHandle,
      (∀ {α : Type} (op : PageOp α), op.timeout? = none → page.call op = page'.call op) →
        act page = act page') :
    PassesTimeout timeout fun page =>
      plainly (awaitShown page selector timeout >>= fun _ => act page) := by
  refine ⟨.waitForSelector selector timeout (some true) none, fun page => plainly (act page), rfl,
    fun page => plainly_bind _ _, fun page page' h => ?_⟩
  exact congrArg plainly (hact page page' h)

theorem passesTimeout_alone {op : PageOp Unit} {timeout : Number} (h : op.timeout? = some timeout) :
    PassesTimeout timeout fun page => plainly (page.call op) :=
  ⟨op, fun _ => return .null, h, fun _ => rfl, fun _ _ _ => rfl⟩

/-- One case for each type of action that has a timeout. -/
theorem perform_passesTimeout [Pattern.Host] (c : Settings) : ∀ a : Action,
    "timeout" ∈ a.kind.schema.knownFields → ∃ timeout : Option Float,
      a.attributes.get? "timeout" = some (.ofFloat? timeout) ∧
      PassesTimeout (timeoutFor a.kind.timeoutKind timeout) fun page => perform page c a
  | ⟨.click, _, (_, timeout, _, _, _, ())⟩, _ =>
    ⟨timeout, by cases timeout <;> rfl, passesTimeout_afterShown fun _ _ h => h (.click ..) rfl⟩
  | ⟨.type, _, (_, _, timeout, _, ())⟩, _ =>
    ⟨timeout, by cases timeout <;> rfl, passesTimeout_afterShown fun _ _ h => h (.type ..) rfl⟩
  | ⟨.clear, _, (_, timeout, ())⟩, _ =>
    ⟨timeout, by cases timeout <;> rfl,
      passesTimeout_afterShown fun _ _ h => congrArg discard (h (.evaluate ..) rfl)⟩
  | ⟨.select, _, (_, _, timeout, ())⟩, _ =>
    ⟨timeout, by cases timeout <;> rfl, passesTimeout_afterShown fun _ _ h => h (.select ..) rfl⟩
  | ⟨.hover, _, (_, timeout, ())⟩, _ =>
    ⟨timeout, by cases timeout <;> rfl, passesTimeout_afterShown fun _ _ h => h (.hover _) rfl⟩
  | ⟨.focus, _, (_, timeout, ())⟩, _ =>
    ⟨timeout, by cases timeout <;> rfl, passesTimeout_afterShown fun _ _ h => h (.focus _) rfl⟩
  | ⟨.waitForSelector, _, (_, timeout, _, _, ())⟩, _ =>
    ⟨timeout, by cases timeout <;> rfl, @passesTimeout_alone (.waitForSelector ..) _ rfl⟩
  | ⟨.waitForNavigation, _, (timeout, _, ())⟩, _ =>
    ⟨timeout, by cases timeout <;> rfl, @passesTimeout_alone (.waitForNavigation _) _ rfl⟩
  | ⟨.waitForFunction, _, (_, timeout, _, ())⟩, _ =>
    ⟨timeout, by cases timeout <;> rfl, @passesTimeout_alone (.waitForFunction ..) _ rfl⟩
  | ⟨.goto, _, (_, timeout, _, ())⟩, _ =>
    ⟨timeout, by cases timeout <;> rfl, @passesTimeout_alone (.goto ..) _ rfl⟩
  | ⟨.goBack, _, (timeout, _, ())⟩, _ =>
    ⟨timeout, by cases timeout <;> rfl, @passesTimeout_alone (.goBack _) _ rfl⟩
  | ⟨.goForward, _, (timeout, _, ())⟩, _ =>
    ⟨timeout, by cases timeout <;> rfl, @passesTimeout_alone (.goForward _) _ rfl⟩
  | ⟨.reload, _, (timeout, _, ())⟩, _ =>
    ⟨timeout, by cases timeout <;> rfl, @passesTimeout_alone (.reload _) _ rfl⟩
  | ⟨.press, _, _⟩, h | ⟨.waitForTimeout, _, _⟩, h | ⟨.scroll, _, _⟩, h
  | ⟨.scrollToElement, _, _⟩, h | ⟨.evaluate, _, _⟩, h | ⟨.setViewport, _, _⟩, h
  | ⟨.assert, _, _⟩, h | ⟨.assertSelector, _, _⟩, h | ⟨.assertText, _, _⟩, h
  | ⟨.assertUrl, _, _⟩, h | ⟨.assertTitle, _, _⟩, h =>
    absurd ((ActionKind.timeout_mem_knownFields_iff _).mp h) Bool.false_ne_true

end Step

theorem checkAction_object {es : Entries} {kind : ActionKind} {ws : List ActionWarning}
    (h : checkAction (.object es) = .ok ws) (hkind : (Value.object es).actionKind? = some kind) :
    kind.Admits (.object es) ∧ ws = oddities kind es := by
  obtain ⟨kind', hadmits⟩ := admits_of_checkAction h
  have hfound : (Value.object es).actionKind? = some kind' := by
    obtain ⟨-, -, hname, -⟩ := hadmits
    simp [Value.actionKind?, Value.actionName?, hname, ActionKind.ofName?_name]
  obtain rfl : kind' = kind := Option.some.inj (hfound.symm.trans hkind)
  rw [checkAction_of_admits hadmits] at h
  exact ⟨hadmits, (Except.ok.inj h).symm⟩

theorem Action.ofValue_object {es : Entries} {kind : ActionKind} {label : Option String}
    {fields : Record kind.fields} (hkind : (Value.object es).actionKind? = some kind)
    (hlabel : readLabel es = .ok label) (h : Record.read kind.fields es = .ok fields) :
    ofValue (.object es) = .ok ⟨kind, label, fields⟩ := by
  simp only [ofValue, hkind, read, hlabel, h]
  rfl

namespace Step

theorem ofFloat?_injective {x y : Option Float} (h : Value.ofFloat? x = Value.ofFloat? y) :
    x = y := by
  cases x <;> cases y <;> cases h <;> rfl

section
variable {es : Entries} {kind : ActionKind} {label : Option String} {v : Value}

/-- An action with a timeout that is an ordinary value is read if its other fields are, and passes
on what is left of the timeout. -/
theorem timeout_of_checked [Pattern.Host] (hkind : (Value.object es).actionKind? = some kind)
    (hlabel : Action.readLabel es = .ok label)
    (htimeout : "timeout" ∈ kind.schema.knownFields)
    (hothers : ∀ f ∈ kind.fields, f.wire ≠ "timeout" → ∃ c, f.read es = .ok c)
    (hv : es.get? "timeout" = some v) (hordinary : v.isOrdinary = true) :
    ∃ a, Action.ofValue (.object es) = .ok a ∧ a.kind = kind ∧
      a.attributes.get? "timeout" = some (.ofFloat? v.limit?) ∧
      ∀ c, PassesTimeout (timeoutFor kind.timeoutKind v.limit?) fun page => perform page c a := by
  have hread := Field.read_limit hv hordinary
  have hmem := ActionKind.timeout_mem_fields htimeout
  obtain ⟨fields, hfields⟩ : ∃ r, Record.read kind.fields es = .ok r := by
    refine Record.exists_read fun f hf => ?_
    by_cases hwire : f.wire = "timeout"
    · obtain rfl := ActionKind.eq_limit_of_wire hf hwire
      exact ⟨_, hread⟩
    · exact hothers f hf hwire
  have hnodup := kind.names_nodup
  simp only [List.nodup_cons] at hnodup
  have hattribute : Entries.get? (Action.attributes ⟨kind, label, fields⟩) "timeout" =
      some (.ofFloat? v.limit?) := by
    have hnotLabel : ¬("label" == "timeout") = true := by decide
    have hnotAction : ¬("action" == "timeout") = true := by decide
    have hvalue := Record.get?_values_name hnodup.2.2 hfields hmem hread
    rw [Action.attributes, Entries.get?_cons, if_neg hnotLabel, Entries.get?_cons,
      if_neg hnotAction]
    cases hlimit : v.limit? <;> rw [hlimit] at hvalue <;> exact hvalue
  refine ⟨_, Action.ofValue_object hkind hlabel hfields, rfl, hattribute, fun c => ?_⟩
  obtain ⟨timeout, htimeout, hpasses⟩ := perform_passesTimeout c ⟨kind, label, fields⟩ htimeout
  rw [hattribute] at htimeout
  rwa [← ofFloat?_injective (Option.some.inj htimeout)] at hpasses

/-- A pause of an ordinary value is read: as zero if the checks have something against it, and as
the number otherwise. -/
theorem pause_of_checked (hkind : (Value.object es).actionKind? = some .waitForTimeout)
    (hlabel : Action.readLabel es = .ok label) (hv : es.get? "ms" = some v)
    (hordinary : v.isOrdinary = true) :
    ∃ label ms, Action.ofValue (.object es) = .ok ⟨.waitForTimeout, label, (ms, ())⟩ ∧
      ((ms == 0.0) = true ↔
        v.isNonNegative = false ∨ ∃ n, v.number? = some n ∧ n.isZero = true) ∧
      ((ms == 0.0) = false → ∃ n, v.number? = some n ∧ ms = n.toFloat) := by
  have hread := Field.read_pause hv hordinary
  have haction {ms : Float} (hms : (Field.need "ms" .pause).read es = .ok ms) :
      Action.ofValue (.object es) = .ok ⟨.waitForTimeout, label, (ms, ())⟩ := by
    refine Action.ofValue_object hkind hlabel ?_
    simp only [ActionKind.fields, Record.read, hms]
    rfl
  cases hodd : v.isNonNegative with
  | false =>
    rw [hodd, if_neg Bool.false_ne_true] at hread
    exact ⟨_, 0.0, haction hread, iff_of_true rfl (.inl rfl), fun hne => by cases hne⟩
  | true =>
    obtain ⟨n, hn⟩ : ∃ n, v.number? = some n := by
      cases hn : v.number? with
      | none => simp [Value.isNonNegative, hn] at hodd
      | some n => exact ⟨n, rfl⟩
    rw [hodd, if_pos rfl, hn] at hread
    refine ⟨_, n.toFloat, haction hread, ?_, fun _ => ⟨n, hn, rfl⟩⟩
    rw [Number.toFloat_beq_zero]
    simp [hn]

end

/-- What the checks say about the numbers of an action is what becomes of them, if these are
ordinary values: a timeout that they warn about is not passed on, one that they do not warn about is
passed on as it is, and so with a pause. -/
theorem numbers_as_checked [Pattern.Host] {es : Entries} {kind : ActionKind}
    {ws : List ActionWarning} {index : Int} {r : ActionVerdict}
    (haccepted : validateAction (.object es) index = .ok r)
    (hchecked : checkAction (.object es) = .ok ws)
    (hkind : (Value.object es).actionKind? = some kind) :
    (∀ v, "timeout" ∈ kind.schema.knownFields →
      (∀ f ∈ kind.fields, f.wire ≠ "timeout" → ∃ c, f.read es = .ok c) →
      es.get? "timeout" = some v → v.isOrdinary = true →
      ∃ a default, Action.ofValue (.object es) = .ok a ∧ a.kind = kind ∧
        kind.timeoutKind.defaultTimeout? = some default ∧
        (ActionWarning.oddTimeout ∈ ws →
          a.attributes.get? "timeout" = some .null ∧
          ∀ c, PassesTimeout (.int default) fun page => perform page c a) ∧
        (ActionWarning.oddTimeout ∉ ws → ∃ n, v.number? = some n ∧
          a.attributes.get? "timeout" = some (.float n.toFloat) ∧
          ∀ c, PassesTimeout (.float n.toFloat) fun page => perform page c a)) ∧
    (kind = .waitForTimeout → ∀ v, es.get? "ms" = some v → v.isOrdinary = true →
      ∃ label ms, Action.ofValue (.object es) = .ok ⟨.waitForTimeout, label, (ms, ())⟩ ∧
        ((ms == 0.0) = true ↔
          ActionWarning.oddPause ∈ ws ∨ ∃ n, v.number? = some n ∧ n.isZero = true) ∧
        ((ms == 0.0) = false → ∃ n, v.number? = some n ∧ ms = n.toFloat)) := by
  obtain ⟨-, rfl⟩ := checkAction_object hchecked hkind
  obtain ⟨label, hlabel⟩ := Action.exists_readLabel
    (isWritable_label_of_hasTitleAt (validateAction_eq_ok_iff.mp haccepted).1)
  obtain ⟨htimeout_odd, hpause_odd⟩ := odd_mem_iff kind es
  constructor
  · intro v htimeout hothers hv hordinary
    obtain ⟨a, ha, rfl, hattribute, hpasses⟩ :=
      timeout_of_checked hkind hlabel htimeout hothers hv hordinary
    obtain ⟨default, hdefault⟩ :=
      Option.isSome_iff_exists.mp ((ActionKind.timeout_mem_knownFields_iff _).mp htimeout)
    refine ⟨a, default, ha, rfl, hdefault, fun hodd => ?_, fun hodd => ?_⟩
    · rw [htimeout_odd, presentAndNot_of_get? hv, Bool.not_eq_true'] at hodd
      have hdropped : v.limit? = none := by simp [Value.limit?, hodd]
      rw [hdropped] at hattribute hpasses
      refine ⟨hattribute, fun c => ?_⟩
      have hpass := hpasses c
      rwa [timeoutFor, hdefault] at hpass
    · rw [htimeout_odd, presentAndNot_of_get? hv, Bool.not_eq_true', Bool.not_eq_false] at hodd
      obtain ⟨n, hn⟩ : ∃ n, v.number? = some n := by
        cases hn : v.number? with
        | none => simp [Value.isPositive, hn] at hodd
        | some n => exact ⟨n, rfl⟩
      have hkept : v.limit? = some n.toFloat := by simp [Value.limit?, hodd, hn]
      rw [hkept] at hattribute hpasses
      exact ⟨n, hn, hattribute, hpasses⟩
  · rintro rfl v hv hordinary
    rw [hpause_odd, presentAndNot_of_get? hv, Bool.not_eq_true']
    exact pause_of_checked hkind hlabel hv hordinary

open scoped Walkthrough.Pattern.Host

/-- A timeout that is let through, and a pause that is not. -/
theorem numbers_as_checked_click :
    let click : Entries := [("action", .text "click"), ("selector", .text "#a"),
      ("timeout", .int 250)]
    let pause : Entries := [("action", .text "waitForTimeout"), ("ms", .float (-0.5))]
    (validateAction (.object click) 0 = .ok ⟨none, []⟩ ∧
      ∃ a, Action.ofValue (.object click) = .ok a ∧
        ∀ c, PassesTimeout (.float 250.0) fun page => perform page c a) ∧
    validateAction (.object pause) 0 =
        .ok ⟨none, ["Step 1: ms should be a non-negative number"]⟩ ∧
      ∃ label ms, Action.ofValue (.object pause) = .ok ⟨.waitForTimeout, label, (ms, ())⟩ ∧
        (ms == 0.0) = true := by
  intro click pause
  have hclick : validateAction (.object click) 0 = .ok ⟨none, []⟩ :=
    validateAction_eq_ok_iff.mpr ⟨by decide +kernel, rfl⟩
  have hpause : validateAction (.object pause) 0 =
      .ok ⟨none, ["Step 1: ms should be a non-negative number"]⟩ :=
    validateAction_eq_ok_iff.mpr ⟨by decide +kernel, rfl⟩
  have hothers : ∀ f ∈ ActionKind.click.fields, f.wire ≠ "timeout" →
      ∃ c, f.read click = .ok c := by
    intro f hf hwire
    simp only [ActionKind.fields, List.mem_cons, List.not_mem_nil, or_false] at hf
    rcases hf with rfl | rfl | rfl | rfl | rfl
    · exact ⟨_, rfl⟩
    · exact absurd rfl hwire
    all_goals exact ⟨_, rfl⟩
  obtain ⟨a, -, ha, -, -, -, hkept⟩ :=
    (numbers_as_checked hclick rfl rfl).1 (.int 250) (by decide) hothers rfl rfl
  obtain ⟨label, ms, hms, hzero, -⟩ :=
    (numbers_as_checked hpause rfl rfl).2 rfl (.float (-0.5)) rfl rfl
  refine ⟨⟨hclick, a, ha, ?_⟩, hpause, label, ms, hms, hzero.mpr (.inl (by decide))⟩
  obtain ⟨n, hn, -, hpasses⟩ := hkept (by decide)
  cases hn
  exact hpasses

/-- A timeout that is no number is passed on although there is a warning about it. -/
theorem oddTimeout_passed_on :
    let es : Entries := [("action", .text "click"), ("selector", .text "#a"),
      ("timeout", .float .nan)]
    validateAction (.object es) 0 =
        .ok ⟨none, ["Step 1: timeout should be a positive number"]⟩ ∧
      ∃ a, Action.ofValue (.object es) = .ok a ∧
        a.attributes.get? "timeout" = some (.float .nan) ∧
        ∀ c, PassesTimeout (.float .nan) fun page => perform page c a := by
  intro es
  refine ⟨validateAction_eq_ok_iff.mpr ⟨by decide +kernel, rfl⟩,
    ⟨.click, none, ("#a", some .nan, none, none, none, ())⟩, rfl, rfl, fun c => ?_⟩
  exact passesTimeout_afterShown fun _ _ h => h (.click ..) rfl

end Step

end Walkthrough
