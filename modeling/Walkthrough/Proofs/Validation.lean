import Walkthrough.Validation

/-!
What the checks accept: an action that names a known type and has what that type requires, and a
sequence of at least one such action. Every message about a step begins with the step's title; where
that cannot be written out the checks are broken off.
-/
namespace Walkthrough

/-- The value is an action of the type, with all that the type requires. -/
def ActionKind.Admits (kind : ActionKind) (v : Value) : Prop :=
  ∃ es, v = .object es ∧ v.field "action" = .text kind.name ∧ missingFields kind.schema es = []

theorem ActionKind.name_ne_empty (kind : ActionKind) : kind.name ≠ "" := by
  cases kind <;> decide

theorem admits_of_checkAction {v : Value} {warnings : List ActionWarning}
    (h : checkAction v = .ok warnings) : ∃ kind : ActionKind, kind.Admits v := by
  unfold checkAction at h
  split at h
  next es =>
    split at h
    next name hname =>
      split at h
      · cases h
      · split at h
        · cases h
        next kind hkind =>
          dsimp only at h
          split at h
          next hmissing =>
            refine ⟨kind, es, rfl, ?_, List.isEmpty_iff.mp hmissing⟩
            rw [hname, ActionKind.name_of_ofName? hkind]
          · cases h
    · cases h
  · cases h

theorem checkAction_of_admits {kind : ActionKind} {es : Entries}
    (h : kind.Admits (.object es)) : checkAction (.object es) = .ok (oddities kind es) := by
  obtain ⟨_, ⟨⟩, hname, hmissing⟩ := h
  simp [checkAction, hname, kind.name_ne_empty, ActionKind.ofName?_name, hmissing]

theorem missingFields_eq_nil_iff {kind : ActionKind} {es : Entries} :
    missingFields kind.schema es = [] ↔
      ∀ f ∈ kind.fields, f.required = true → (es.getD f.wire).isBlank = false := by
  simp only [missingFields, ActionKind.schema, List.filter_eq_nil_iff, List.forall_mem_map,
    List.mem_filter, Bool.not_eq_true, and_imp]

theorem ActionKind.Admits.kind_eq {kind kind' : ActionKind} {es : Entries}
    (h : kind.Admits (.object es)) (h' : Entries.get? es "action" = some (.text kind'.name)) :
    kind = kind' := by
  obtain ⟨-, -, hfield, -⟩ := h
  simp only [Value.field, Entries.getD, h', Option.getD_some, Value.text.injEq] at hfield
  exact ActionKind.name_injective hfield.symm

/-- An action is accepted if its type is known and admits it. -/
theorem checkAction_eq_ok_iff {v : Value} :
    (∃ warnings, checkAction v = .ok warnings) ↔ ∃ kind : ActionKind, kind.Admits v := by
  constructor
  · rintro ⟨warnings, h⟩
    exact admits_of_checkAction h
  · rintro ⟨kind, h⟩
    have hv := h
    obtain ⟨es, rfl, -⟩ := hv
    exact ⟨_, checkAction_of_admits h⟩

namespace ActionVerdict
variable {title : String} {v : Value}

theorem titled_error_eq_none_iff :
    (titled title v).error = none ↔ ∃ kind : ActionKind, kind.Admits v := by
  rw [← checkAction_eq_ok_iff]
  unfold titled
  cases checkAction v <;> simp

theorem titled_valid_iff : (titled title v).valid = true ↔ ∃ kind : ActionKind, kind.Admits v := by
  rw [valid, Option.isNone_iff_eq_none, titled_error_eq_none_iff]

def messages (r : ActionVerdict) : List String :=
  r.error.toList ++ r.warnings

theorem titled_messages {m : String} (h : m ∈ (titled title v).messages) :
    ∃ rest, m = title ++ ": " ++ rest := by
  unfold titled at h
  cases hc : checkAction v with
  | ok warnings =>
    simp only [hc, messages, Option.toList_none, List.nil_append] at h
    obtain ⟨w, -, rfl⟩ := List.mem_map.mp h
    exact ⟨w.message, rfl⟩
  | error e =>
    simp only [hc, messages, Option.toList_some, List.append_nil, List.mem_singleton] at h
    exact ⟨e.message, h⟩

end ActionVerdict

/-- What a step at an index is called can be written out: its label, or else its number. -/
def Value.hasTitleAt (v : Value) (index : Int) : Bool :=
  (if (v.field "label").truthy then v.field "label" else .int (index + 1)).isWritable

/-- The title of a step, whether it can be written out or not. -/
def titleText (v : Value) (index : Int) : String :=
  if (v.field "label").truthy then "\"" ++ (v.field "label").display ++ "\"" else stepNumber index

section Title
variable {v : Value} {r : ActionVerdict}

theorem validateAction_eq (v : Value) (index : Int) :
    validateAction v index =
      if v.hasTitleAt index then .ok (.titled (titleText v index) v) else .error .tooGreat := by
  unfold validateAction stepTitle Value.hasTitleAt titleText Value.write
  dsimp only
  cases (v.field "label").truthy with
  | true =>
    simp only [if_true]
    cases (v.field "label").isWritable <;> rfl
  | false =>
    simp only [Bool.false_eq_true, if_false]
    cases (Value.int (index + 1)).isWritable <;> rfl

theorem validateStep_eq (v : Value) (index : Nat) :
    validateStep v index =
      if (v.field "label").isWritable then .ok (.titled (titleText v index) v)
      else .error .tooGreat := by
  unfold validateStep stepTitle titleText Value.write
  dsimp only
  cases ht : (v.field "label").truthy with
  | true => cases (v.field "label").isWritable <;> rfl
  | false =>
    rw [Value.isWritable_of_not_truthy ht]
    rfl

theorem validateAction_eq_ok_iff {index : Int} : validateAction v index = .ok r ↔
    v.hasTitleAt index = true ∧ r = .titled (titleText v index) v := by
  rw [validateAction_eq]
  cases v.hasTitleAt index <;> simp [eq_comm]

theorem validateStep_eq_ok_iff {index : Nat} : validateStep v index = .ok r ↔
    (v.field "label").isWritable = true ∧ r = .titled (titleText v index) v := by
  rw [validateStep_eq]
  cases (v.field "label").isWritable <;> simp [eq_comm]

theorem isWritable_label_of_hasTitleAt {index : Int} (h : v.hasTitleAt index = true) :
    (v.field "label").isWritable = true := by
  unfold Value.hasTitleAt at h
  cases ht : (v.field "label").truthy with
  | true => rwa [ht] at h
  | false => exact Value.isWritable_of_not_truthy ht

/-- The action of a step is checked as by itself, unless the number of its place is too great. -/
theorem validateAction_of_validateStep {index : Nat}
    (hindex : (Value.int (index + 1)).isWritable = true) (h : validateStep v index = .ok r) :
    validateAction v index = .ok r := by
  obtain ⟨htitle, hr⟩ := validateStep_eq_ok_iff.mp h
  refine validateAction_eq_ok_iff.mpr ⟨?_, hr⟩
  unfold Value.hasTitleAt
  split
  · exact htitle
  · exact hindex

theorem validateAction_valid_iff {index : Int} (h : validateAction v index = .ok r) :
    r.valid = true ↔ ∃ kind : ActionKind, kind.Admits v := by
  obtain ⟨-, rfl⟩ := validateAction_eq_ok_iff.mp h
  exact ActionVerdict.titled_valid_iff

end Title

/-- The verdicts on steps under titles that can be written out, the first of the steps having the
given index. -/
def titledVerdicts (index : Nat) (vs : List Value) : List ActionVerdict :=
  (vs.zipIdx index).map fun (v, i) => .titled (titleText v i) v

/-- Steps are checked one by one, as long as all their labels can be written out. -/
theorem validateSteps_eq_ok_iff {index : Nat} {vs : List Value} {rs : List ActionVerdict} :
    validateSteps index vs = .ok rs ↔
      (∀ v ∈ vs, (v.field "label").isWritable = true) ∧ rs = titledVerdicts index vs := by
  induction vs generalizing index rs with
  | nil => exact ⟨fun h => ⟨nofun, by cases h; rfl⟩, fun ⟨_, h⟩ => by rw [h]; rfl⟩
  | cons v vs ih =>
    rw [validateSteps, validateStep_eq, List.forall_mem_cons]
    cases hlabel : (v.field "label").isWritable with
    | false =>
      simp only [Bool.false_eq_true, if_false, false_and, iff_false]
      exact nofun
    | true =>
      change ((validateSteps (index + 1) vs).map _ = _) ↔ _
      rw [map_eq_ok_iff]
      simp only [ih, titledVerdicts, List.zipIdx_cons, List.map_cons, true_and]
      exact ⟨fun ⟨_, ⟨hvs, hrs⟩, h⟩ => ⟨hvs, by rw [← h, hrs]⟩,
        fun ⟨hvs, h⟩ => ⟨_, ⟨hvs, rfl⟩, h.symm⟩⟩

/-- A step that the checks accept: its label can be written out, and it can be performed. -/
structure Value.IsSoundStep (v : Value) : Prop where
  titled : (v.field "label").isWritable = true
  admitted : ∃ kind : ActionKind, kind.Admits v

theorem errors_titledVerdicts_eq_nil_iff {index : Nat} {vs : List Value} :
    (SequenceVerdict.ofSteps (titledVerdicts index vs)).errors = [] ↔
      ∀ v ∈ vs, ∃ kind : ActionKind, kind.Admits v := by
  simp only [SequenceVerdict.ofSteps, titledVerdicts, List.filterMap_map,
    List.filterMap_eq_nil_iff, Function.comp_apply, ActionVerdict.titled_error_eq_none_iff,
    Prod.forall]
  refine ⟨fun h v hv => ?_, fun h v i hv => h v (List.fst_mem_of_mem_zipIdx hv)⟩
  obtain ⟨i, hi⟩ := List.mem_iff_getElem?.mp hv
  exact h v _ (List.mk_mem_zipIdx_iff_le_and_getElem?_sub.mpr
    ⟨Nat.le_add_right index i, by rwa [Nat.add_sub_cancel_left]⟩)

/-- The checks accept a value as a sequence: they are not broken off and find no errors. -/
def Value.IsAccepted (v : Value) : Prop :=
  ∃ r, validateSequence v = .ok r ∧ r.valid = true

theorem validateSequence_of_steps {v : Value} {vs : List Value} (h : sequenceSteps v = .ok vs) :
    validateSequence v = (validateSteps 0 vs).map .ofSteps := by
  unfold validateSequence
  rw [h]

theorem sequenceSteps_eq_ok_iff {v : Value} {vs : List Value} :
    sequenceSteps v = .ok vs ↔ v.steps? = some vs ∧ vs ≠ [] := by
  unfold sequenceSteps
  cases v with
  | object es =>
    dsimp only
    cases hs : (Value.object es).steps? with
    | none => simp
    | some steps => cases steps <;> grind
  | _ => simp [Value.steps?, Value.field]

/-- A sequence that can be run has steps, and all of them are sound. -/
theorem Value.isAccepted_iff {v : Value} :
    v.IsAccepted ↔ ∃ vs, v.steps? = some vs ∧ vs ≠ [] ∧ ∀ w ∈ vs, w.IsSoundStep := by
  unfold IsAccepted
  cases hs : sequenceSteps v with
  | error e =>
    have hnone : ¬∃ vs, v.steps? = some vs ∧ vs ≠ [] ∧ ∀ w ∈ vs, w.IsSoundStep := by
      rintro ⟨vs, hvs, hne, -⟩
      rw [sequenceSteps_eq_ok_iff.mpr ⟨hvs, hne⟩] at hs
      cases hs
    simp [validateSequence, hs, hnone, SequenceVerdict.valid]
  | ok vs =>
    obtain ⟨hvs, hne⟩ := sequenceSteps_eq_ok_iff.mp hs
    simp only [validateSequence_of_steps hs, map_eq_ok_iff, validateSteps_eq_ok_iff, hvs,
      Option.some.injEq, exists_eq_left', hne, ne_eq, not_false_eq_true, true_and]
    constructor
    · rintro ⟨r, ⟨rs, ⟨hlabels, rfl⟩, rfl⟩, hvalid⟩ w hw
      have hadmits := errors_titledVerdicts_eq_nil_iff.mp (List.isEmpty_iff.mp hvalid)
      exact ⟨hlabels w hw, hadmits w hw⟩
    · intro h
      refine ⟨_, ⟨_, ⟨fun w hw => (h w hw).titled, rfl⟩, rfl⟩, List.isEmpty_iff.mpr ?_⟩
      exact errors_titledVerdicts_eq_nil_iff.mpr fun w hw => (h w hw).admitted

end Walkthrough
