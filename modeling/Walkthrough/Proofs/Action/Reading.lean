import Walkthrough.Proofs.Action.Field
import Walkthrough.Proofs.Step.Assertion
import Walkthrough.Registry

/-!
Reading an action from the entries of an object: what a field holds depends on the two keys that may
give it, and is read back wherever the value stands that stands for it.
-/
namespace Walkthrough

/-- A value that is there; null counts as absent. -/
def Value.given? : Value → Option Value
  | .null => none
  | v => some v

theorem Value.given?_of_ne_null {v : Value} (h : v ≠ .null) : v.given? = some v := by
  cases v with
  | null => exact absurd rfl h
  | _ => rfl

theorem Value.given?_of_isBlank {v : Value} (h : v.isBlank = false) : v.given? = some v :=
  given?_of_ne_null fun hnull => by
    subst hnull
    cases h

/-- A flag that is not given counts as false. -/
theorem getD_eq_true_iff {b : Option Bool} : b.getD false = true ↔ b = some true := by
  cases b <;> simp

namespace Entries

def given (es : Entries) : Entries := es.filter fun e => !e.2 matches .null

theorem get?_eq_none {es : Entries} {key : String} (h : key ∉ es.keys) : es.get? key = none := by
  induction es with
  | nil => rfl
  | cons e es ih =>
    rw [keys, List.map_cons, List.mem_cons, not_or] at h
    have hne : (e.1 == key) = false := by simpa using Ne.symm h.1
    rw [get?_cons, hne]
    exact ih h.2

theorem keys_given {es : Entries} {key : String} (h : key ∈ es.given.keys) : key ∈ es.keys := by
  obtain ⟨e, he, rfl⟩ := List.mem_map.mp h
  exact List.mem_map_of_mem (List.mem_filter.mp he).1

theorem get?_given_cons (e : String × Value) (es : Entries) (key : String) :
    get? (given (e :: es)) key =
      if e.1 == key then e.2.given?.or (get? (given es) key) else get? (given es) key := by
  obtain ⟨k, v⟩ := e
  cases v with
  | null => simp [given, Value.given?]
  | _ => simp [given, Value.given?, get?_cons]

/-- Of entries under distinct keys each is found under its own, unless it holds nothing. -/
theorem get?_given {es : Entries} (hnodup : es.keys.Nodup) {e : String × Value} (he : e ∈ es) :
    es.given.get? e.1 = e.2.given? := by
  induction es with
  | nil => cases he
  | cons e' es ih =>
    rw [keys, List.map_cons, List.nodup_cons] at hnodup
    obtain ⟨hnotin, hnodup⟩ := hnodup
    rw [get?_given_cons]
    rcases List.mem_cons.mp he with rfl | he
    · have habsent : get? (given es) e.1 = none := get?_eq_none fun h => hnotin (keys_given h)
      rw [if_pos (beq_self_eq_true e.1), habsent, Option.or_none]
    · have hne : e'.1 ≠ e.1 := fun h => hnotin (h ▸ List.mem_map_of_mem he)
      rw [if_neg (by simpa using hne), ih hnodup he]

theorem get?_of_getD_isBlank {es : Entries} {key : String}
    (h : (es.getD key).isBlank = false) : es.get? key = some (es.getD key) := by
  refine get?_of_getD rfl fun hnull => ?_
  rw [hnull] at h
  cases h

end Entries

/-- The entries hold a field's value under the key that it is written under, and nothing under its
plain name if that is another key. -/
def Field.StandsIn (f : Field) (c : f.Carrier) (es : Entries) : Prop :=
  es.get? f.wire = (f.toValue c).given? ∧ (f.name ≠ f.wire → es.get? f.name = none)

namespace Field

theorem find?_of_standsIn {f : Field} {c : f.Carrier} {es : Entries} (h : f.StandsIn c es) :
    f.find? es = (f.toValue c).given?.map (f.wire, ·) := by
  obtain ⟨hwire, hname⟩ := h
  unfold find?
  rw [hwire]
  cases hv : (f.toValue c).given? with
  | some v => rfl
  | none =>
    by_cases heq : f.name = f.wire
    · simp [heq, hwire, hv]
    · simp [hname heq]

/-- A field asks for its plain name only if nothing stands under its own key. -/
theorem find?_congr {f : Field} {es es' : Entries} (hwire : es.get? f.wire = es'.get? f.wire)
    (hname : es.get? f.wire = none → es.get? f.name = es'.get? f.name) :
    f.find? es = f.find? es' := by
  unfold find?
  rw [← hwire]
  cases hv : es.get? f.wire with
  | some v => rfl
  | none => rw [hname hv]

theorem read_congr {f : Field} {es es' : Entries} (h : f.find? es = f.find? es') :
    f.read es = f.read es' := by
  obtain ⟨name, wire, kind, required⟩ := f
  cases required with
  | true => simp only [read, readRequired, h]
  | false => simp only [read, readOptional, h]

theorem read_of_get?_eq {f : Field} {es es' : Entries} (hname : f.name = f.wire)
    (h : es'.get? f.wire = es.get? f.wire) : f.read es' = f.read es :=
  read_congr (find?_congr h fun _ => hname ▸ h)

theorem under_eq_ok {α : Type} {key : String} {x : Except (List FieldFault) α} {a : α}
    (h : under key x = .ok a) : x = .ok a := by
  cases x with
  | ok b => exact congrArg Except.ok (Except.ok.inj h)
  | error fs => cases h

/-- A value that a field's kind lets pass is converted to what the field holds. -/
structure Holds (f : Field) (es : Entries) (c : f.kind.Carrier) (v : Value) : Prop where
  found : ∃ key, f.find? es = some (key, v)
  converted : ∃ w, f.kind.prepare v = .ok w ∧ f.kind.convert w = .ok c

theorem holds_of_readRequired {f : Field} {es : Entries} {c : f.kind.Carrier}
    (h : f.readRequired es = .ok c) : ∃ v, f.Holds es c v := by
  unfold readRequired at h
  split at h
  · cases h
  next key v hfind =>
    split at h
    · cases h
    next w hw => exact ⟨v, ⟨key, hfind⟩, w, hw, under_eq_ok h⟩

theorem holds_of_readOptional {f : Field} {es : Entries} {c : f.kind.Carrier}
    (h : f.readOptional es = .ok (some c)) : ∃ v, f.Holds es c v := by
  unfold readOptional at h
  split at h
  · cases h
  next key v hfind =>
    split at h
    · cases h
    · cases h
    next w _ hw =>
      obtain ⟨d, hd, hc⟩ := map_eq_ok_iff.mp h
      cases hc
      exact ⟨v, ⟨key, hfind⟩, w, hw, under_eq_ok hd⟩

/-- A field that holds something is read from the value that stands for it, if it can be read from
any value at all. -/
theorem find?_toValue {f : Field} {c : f.Carrier} {k : f.kind.Carrier} {es : Entries}
    (h : f.StandsIn c es) (hc : f.toValue c = f.kind.toValue k) :
    f.find? es = some (f.wire, f.kind.toValue k) := by
  have hgiven : (f.kind.toValue k).given? = some (f.kind.toValue k) :=
    Value.given?_of_ne_null (f.kind.toValue_ne_null k)
  rw [find?_of_standsIn h, hc, hgiven]
  rfl

/-- What a field holds is read wherever the value stands that stands for it. -/
theorem read_of_standsIn {f : Field} {es es' : Entries} {c : f.Carrier} (h : f.read es = .ok c)
    (hc : f.StandsIn c es') : f.read es' = .ok c := by
  obtain ⟨name, wire, kind, required⟩ := f
  cases required with
  | true =>
    obtain ⟨v, -, w, hw, hv⟩ := holds_of_readRequired h
    have hfind := find?_toValue (k := c) hc rfl
    have hprepare := FieldKind.prepare_toValue hw hv
    have hconvert := FieldKind.convert_toValue kind c
    simp only [read, readRequired, hfind, hprepare, hconvert, under]
  | false =>
    cases c with
    | none =>
      have hfind := find?_of_standsIn hc
      simp only [toValue, Value.given?, Option.map_none] at hfind
      simp only [read, readOptional, hfind]
    | some c =>
      obtain ⟨v, -, w, hw, hv⟩ := holds_of_readOptional h
      have hfind := find?_toValue (k := c) hc rfl
      have hprepare := FieldKind.prepare_toValue hw hv
      have hconvert := FieldKind.convert_toValue kind c
      -- so that the case of null, which counts as absent, does not apply
      have hnull := FieldKind.toValue_ne_null kind c
      simp only [read, readOptional, hfind, hprepare, hconvert, under, Except.map]

/-- What a field holds is not blank if the value under its own key was not. -/
theorem toValue_isBlank_of_read {f : Field} {es : Entries} {c : f.Carrier} {v : Value}
    (h : f.read es = .ok c) (hrequired : f.required = true) (hv : es.get? f.wire = some v)
    (hblank : v.isBlank = false) : (f.toValue c).isBlank = false := by
  obtain ⟨name, wire, kind, required⟩ := f
  subst hrequired
  obtain ⟨u, ⟨key, hfind⟩, w, hw, hconvert⟩ := holds_of_readRequired h
  simp only [find?, hv, Option.some.injEq, Prod.mk.injEq] at hfind
  obtain ⟨-, rfl⟩ := hfind
  exact FieldKind.toValue_isBlank hw hconvert hblank

end Field

theorem both_eq_ok_iff {α β : Type} {x : Except (List FieldFault) α}
    {y : Except (List FieldFault) β} {a : α} {b : β} :
    both x y = .ok (a, b) ↔ x = .ok a ∧ y = .ok b := by
  cases x <;> cases y <;> simp [both]

namespace Record

theorem read_cons {f : Field} {fs : List Field} {es : Entries} {c : f.Carrier} {r : Record fs}
    (h : read (f :: fs) es = .ok (c, r)) : f.read es = .ok c ∧ read fs es = .ok r :=
  both_eq_ok_iff.mp h

theorem read_eq_of_read {fs : List Field} {es es' : Entries}
    (h : ∀ f ∈ fs, f.read es = f.read es') : read fs es = read fs es' := by
  induction fs with
  | nil => rfl
  | cons f fs ih =>
    rw [List.forall_mem_cons] at h
    simp only [read, h.1, ih h.2]

theorem read_congr {fs : List Field} {es es' : Entries}
    (h : ∀ f ∈ fs, f.find? es = f.find? es') : read fs es = read fs es' :=
  read_eq_of_read fun f hf => Field.read_congr (h f hf)

theorem keys_values (key : Field → String) (fs : List Field) (r : Record fs) :
    (values key fs r).keys = fs.map key := by
  induction fs with
  | nil => rfl
  | cons f fs ih => exact congrArg (key f :: ·) (ih r.2)

/-- A record is read wherever its values stand under the keys that they are written under, and
nothing stands under the other names of its fields. -/
theorem read_of_values {fs : List Field} {es es' : Entries} {r : Record fs}
    (h : read fs es = .ok r)
    (hvalues : ∀ e ∈ values Field.wire fs r, es'.get? e.1 = e.2.given?)
    (hnames : ∀ f ∈ fs, f.name ≠ f.wire → es'.get? f.name = none) : read fs es' = .ok r := by
  induction fs with
  | nil => rfl
  | cons f fs ih =>
    obtain ⟨c, r⟩ := r
    obtain ⟨hf, hfs⟩ := read_cons h
    rw [values, List.forall_mem_cons] at hvalues
    rw [List.forall_mem_cons] at hnames
    have hf' : f.read es' = .ok c := Field.read_of_standsIn hf ⟨hvalues.1, hnames.1⟩
    have hfs' : read fs es' = .ok r := ih hfs hvalues.2 hnames.2
    exact both_eq_ok_iff.mpr ⟨hf', hfs'⟩

/-- Every field of a record was read, and its value is among those of the record. -/
theorem exists_value_of_read {fs : List Field} {es : Entries} {r : Record fs}
    (h : read fs es = .ok r) {f : Field} (hf : f ∈ fs) :
    ∃ c, f.read es = .ok c ∧ (f.wire, f.toValue c) ∈ values Field.wire fs r := by
  induction fs with
  | nil => cases hf
  | cons f' fs ih =>
    obtain ⟨c, r⟩ := r
    obtain ⟨hread, hfs⟩ := read_cons h
    rcases List.mem_cons.mp hf with rfl | hf
    · exact ⟨c, hread, List.mem_cons_self⟩
    · obtain ⟨c', hc', hmem⟩ := ih hfs hf
      exact ⟨c', hc', List.mem_cons_of_mem _ hmem⟩

end Record

namespace ActionKind

theorem wire_mem_knownFields {kind : ActionKind} {f : Field} (hf : f ∈ kind.fields) :
    f.wire ∈ kind.schema.knownFields := by
  simp only [Schema.knownFields, schema, List.mem_append, List.mem_map, List.mem_filter]
  cases hrequired : f.required with
  | true => exact .inl (.inr ⟨f, ⟨hf, hrequired⟩, rfl⟩)
  | false => exact .inr ⟨f, ⟨hf, by simp [hrequired]⟩, rfl⟩

end ActionKind

namespace Action

theorem readLabel_congr {es es' : Entries} (h : es'.get? "label" = es.get? "label") :
    readLabel es' = readLabel es := by
  unfold readLabel Entries.getD
  rw [h]

/-- A label that can be written out is read. -/
theorem exists_readLabel {es : Entries} (h : (es.getD "label").isWritable = true) :
    ∃ label, readLabel es = .ok label := by
  simp only [readLabel, asWritten, Value.write_of_isWritable h]
  split <;> exact ⟨_, rfl⟩

theorem read_eq_ok {kind : ActionKind} {es : Entries} {a : Action} (h : read kind es = .ok a) :
    ∃ label fields, readLabel es = .ok label ∧ Record.read kind.fields es = .ok fields ∧
      a = ⟨kind, label, fields⟩ := by
  obtain ⟨⟨label, fields⟩, hboth, rfl⟩ := map_eq_ok_iff.mp h
  obtain ⟨hlabel, hfields⟩ := both_eq_ok_iff.mp hboth
  exact ⟨label, fields, hlabel, hfields, rfl⟩

/-- A value is read as an action by the type that it names. -/
theorem ofValue_eq_read {es : Entries} {kind : ActionKind}
    (h : Entries.get? es "action" = some (.text kind.name)) :
    ofValue (.object es) = (read kind es).mapError (.invalid kind) := by
  have hkind : (Value.object es).actionKind? = some kind := by
    simp [Value.actionKind?, Value.actionName?, Value.field, Entries.getD, h,
      ActionKind.ofName?_name]
  simp only [ofValue, hkind]

end Action

theorem Action.ofValue_eq_ok_iff {es : Entries} {a : Action} :
    ofValue (.object es) = .ok a ↔
      es.get? "action" = some (.text a.name) ∧ read a.kind es = .ok a := by
  constructor
  · intro h
    have htag : es.getD "action" = .text a.name := by
      have hname := actionName?_of_ofValue h
      unfold Value.actionName? at hname
      split at hname
      next s hs =>
        obtain rfl := Option.some.inj hname
        exact hs
      · cases hname
    have hget : es.get? "action" = some (.text a.name) := Entries.get?_of_getD htag nofun
    rw [ofValue_eq_read hget] at h
    exact ⟨hget, mapError_eq_ok_iff.mp h⟩
  · rintro ⟨hget, hread⟩
    rw [ofValue_eq_read hget]
    exact mapError_eq_ok_iff.mpr hread

/-- What the fields of an action hold is read from the object that it is read from. -/
theorem Action.read_fields_of_ofValue {v : Value} {a : Action} (h : ofValue v = .ok a) :
    ∃ es, v = .object es ∧ Record.read a.kind.fields es = .ok a.fields := by
  cases v with
  | object es =>
    unfold ofValue at h
    dsimp only at h
    split at h
    · cases h
    next kind hkind =>
      obtain ⟨label, fields, -, hfields, rfl⟩ := read_eq_ok (mapError_eq_ok_iff.mp h)
      exact ⟨es, rfl, hfields⟩
  | _ => cases h

namespace Registry

/-- A registry reads an object as the registered type that it names. -/
theorem parse_eq_ok_iff {g : Registry} {es : Entries} {a : Action} :
    g.parse (.object es) = .ok a ↔
      ∃ r, Entries.get? es "action" = some (.text r.name) ∧ g.get? r.name = some r ∧
        Action.read r.kind es = .ok a := by
  constructor
  · intro h
    unfold parse at h
    split at h
    · cases h
    · simp only [Value.toEntries, parseEntries] at h
      split at h
      · cases h
      next tag htag =>
        split at h
        next name =>
          split at h
          next r hr =>
            have hname : r.name = name := by simpa using List.find?_some hr
            subst hname
            exact ⟨r, htag, hr, mapError_eq_ok_iff.mp h⟩
          · cases h
        · cases h
  · rintro ⟨r, htag, hr, hread⟩
    have hsome : g.registrations ≠ [] := List.ne_nil_of_mem (List.mem_of_find?_eq_some hr)
    simp [parse, hsome, Value.toEntries, parseEntries, htag, hr, hread, mapError_eq_ok_iff]

end Registry

namespace Step

/-- To run a value is to run the action that it is. -/
theorem run_eq_runAction [Pattern.Host] {v : Value} {a : Action} (h : Action.ofValue v = .ok a)
    (page : PageHandle) (settings : Except SettingsFault Settings) :
    run page settings v = runAction page settings a := by
  have hname : nameOf v = a.name := by rw [nameOf, Action.actionName?_of_ofValue h]; rfl
  unfold run runAction
  rw [hname, h]

end Step

end Walkthrough
