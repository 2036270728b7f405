import Walkthrough.Proofs.Action.Limits
import Walkthrough.Proofs.Action.Payload
import Walkthrough.Proofs.Validation.Filling

/-!
Null counts as absent: an object with keys of its type alone can be without those that need not be
there and hold null. It is checked, read and run as before.
-/
namespace Walkthrough

namespace Entries

/-- Under no key anything else is found once entries that hold null are taken away. -/
theorem getD_without {es : Entries} {removed : List String}
    (h : ∀ key ∈ removed, es.get? key = some .null) (key : String) :
    (es.without removed).getD key = es.getD key := by
  rw [getD, get?_without]
  split
  next hkey => rw [getD_of_get? (h key hkey), Option.getD_none]
  next => rfl

end Entries

namespace ActionKind

theorem mem_wires_of_mem_knownFields (k : ActionKind) {key : String}
    (h : key ∈ k.schema.knownFields) : key ∈ k.wires := by
  simp only [Schema.knownFields, schema, List.mem_append, List.mem_cons, List.not_mem_nil, or_false,
    List.mem_map, List.mem_filter] at h
  simp only [wires, List.mem_cons, List.mem_map]
  rcases h with ((rfl | rfl) | ⟨f, ⟨hf, -⟩, rfl⟩) | ⟨f, ⟨hf, -⟩, rfl⟩
  · exact .inr (.inl rfl)
  · exact .inl rfl
  · exact .inr (.inr ⟨f, hf, rfl⟩)
  · exact .inr (.inr ⟨f, hf, rfl⟩)

theorem wire_mem_required {k : ActionKind} {f : Field} (hf : f ∈ k.fields)
    (h : f.required = true) : f.wire ∈ k.schema.required :=
  List.mem_map_of_mem (List.mem_filter.mpr ⟨hf, h⟩)

/-- The only kind of field that makes a value of null must be there. -/
theorem required_of_pause (k : ActionKind) :
    ∀ f ∈ k.fields, f.kind = .pause → f.required = true := by
  cases k <;> decide

/-- A field that need not be there is not given by null. -/
theorem prepare_null {k : ActionKind} {f : Field} (hf : f ∈ k.fields) (h : f.required = false) :
    f.kind.prepare .null = .ok .null := by
  have hpause : f.kind ≠ .pause := fun hkind => by
    rw [k.required_of_pause f hf hkind] at h
    cases h
  cases hkind : f.kind with
  | pause => exact absurd hkind hpause
  | _ => rfl

end ActionKind

namespace Field
variable {f : Field} {es : Entries} {removed : List String}

/-- A field is read as before if null is taken away that stands under its key. -/
theorem read_without_null (hrequired : f.required = false)
    (hnull : f.kind.prepare .null = .ok .null) (hwire : es.get? f.wire = some .null)
    (hremoved : f.wire ∈ removed) (hname : f.name ≠ f.wire → es.get? f.name = none) :
    f.read (es.without removed) = f.read es := by
  obtain ⟨name, wire, kind, required⟩ := f
  obtain rfl : required = false := hrequired
  have habsent : Field.find? ⟨name, wire, kind, false⟩ (es.without removed) = none := by
    have hwire' : (es.without removed).get? wire = none := by
      rw [Entries.get?_without, if_pos hremoved]
    have hname' : (es.without removed).get? name = none := by
      by_cases heq : name = wire
      · rw [heq, hwire']
      · rw [Entries.get?_without, hname heq, ite_self]
    simp only [find?, hwire', hname', Option.map_none]
  have hfound : Field.find? ⟨name, wire, kind, false⟩ es = some (wire, .null) := by
    simp only [find?, hwire]
  simp only [read, readOptional_of_null hfound hnull]
  simp only [readOptional, habsent]

/-- A field is read as before if entries are taken away that are not its own. -/
theorem read_without_others (hremoved : f.wire ∉ removed)
    (hname : f.name ≠ f.wire → es.get? f.name = none) :
    f.read (es.without removed) = f.read es := by
  have hwire : (es.without removed).get? f.wire = es.get? f.wire := by
    rw [Entries.get?_without, if_neg hremoved]
  apply read_congr
  apply find?_congr hwire
  intro _
  by_cases heq : f.name = f.wire
  · rw [heq, hwire]
  · rw [Entries.get?_without, hname heq, ite_self]

end Field

namespace Action
variable {kind : ActionKind} {es : Entries} {removed : List String}

theorem read_without (hknown : ∀ key ∈ es.keys, key ∈ kind.schema.knownFields)
    (hremoved : ∀ key ∈ removed, key ∉ kind.schema.required ∧ es.get? key = some .null) :
    read kind (es.without removed) = read kind es := by
  have hlabel : readLabel (es.without removed) = readLabel es := by
    unfold readLabel
    rw [Entries.getD_without fun key hkey => (hremoved key hkey).2]
  have hfields : Record.read kind.fields (es.without removed) = Record.read kind.fields es := by
    apply Record.read_eq_of_read
    intro f hf
    -- no key of the type is a plain name, so that nothing stands under one
    have hname : f.name ≠ f.wire → es.get? f.name = none := by
      intro hne
      apply Entries.get?_eq_none
      intro hkey
      exact kind.name_not_mem_wires f hf hne (kind.mem_wires_of_mem_knownFields (hknown _ hkey))
    by_cases hwire : f.wire ∈ removed
    · obtain ⟨hnotRequired, hnull⟩ := hremoved _ hwire
      have hrequired : f.required = false :=
        Bool.eq_false_iff.mpr fun h => hnotRequired (ActionKind.wire_mem_required hf h)
      exact Field.read_without_null hrequired (ActionKind.prepare_null hf hrequired) hnull hwire
        hname
    · exact Field.read_without_others hwire hname
  simp only [read, hlabel, hfields]

/-- An object of a known type, with no keys but those of its type, is checked with the same verdict
and message, read as the same action or refused for the same fault, and run alike, whichever of the
keys it is without that need not be there and hold null. -/
theorem ofValue_without [Pattern.Host] (htag : es.get? "action" = some (.text kind.name))
    (hknown : ∀ key ∈ es.keys, key ∈ kind.schema.knownFields)
    (hremoved : ∀ key ∈ removed, key ∉ kind.schema.required ∧ es.get? key = some .null) :
    (∀ index,
      ((validateAction (.object (es.without removed)) index).map fun r => (r.valid, r.error)) =
        (validateAction (.object es) index).map fun r => (r.valid, r.error)) ∧
      ofValue (.object (es.without removed)) = ofValue (.object es) ∧
      ∀ page settings,
        Step.run page settings (.object (es.without removed)) =
          Step.run page settings (.object es) := by
  have hsame : ∀ key, (es.without removed).getD key = es.getD key :=
    Entries.getD_without fun key hkey => (hremoved key hkey).2
  have htag' : (es.without removed).get? "action" = some (.text kind.name) := by
    have hkeep : "action" ∉ removed := by
      intro hmem
      rw [(hremoved _ hmem).2] at htag
      cases htag
    rw [Entries.get?_without, if_neg hkeep, htag]
  have hvalue : ofValue (.object (es.without removed)) = ofValue (.object es) := by
    rw [ofValue_eq_read htag, ofValue_eq_read htag', read_without hknown hremoved]
  refine ⟨fun index => ?_, hvalue, fun page settings => ?_⟩
  · exact validateAction_error_congr (Entries.getD_of_get? htag) fun key _ => hsame key
  · have hname : Step.nameOf (.object (es.without removed)) = Step.nameOf (.object es) := by
      simp only [Step.nameOf, Value.actionName?, Value.field, hsame]
    unfold Step.run
    rw [hname, hvalue]

open scoped Walkthrough.Pattern.Host in
/-- A click whose label, timeout and count are null, and whose delay is not a number: it is the same
click, refused for the same delay, without any of the three. -/
theorem ofValue_without_click :
    let es : Entries := [("label", .null), ("action", .text "click"), ("timeout", .null),
      ("selector", .text "#buy"), ("clickCount", .null), ("delay", .text "soon")]
    let removed := ["label", "timeout", "clickCount"]
    es.get? "action" = some (.text ActionKind.click.name) ∧
      (∀ key ∈ es.keys, key ∈ ActionKind.click.schema.knownFields) ∧
      (∀ key ∈ removed, key ∉ ActionKind.click.schema.required ∧ es.get? key = some .null) ∧
      es.without removed = [("action", .text "click"), ("selector", .text "#buy"),
        ("delay", .text "soon")] ∧
      ofValue (.object (es.without removed)) = ofValue (.object es) ∧
      ofValue (.object es) = .error (.invalid .click [⟨["delay"], .unreadableNumber⟩]) := by
  intro es removed
  have htag : es.get? "action" = some (.text ActionKind.click.name) := rfl
  have hknown : ∀ key ∈ es.keys, key ∈ ActionKind.click.schema.knownFields := by decide
  have hremoved : ∀ key ∈ removed,
      key ∉ ActionKind.click.schema.required ∧ es.get? key = some .null := by
    simp [removed, es, ActionKind.schema, Entries.get?_cons]
  exact ⟨htag, hknown, hremoved, rfl, (ofValue_without htag hknown hremoved).2.1, rfl⟩

end Action

end Walkthrough
