import Walkthrough.Proofs.Action.Reading
import Walkthrough.Proofs.Validation

/-!
The payload of an action stands for it: whatever object the action was read from, its payload is
read as the same action, keeps to the keys of the action's schema, and passes the checks if that
object does.
-/
namespace Walkthrough

namespace ActionKind

/-- The keys under which an action is written: its label, its type and its fields. -/
def wires (k : ActionKind) : List String := "label" :: "action" :: k.fields.map Field.wire

theorem wires_nodup (k : ActionKind) : k.wires.Nodup := by
  cases k <;> decide

/-- The plain name of a field is no key of another field. -/
theorem name_not_mem_wires (k : ActionKind) :
    ∀ f ∈ k.fields, f.name ≠ f.wire → f.name ∉ k.wires := by
  cases k <;> decide

theorem wires_subset_knownFields (k : ActionKind) {key : String} (h : key ∈ k.wires) :
    key ∈ k.schema.knownFields := by
  simp only [wires, List.mem_cons, List.mem_map] at h
  rcases h with rfl | rfl | ⟨f, hf, rfl⟩
  · simp [Schema.knownFields]
  · simp [Schema.knownFields]
  · exact wire_mem_knownFields hf

end ActionKind

namespace Action

/-- What an action holds, by the keys that it is written under, null for nothing. -/
def written (a : Action) : Entries :=
  ("label", Value.ofText? a.label) :: ("action", .text a.name) ::
    Record.values Field.wire a.kind.fields a.fields

theorem payload_eq (a : Action) : a.payload = a.written.given := rfl

theorem keys_written (a : Action) : a.written.keys = a.kind.wires :=
  congrArg ("label" :: "action" :: ·) (Record.keys_values Field.wire _ _)

theorem get?_payload (a : Action) {e : String × Value} (he : e ∈ a.written) :
    Entries.get? a.payload e.1 = e.2.given? := by
  have hnodup : a.written.keys.Nodup := a.keys_written ▸ a.kind.wires_nodup
  rw [payload_eq, Entries.get?_given hnodup he]

theorem mem_wires_of_mem_payload (a : Action) {key : String} (h : key ∈ Entries.keys a.payload) :
    key ∈ a.kind.wires := by
  rw [payload_eq] at h
  exact a.keys_written ▸ Entries.keys_given h

theorem readLabel_eq_ok {es : Entries} {label : Option String} (h : readLabel es = .ok label) :
    (Entries.getD es "label").isBlank = true ∧ label = none ∨ ∃ s, label = some s ∧ s ≠ "" := by
  unfold readLabel at h
  dsimp only at h
  split at h
  next hblank => exact .inl ⟨hblank, (Except.ok.inj h).symm⟩
  next hblank =>
    split at h
    next s hs =>
      have hne := Value.display_ne_empty (Bool.not_eq_true _ ▸ hblank)
      exact .inr ⟨s, (Except.ok.inj h).symm, asWritten_eq_ok hs ▸ hne⟩
    · cases h

theorem field_label_payload (a : Action) :
    (Value.object a.payload).field "label" = Value.ofText? a.label := by
  have hget : Entries.get? a.payload "label" = (Value.ofText? a.label).given? :=
    a.get?_payload List.mem_cons_self
  rw [Value.field, Entries.getD, hget]
  cases a.label <;> rfl

/-- A label is never empty, so that it is read back as it is. -/
theorem readLabel_payload {es : Entries} {a : Action} (h : readLabel es = .ok a.label) :
    readLabel a.payload = .ok a.label := by
  have hfield : Entries.getD a.payload "label" = Value.ofText? a.label := a.field_label_payload
  unfold readLabel
  dsimp only
  rw [hfield]
  rcases readLabel_eq_ok h with ⟨-, hlabel⟩ | ⟨s, hlabel, hne⟩
  · rw [hlabel]
    rfl
  · rw [hlabel]
    simp [Value.ofText?, Value.isBlank, hne, asWritten, Value.write_text, Except.mapError]

/-- An action is read from its payload. -/
theorem read_payload {kind : ActionKind} {es : Entries} {a : Action} (h : read kind es = .ok a) :
    read kind a.payload = .ok a := by
  obtain ⟨label, fields, hlabel, hfields, rfl⟩ := read_eq_ok h
  let a : Action := ⟨kind, label, fields⟩
  have hvalues : ∀ e ∈ Record.values Field.wire kind.fields fields,
      Entries.get? a.payload e.1 = e.2.given? := by
    intro e he
    exact a.get?_payload (List.mem_cons_of_mem _ (List.mem_cons_of_mem _ he))
  have hnames : ∀ f ∈ kind.fields, f.name ≠ f.wire → Entries.get? a.payload f.name = none := by
    intro f hf hne
    apply Entries.get?_eq_none
    exact fun hmem => kind.name_not_mem_wires f hf hne (a.mem_wires_of_mem_payload hmem)
  have hread : Record.read kind.fields a.payload = .ok fields :=
    Record.read_of_values hfields hvalues hnames
  have hlabel' : readLabel a.payload = .ok label := a.readLabel_payload hlabel
  exact map_eq_ok_iff.mpr ⟨(label, fields), both_eq_ok_iff.mpr ⟨hlabel', hread⟩, rfl⟩

theorem get?_payload_action (a : Action) :
    Entries.get? a.payload "action" = some (.text a.name) :=
  a.get?_payload (List.mem_cons_of_mem _ List.mem_cons_self)

theorem keys_payload (a : Action) :
    ∀ key ∈ Entries.keys a.payload, key ∈ a.kind.schema.knownFields := by
  intro key hkey
  exact a.kind.wires_subset_knownFields (a.mem_wires_of_mem_payload hkey)

end Action

namespace ActionKind

/-- A payload has what its type requires, if the object did that its action was read from. -/
theorem admits_payload {kind : ActionKind} {es : Entries} {a : Action}
    (h : Action.read kind es = .ok a) (hadmits : kind.Admits (.object es)) :
    kind.Admits (.object a.payload) := by
  obtain ⟨_, ⟨⟩, -, hmissing⟩ := hadmits
  rw [missingFields_eq_nil_iff] at hmissing
  obtain ⟨label, fields, -, hfields, rfl⟩ := Action.read_eq_ok h
  refine ⟨_, rfl, ?_, missingFields_eq_nil_iff.mpr ?_⟩
  · simp [Value.field, Entries.getD, Action.get?_payload_action, Action.name]
  · intro f hf hrequired
    obtain ⟨c, hread, hmem⟩ := Record.exists_value_of_read hfields hf
    have hgiven := Entries.get?_of_getD_isBlank (hmissing f hf hrequired)
    have hblank := Field.toValue_isBlank_of_read hread hrequired hgiven (hmissing f hf hrequired)
    have hget := Action.get?_payload ⟨kind, label, fields⟩
      (List.mem_cons_of_mem _ (List.mem_cons_of_mem _ hmem))
    rw [Entries.getD, hget, Value.given?_of_isBlank hblank]
    exact hblank

end ActionKind

/-- Nothing is said about the keys of a payload. -/
theorem oddities_payload (a : Action) :
    ∀ w ∈ oddities a.kind a.payload, w = .oddTimeout ∨ w = .oddPause := by
  have hunknown : unknownFields a.kind.schema a.payload = [] := by
    simpa [unknownFields, List.filter_eq_nil_iff] using a.keys_payload
  intro w hw
  simp only [oddities, hunknown, List.isEmpty_nil, if_true, List.nil_append, List.mem_append] at hw
  rcases hw with hw | hw
  · split at hw
    · exact .inl (List.mem_singleton.mp hw)
    · cases hw
  · split at hw
    · exact .inr (List.mem_singleton.mp hw)
    · cases hw

theorem Value.truthy_of_isBlank {v : Value} (h : v.isBlank = true) : v.truthy = false := by
  cases v with
  | null => rfl
  | text s => simpa [isBlank, truthy] using h
  | _ => cases h

/-- A payload has a title wherever the object has one that its action was read from. -/
theorem hasTitleAt_payload {es : Entries} {a : Action} (h : Action.readLabel es = .ok a.label)
    {index : Int} (htitle : (Value.object es).hasTitleAt index = true) :
    (Value.object a.payload).hasTitleAt index = true := by
  unfold Value.hasTitleAt at htitle ⊢
  rw [a.field_label_payload]
  rcases Action.readLabel_eq_ok h with ⟨hblank, hlabel⟩ | ⟨s, hlabel, hne⟩
  · have htruthy : ((Value.object es).field "label").truthy = false :=
      Value.truthy_of_isBlank hblank
    rw [htruthy] at htitle
    rw [hlabel]
    exact htitle
  · have htruthy : (Value.text s).truthy = true := bne_iff_ne.mpr hne
    rw [hlabel]
    simp only [Value.ofText?, htruthy, if_true]
    rfl

/-- The payload of an action is accepted if the object was that the action was read from, and the
warnings about it, if any, are about a time. -/
theorem validateAction_payload {kind : ActionKind} {es : Entries} {a : Action}
    (htag : Entries.get? es "action" = some (.text kind.name)) (hread : Action.read kind es = .ok a)
    {index : Int} {r : ActionVerdict} (hr : validateAction (.object es) index = .ok r)
    (hvalid : r.valid = true) :
    ∃ ws : List ActionWarning, (∀ w ∈ ws, w = .oddTimeout ∨ w = .oddPause) ∧
      validateAction (.object a.payload) index =
        .ok ⟨none, ws.map fun w => titleText (.object a.payload) index ++ ": " ++ w.message⟩ := by
  obtain ⟨kind', hadmits⟩ := (validateAction_valid_iff hr).mp hvalid
  obtain rfl := hadmits.kind_eq htag
  obtain rfl := Action.kind_of_read hread
  obtain ⟨label, fields, hlabel, -, ha⟩ := Action.read_eq_ok hread
  have hlabel' : Action.readLabel es = .ok a.label := by rw [hlabel, ha]
  have htitle := hasTitleAt_payload hlabel' (validateAction_eq_ok_iff.mp hr).1
  refine ⟨oddities a.kind a.payload, oddities_payload a, ?_⟩
  refine validateAction_eq_ok_iff.mpr ⟨htitle, ?_⟩
  simp only [ActionVerdict.titled, checkAction_of_admits (ActionKind.admits_payload hread hadmits)]

/-- The payload of an action stands for it: it is read as the same action, to run it is to run the
action or the object that the action was read from, its keys are those of the schema, and it is
accepted without a word about its keys if that object is accepted. -/
theorem Registry.parse_payload [Pattern.Host] {g : Registry} {es : Entries} {a : Action}
    (h : g.parse (.object es) = .ok a) :
    g.parse (.object a.payload) = .ok a ∧
      (∀ page settings,
        Step.run page settings (.object es) = Step.runAction page settings a ∧
          Step.run page settings (.object a.payload) = Step.runAction page settings a) ∧
      (∀ key ∈ Entries.keys a.payload, key ∈ a.kind.schema.knownFields) ∧
      ∀ index r, validateAction (.object es) index = .ok r → r.valid = true →
        ∃ ws : List ActionWarning, (∀ w ∈ ws, w = .oddTimeout ∨ w = .oddPause) ∧
          validateAction (.object a.payload) index =
            .ok ⟨none, ws.map fun w =>
              titleText (.object a.payload) index ++ ": " ++ w.message⟩ := by
  obtain ⟨r, htag, hr, hread⟩ := parse_eq_ok_iff.mp h
  have hread' : Action.read r.kind a.payload = .ok a := Action.read_payload hread
  have htag' : Entries.get? a.payload "action" = some (.text r.name) := by
    have hname : a.name = r.name := congrArg ActionKind.name (Action.kind_of_read hread)
    exact hname ▸ a.get?_payload_action
  have hvalue {es : Entries} (htag : Entries.get? es "action" = some (.text r.name))
      (hread : Action.read r.kind es = .ok a) : Action.ofValue (.object es) = .ok a := by
    rw [Action.ofValue_eq_read htag, hread]
    rfl
  refine ⟨parse_eq_ok_iff.mpr ⟨r, htag', hr, hread'⟩, fun page settings => ⟨?_, ?_⟩,
    a.keys_payload, fun index v hv hvalid => validateAction_payload htag hread hv hvalid⟩
  · exact Step.run_eq_runAction (hvalue htag hread) page settings
  · exact Step.run_eq_runAction (hvalue htag' hread') page settings

open scoped Walkthrough.Pattern.Host in
/-- A click whose count is given as a text and its label as a number. -/
theorem Registry.parse_payload_click :
    let a : Action := ⟨.click, some "7", ("#buy", none, none, some 2, none, ())⟩
    let es : Entries := [("action", .text "click"), ("selector", .text "#buy"),
      ("clickCount", .text "2"), ("label", .int 7)]
    let payload : Entries := [("label", .text "7"), ("action", .text "click"),
      ("selector", .text "#buy"), ("clickCount", .int 2)]
    Registry.standard.parse (.object es) = .ok a ∧
      Registry.standard.parse (.object payload) = .ok a ∧
      validateAction (.object es) 0 = .ok ⟨none, []⟩ ∧
      ∃ r, validateAction (.object payload) 0 = .ok r ∧ r.valid = true := by
  intro a es payload
  have hseven : (Value.int 7).isWritable = true := by decide +kernel
  have hlabel : Action.readLabel es = .ok (some "7") := by
    have hget : Entries.getD es "label" = .int 7 := rfl
    simp only [Action.readLabel, hget, Value.isBlank, asWritten, Value.write_of_isWritable hseven]
    rfl
  have hfields : Record.read ActionKind.click.fields es = .ok a.fields := rfl
  have hread : Action.read .click es = .ok a :=
    map_eq_ok_iff.mpr ⟨(_, _), both_eq_ok_iff.mpr ⟨hlabel, hfields⟩, rfl⟩
  have hparse : Registry.standard.parse (.object es) = .ok a :=
    parse_eq_ok_iff.mpr ⟨⟨.click, _⟩, rfl, rfl, hread⟩
  have hvalid : validateAction (.object es) 0 = .ok ⟨none, []⟩ :=
    validateAction_eq_ok_iff.mpr ⟨hseven, rfl⟩
  obtain ⟨hpayload, -, -, haccepted⟩ := parse_payload hparse
  obtain ⟨ws, -, hverdict⟩ := haccepted 0 _ hvalid rfl
  exact ⟨hparse, hpayload, hvalid, _, hverdict, rfl⟩

end Walkthrough
