import Walkthrough.Proofs.Action.Reading
import Walkthrough.Proofs.Validation

/-!
What an action is read from: the keys of its schema, and the plain name of a field that nothing is
given for under its own key. No other key of an object matters, nor does the order of its entries.
-/
namespace Walkthrough

namespace ActionKind

/-- Two objects give the same value, or none, for every key of the schema, and for the plain name of
every field whose own key is not there. -/
structure Agree (kind : ActionKind) (es es' : Entries) : Prop where
  known : ∀ key ∈ kind.schema.knownFields, es.get? key = es'.get? key
  plain : ∀ f ∈ kind.fields, es.get? f.wire = none → es.get? f.name = es'.get? f.name

end ActionKind

namespace Action

theorem read_congr {kind : ActionKind} {es es' : Entries} (h : kind.Agree es es') :
    read kind es = read kind es' := by
  have hlabel : readLabel es = readLabel es' :=
    readLabel_congr (h.known "label" (by simp [Schema.knownFields]))
  have hfields : Record.read kind.fields es = Record.read kind.fields es' := by
    apply Record.read_congr
    intro f hf
    exact Field.find?_congr (h.known f.wire (ActionKind.wire_mem_knownFields hf)) (h.plain f hf)
  simp only [read, hlabel, hfields]

/-- Objects of a known type that agree are read as the same action, or refused for the same fault,
and to run one of them is to run the other. -/
theorem ofValue_congr [Pattern.Host] {kind : ActionKind} {es es' : Entries}
    (htag : es.get? "action" = some (.text kind.name)) (h : kind.Agree es es') :
    ofValue (.object es) = ofValue (.object es') ∧
      ∀ page settings,
        Step.run page settings (.object es) = Step.run page settings (.object es') := by
  have htag' : es'.get? "action" = some (.text kind.name) := by
    rw [← htag, h.known "action" (by simp [Schema.knownFields])]
  have hvalue : ofValue (.object es) = ofValue (.object es') := by
    rw [ofValue_eq_read htag, ofValue_eq_read htag', read_congr h]
  have hname : Step.nameOf (.object es) = Step.nameOf (.object es') := by
    simp only [Step.nameOf, Value.actionName?, Value.field, Entries.getD, htag, htag']
  refine ⟨hvalue, fun page settings => ?_⟩
  unfold Step.run
  rw [hname, hvalue]

open scoped Walkthrough.Pattern.Host in
/-- A click with its count under the key of the schema: what stands under the plain name of the
count or under an unknown key does not matter. -/
theorem ofValue_congr_click :
    let es : Entries := [("action", .text "click"), ("selector", .text "#buy"),
      ("clickCount", .int 2), ("click_count", .int 3), ("colour", .text "red")]
    let es' : Entries := [("clickCount", .int 2), ("selector", .text "#buy"),
      ("action", .text "click")]
    es.get? "action" = some (.text ActionKind.click.name) ∧ ActionKind.click.Agree es es' ∧
      ofValue (.object es) = ofValue (.object es') := by
  intro es es'
  have htag : es.get? "action" = some (.text ActionKind.click.name) := rfl
  have hagree : ActionKind.click.Agree es es' := by
    constructor
    · simp [es, es', Schema.knownFields, ActionKind.schema, Entries.get?_cons, Entries.get?_nil]
    · simp [es, es', Entries.get?_cons, Entries.get?_nil]
  exact ⟨htag, hagree, (ofValue_congr htag hagree).1⟩

open scoped Walkthrough.Pattern.Host in
/-- Without a value under its own key a field is read from its plain name, which is none of the keys
of the schema: of two clicks that agree on these keys one is made three times, for a key that the
checks say they do not know. -/
theorem ofValue_ne_of_plainName :
    let es : Entries := [("action", .text "click"), ("selector", .text "#buy")]
    let es' : Entries := es ++ [("click_count", .int 3)]
    let page := PageContent.opened ⟨"about:blank", "", [("#buy", [⟨none, true⟩])], []⟩
    let clicks (es : Entries) :=
      (Step.run Stage.handle (.ok .standard) (.object es) page).2.calls.map fun call =>
        Entries.getD call.named "click_count"
    (∀ key ∈ ActionKind.click.schema.knownFields, es.get? key = es'.get? key) ∧
      validateAction (.object es') 0 =
        .ok ⟨none, ["Step 1: Unknown field(s) for \"click\": click_count"]⟩ ∧
      ofValue (.object es) ≠ ofValue (.object es') ∧
      clicks es = [.null, .int 1] ∧ clicks es' = [.null, .int 3] := by
  intro es es' page clicks
  refine ⟨?_, validateAction_eq_ok_iff.mpr ⟨by decide +kernel, rfl⟩, ?_, rfl, rfl⟩
  · simp [es, es', Schema.knownFields, ActionKind.schema, Entries.get?_cons, Entries.get?_nil]
  · have hread : ofValue (.object es) =
        .ok ⟨.click, none, ("#buy", none, none, none, none, ())⟩ := rfl
    have hread' : ofValue (.object es') =
        .ok ⟨.click, none, ("#buy", none, none, some 3, none, ())⟩ := rfl
    rw [hread, hread']
    intro heq
    cases heq

end Action

end Walkthrough
