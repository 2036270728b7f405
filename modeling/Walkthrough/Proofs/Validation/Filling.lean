import Mathlib.Algebra.Group.Int.Defs
import Walkthrough.Proofs.Validation
import Walkthrough.Proofs.Value.Entries

/-!
Objects that lack fields: the message about them names every field to be filled in, and no other, so
that to fill in some of these fields leaves a message about the rest, and to fill in all of them is
enough.
-/
namespace Walkthrough

namespace Entries
variable {es fills : Entries} {key : String}

end Entries

/-- The message that an object lacks some fields of its type. -/
def lackMessage (kind : ActionKind) (es : Entries) (index : Int) (fields : List String) : String :=
  titleText (.object es) index ++ ": " ++ (ActionError.missingFields kind.name fields).message

section Verdict
variable {kind : ActionKind} {es es' : Entries} {index : Int} {r : ActionVerdict}

/-- An object of a known type is rejected if it lacks fields, and only for that. -/
theorem error_titled_of_tag (htag : es.getD "action" = .text kind.name) :
    (ActionVerdict.titled (titleText (.object es) index) (.object es)).error =
      if missingFields kind.schema es = [] then none
      else some (lackMessage kind es index (missingFields kind.schema es)) := by
  have hfield : (Value.object es).field "action" = .text kind.name := htag
  unfold ActionVerdict.titled checkAction
  by_cases hmissing : missingFields kind.schema es = []
  · simp [hfield, kind.name_ne_empty, ActionKind.ofName?_name, hmissing]
  · simp [hfield, kind.name_ne_empty, ActionKind.ofName?_name, hmissing, lackMessage]

/-- Objects that hold the same under the keys of their type are accepted alike, or rejected with one
message. -/
theorem validateAction_error_congr (htag : es.getD "action" = .text kind.name)
    (h : ∀ key ∈ kind.schema.knownFields, es'.getD key = es.getD key) :
    ((validateAction (.object es') index).map fun r => (r.valid, r.error)) =
      (validateAction (.object es) index).map fun r => (r.valid, r.error) := by
  have htag' : es'.getD "action" = .text kind.name := by
    rw [h "action" (by simp [Schema.knownFields]), htag]
  have hlabel : (Value.object es').field "label" = (Value.object es).field "label" :=
    h "label" (by simp [Schema.knownFields])
  have hmissing : missingFields kind.schema es' = missingFields kind.schema es := by
    apply List.filter_congr
    intro key hkey
    rw [h key (by simp [Schema.knownFields, hkey])]
  have htitle : titleText (.object es') index = titleText (.object es) index := by
    rw [titleText, titleText, hlabel]
  have herror : (ActionVerdict.titled (titleText (.object es') index) (.object es')).error =
      (ActionVerdict.titled (titleText (.object es) index) (.object es)).error := by
    rw [error_titled_of_tag htag', error_titled_of_tag htag, hmissing, lackMessage, lackMessage,
      htitle]
  have hhas : (Value.object es').hasTitleAt index = (Value.object es).hasTitleAt index := by
    rw [Value.hasTitleAt, Value.hasTitleAt, hlabel]
  rw [validateAction_eq, validateAction_eq, hhas]
  cases (Value.object es).hasTitleAt index with
  | true => simp only [if_true, Except.map, ActionVerdict.valid, herror]
  | false => rfl

end Verdict

end Walkthrough
