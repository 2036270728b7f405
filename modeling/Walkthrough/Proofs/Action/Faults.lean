import Walkthrough.Proofs.Action.Reading
import Walkthrough.Proofs.Validation

/-!
Why an action is not read: each fault lies under a key that the object has, unless a field that must
be there is missing, and an object that the checks accept misses none.
-/
namespace Walkthrough

theorem asText_error {v : Value} {r : Refusal} (h : asText v = .error r) : r ≠ .missing := by
  unfold asText at h
  grind

theorem asFloat_error {v : Value} {r : Refusal} (h : asFloat v = .error r) : r ≠ .missing := by
  unfold asFloat at h
  grind

theorem asWhole_error {v : Value} {r : Refusal} (h : asWhole v = .error r) : r ≠ .missing := by
  unfold asWhole wholeOfFloat at h
  grind

theorem asFlag_error {v : Value} {r : Refusal} (h : asFlag v = .error r) : r ≠ .missing := by
  unfold asFlag flagOfInt flagOfText at h
  grind [wholeOfFloat]

theorem asWritten_error {v : Value} {r : Refusal} (h : asWritten v = .error r) :
    r ≠ .missing := by
  unfold asWritten at h
  cases hv : v.write with
  | ok s =>
    rw [hv] at h
    cases h
  | error f =>
    rw [hv] at h
    cases h
    exact Refusal.noConfusion

theorem writtenOut_error {v : Value} {r : Refusal} (h : writtenOut v = .error r) :
    r ≠ .missing := by
  unfold writtenOut at h
  split at h
  · exact asWritten_error (map_eq_error_iff.mp h)
  · cases h

theorem allWritten_error {vs : List Value} {r : Refusal} (h : allWritten vs = .error r) :
    r ≠ .missing := by
  induction vs with
  | nil => cases h
  | cons v vs ih =>
    unfold allWritten at h
    split at h
    · cases h
    next hv =>
      cases h
      exact asWritten_error hv
    next hvs =>
      cases h
      exact ih hvs

theorem neither_refusals {first second : String} {r r' : Refusal} (h : r ≠ .missing)
    (h' : r' ≠ .missing) : ∀ g ∈ neither first r second r', g.refusal ≠ .missing := by
  intro g hg
  simp only [neither, List.mem_cons, List.not_mem_nil, or_false] at hg
  rcases hg with rfl | rfl
  · exact h
  · exact h'

/-- There are faults, and none of them is that a value is missing. -/
def FieldFault.AreOfValue (gs : List FieldFault) : Prop :=
  gs ≠ [] ∧ ∀ g ∈ gs, g.refusal ≠ .missing

namespace FieldKind
open FieldFault (AreOfValue)

theorem alone_error {α : Type} {x : Except Refusal α} {gs : List FieldFault}
    (hx : ∀ r, x = .error r → r ≠ .missing) (h : alone x = .error gs) : AreOfValue gs := by
  cases x with
  | ok a => cases h
  | error r =>
    cases h
    exact ⟨List.cons_ne_nil _ _, by simpa using hx r rfl⟩

theorem asChoice_error {v : Value} {gs : List FieldFault} (h : asChoice v = .error gs) :
    AreOfValue gs := by
  cases v with
  | text s => cases h
  | list items => cases h
  | _ =>
    cases h
    exact ⟨List.cons_ne_nil _ _, neither_refusals (by decide) (by decide)⟩

theorem asPolling_error {v : Value} {gs : List FieldFault} (h : asPolling v = .error gs) :
    AreOfValue gs := by
  unfold asPolling at h
  split at h
  · cases h
  · split at h
    · cases h
    next hv =>
      cases h
      exact ⟨List.cons_ne_nil _ _, neither_refusals (asFloat_error hv) (by decide)⟩

theorem prepare_error {k : FieldKind} {v : Value} {r : Refusal} (h : k.prepare v = .error r) :
    r ≠ .missing := by
  cases k with
  | scalar => exact writtenOut_error h
  | choice =>
    simp only [prepare] at h
    split at h
    · exact allWritten_error (map_eq_error_iff.mp h)
    · exact writtenOut_error h
  | limit | pause =>
    simp only [prepare] at h
    split at h <;> cases h
  | text | number | whole | flag | polling => cases h

/-- A value that is there is refused for what it is. -/
theorem convert_error {k : FieldKind} {v : Value} {gs : List FieldFault}
    (h : k.convert v = .error gs) : AreOfValue gs := by
  cases k with
  | text | scalar => exact alone_error (fun _ => asText_error) h
  | number | limit | pause => exact alone_error (fun _ => asFloat_error) h
  | whole => exact alone_error (fun _ => asWhole_error) h
  | flag => exact alone_error (fun _ => asFlag_error) h
  | choice => exact asChoice_error h
  | polling => exact asPolling_error h

end FieldKind

/-- There are faults, and all of them lie with values that the object has under some key. -/
def FieldFault.AreIn (es : Entries) (gs : List FieldFault) : Prop :=
  gs ≠ [] ∧ ∀ g ∈ gs, g.refusal ≠ .missing ∧ ∃ key, g.path.head? = some key ∧ es.has key = true

namespace Field
open FieldFault (AreOfValue AreIn)

theorem areIn_singleton {es : Entries} {key : String} {r : Refusal} (hkey : es.has key = true)
    (hr : r ≠ .missing) : AreIn es [⟨[key], r⟩] := by
  refine ⟨List.cons_ne_nil _ _, fun g hg => ?_⟩
  obtain rfl := List.mem_singleton.mp hg
  exact ⟨hr, key, rfl, hkey⟩

theorem under_error {α : Type} {key : String} {x : Except (List FieldFault) α} {es : Entries}
    {gs : List FieldFault} (hkey : es.has key = true) (hx : ∀ gs, x = .error gs → AreOfValue gs)
    (h : under key x = .error gs) : AreIn es gs := by
  cases x with
  | ok a => cases h
  | error fs =>
    obtain ⟨hne, hfs⟩ := hx fs rfl
    cases h
    refine ⟨by simpa using hne, ?_⟩
    intro g hg
    obtain ⟨g', hg', rfl⟩ := List.mem_map.mp hg
    exact ⟨hfs g' hg', key, rfl, hkey⟩

theorem has_of_find? {f : Field} {es : Entries} {key : String} {v : Value}
    (h : f.find? es = some (key, v)) : es.has key = true := by
  unfold find? at h
  unfold Entries.has
  cases hwire : es.get? f.wire with
  | some w =>
    simp only [hwire, Option.some.injEq, Prod.mk.injEq] at h
    obtain ⟨rfl, rfl⟩ := h
    rw [hwire]
    rfl
  | none =>
    simp only [hwire, Option.map_eq_some_iff, Prod.mk.injEq] at h
    obtain ⟨w, hname, rfl, rfl⟩ := h
    rw [hname]
    rfl

theorem readRequired_error {f : Field} {es : Entries} {gs : List FieldFault}
    (hhas : es.has f.wire = true) (h : f.readRequired es = .error gs) : AreIn es gs := by
  unfold readRequired at h
  split at h
  next hfind =>
    obtain ⟨v, hv⟩ := Option.isSome_iff_exists.mp hhas
    simp [find?, hv] at hfind
  next key v hfind =>
    split at h
    next r hprepare =>
      cases h
      exact areIn_singleton (has_of_find? hfind) (FieldKind.prepare_error hprepare)
    next w _ => exact under_error (has_of_find? hfind) (fun _ => FieldKind.convert_error) h

theorem readOptional_error {f : Field} {es : Entries} {gs : List FieldFault}
    (h : f.readOptional es = .error gs) : AreIn es gs := by
  unfold readOptional at h
  split at h
  · cases h
  next key v hfind =>
    split at h
    next r hprepare =>
      cases h
      exact areIn_singleton (has_of_find? hfind) (FieldKind.prepare_error hprepare)
    · cases h
    next w _ _ =>
      exact under_error (has_of_find? hfind) (fun _ => FieldKind.convert_error)
        (map_eq_error_iff.mp h)

theorem read_error {f : Field} {es : Entries} {gs : List FieldFault}
    (hhas : f.required = true → es.has f.wire = true) (h : f.read es = .error gs) :
    AreIn es gs := by
  obtain ⟨name, wire, kind, required⟩ := f
  cases required with
  | true => exact readRequired_error (hhas rfl) h
  | false => exact readOptional_error h

end Field

open FieldFault (AreIn)

theorem both_error {α β : Type} {x : Except (List FieldFault) α} {y : Except (List FieldFault) β}
    {es : Entries} {gs : List FieldFault} (hx : ∀ gs, x = .error gs → AreIn es gs)
    (hy : ∀ gs, y = .error gs → AreIn es gs) (h : both x y = .error gs) : AreIn es gs := by
  cases x with
  | ok a =>
    cases y with
    | ok b => cases h
    | error e =>
      cases h
      exact hy _ rfl
  | error e =>
    cases y with
    | ok b =>
      cases h
      exact hx _ rfl
    | error e' =>
      cases h
      obtain ⟨hne, hin⟩ := hx e rfl
      obtain ⟨-, hin'⟩ := hy e' rfl
      refine ⟨List.append_ne_nil_of_left_ne_nil hne _, fun g hg => ?_⟩
      rcases List.mem_append.mp hg with hg | hg
      · exact hin g hg
      · exact hin' g hg

theorem Record.read_error {fs : List Field} {es : Entries} {gs : List FieldFault}
    (hhas : ∀ f ∈ fs, f.required = true → es.has f.wire = true)
    (h : Record.read fs es = .error gs) : AreIn es gs := by
  induction fs generalizing gs with
  | nil => cases h
  | cons f fs ih =>
    rw [List.forall_mem_cons] at hhas
    exact both_error (fun _ => Field.read_error hhas.1) (fun _ => ih hhas.2) h

theorem Action.readLabel_error {es : Entries} {gs : List FieldFault}
    (h : readLabel es = .error gs) : AreIn es gs := by
  unfold readLabel at h
  dsimp only at h
  split at h
  · cases h
  next hblank =>
    split at h
    · cases h
    next r hr =>
      cases h
      refine Field.areIn_singleton ?_ (asWritten_error hr)
      rw [Entries.has, Entries.get?_of_getD_isBlank (Bool.not_eq_true _ ▸ hblank)]
      rfl

/-- An object with all that its type requires is read, or refused for values that it has. -/
theorem ActionKind.Admits.read_error {kind : ActionKind} {es : Entries} {gs : List FieldFault}
    (hadmits : kind.Admits (.object es)) (h : Action.read kind es = .error gs) :
    AreIn es gs := by
  obtain ⟨_, ⟨⟩, -, hmissing⟩ := hadmits
  rw [missingFields_eq_nil_iff] at hmissing
  refine both_error (fun _ => Action.readLabel_error) (fun _ => Record.read_error ?_)
    (map_eq_error_iff.mp h)
  intro f hf hrequired
  rw [Entries.has, Entries.get?_of_getD_isBlank (hmissing f hf hrequired)]
  rfl

end Walkthrough
