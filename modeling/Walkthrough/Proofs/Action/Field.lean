import Walkthrough.Action.Field
import Walkthrough.Proofs.Number.Rounding
import Walkthrough.Proofs.Number.Digits

/-!
What a field holds is read back from the value that stands for it: to write a field and read it
again changes nothing, whatever value it was read from at first.
-/
namespace Walkthrough

theorem Moment.text_ne_empty (m : Moment) : m.text ≠ "" := by
  cases m with
  | date d => simp [text, dateText, toString]
  | time t =>
    unfold text timeText
    dsimp only
    split <;> simp [toString]
  | dateTime d t offset =>
    cases offset with
    | none => simp [text, toString]
    | some o => simp [text, toString]

namespace Value

/-- What is not blank is displayed as something. -/
theorem display_ne_empty {v : Value} (h : v.isBlank = false) : v.display ≠ "" := by
  cases v with
  | null => cases h
  | bool b => cases b <;> decide
  | int n => exact Number.text_ne_empty (.int n)
  | float x => exact Number.text_ne_empty (.float x)
  | text s => simpa [isBlank, display] using h
  | moment m => exact m.text_ne_empty
  | list items => simp [display, form]
  | object es => simp [display, form]

end Value

theorem asWritten_eq_ok {v : Value} {s : String} (h : asWritten v = .ok s) : v.display = s := by
  cases hs : v.write with
  | ok t =>
    simp only [asWritten, hs, Except.mapError, Except.ok.injEq] at h
    exact h ▸ (Value.write_eq_ok_iff.mp hs).2
  | error f => simp [asWritten, hs, Except.mapError] at h

theorem writtenOut_isBlank {v w : Value} (h : writtenOut v = .ok w) (hv : v.isBlank = false) :
    w.isBlank = false := by
  cases hn : v.number? with
  | none =>
    simp only [writtenOut, hn, Except.ok.injEq] at h
    exact h ▸ hv
  | some n =>
    simp only [writtenOut, hn] at h
    obtain ⟨s, hs, rfl⟩ := map_eq_ok_iff.mp h
    exact beq_eq_false_iff_ne.mpr (asWritten_eq_ok hs ▸ Value.display_ne_empty hv)

/-- Texts are written out as they are. -/
theorem allWritten_text (ss : List String) : allWritten (ss.map .text) = .ok ss := by
  induction ss with
  | nil => rfl
  | cons s ss ih => simp only [List.map_cons, allWritten, ih]; rfl

theorem asText_eq_ok {v : Value} {s : String} (h : asText v = .ok s) : v = .text s := by
  cases v with
  | text t => exact congrArg Value.text (Except.ok.inj h)
  | _ => cases h

/-- The double of a number is the number itself, or the one nearest to an integer. -/
theorem asFloat_of_number {v : Value} {n : Number} {x : Float} (hn : v.number? = some n)
    (hx : asFloat v = .ok x) :
    n = .float x ∨ ∃ i, n = .int i ∧ x = Number.Binary64.ofInt i := by
  cases v with
  | int i =>
    cases hn
    simp only [asFloat] at hx
    split at hx
    · exact .inr ⟨i, rfl, (Except.ok.inj hx).symm⟩
    · cases hx
  | float y =>
    cases hn
    cases hx
    exact .inl rfl
  | _ => cases hn

namespace FieldKind

theorem alone_eq_ok {α : Type} {x : Except Refusal α} {a : α} (h : alone x = .ok a) :
    x = .ok a := by
  cases x with
  | ok b => exact congrArg Except.ok (Except.ok.inj h)
  | error r => cases h

/-- A limit that is kept is above zero as a double too. -/
theorem prepare_limit_float {v w : Value} {x : Float} (hw : prepare .limit v = .ok w)
    (hx : asFloat w = .ok x) : prepare .limit (.float x) = .ok (.float x) := by
  suffices ((Number.int 0).lt (.float x) || (Number.float x).isNaN) = true by
    simp [prepare, Value.number?, this]
  cases hn : v.number? with
  | none =>
    simp only [prepare, hn, Except.ok.injEq] at hw
    subst hw
    cases hx
  | some n =>
    simp only [prepare, hn, Except.ok.injEq] at hw
    split at hw
    next hkeep =>
      subst hw
      rcases asFloat_of_number hn hx with rfl | ⟨i, rfl, rfl⟩
      · exact hkeep
      · have hpos : 0 < i := by simpa [Number.lt, Number.isNaN] using hkeep
        simp [Number.lt, Number.Binary64.intBelow_zero_ofInt hpos]
    · subst hw
      cases hx

/-- A pause is not below zero as a double either. -/
theorem prepare_pause_float {v w : Value} {x : Float} (hw : prepare .pause v = .ok w)
    (hx : asFloat w = .ok x) : prepare .pause (.float x) = .ok (.float x) := by
  suffices (Number.float x).lt (.int 0) = false by simp [prepare, Value.number?, this]
  have hzero {i : Int} (hi : 0 ≤ i) :
      (Number.float (Number.Binary64.ofInt i)).lt (.int 0) = false :=
    Number.Binary64.belowInt_ofInt_zero hi
  have hnone (h : asFloat (.int 0) = .ok x) : (Number.float x).lt (.int 0) = false := by
    rcases asFloat_of_number rfl h with h | ⟨i, hi, rfl⟩
    · cases h
    · cases hi
      exact hzero (Int.le_refl 0)
  cases hn : v.number? with
  | none =>
    simp only [prepare, hn, Except.ok.injEq] at hw
    exact hnone (hw ▸ hx)
  | some n =>
    simp only [prepare, hn, Except.ok.injEq] at hw
    split at hw
    · exact hnone (hw ▸ hx)
    next hneg =>
      subst hw
      rcases asFloat_of_number hn hx with rfl | ⟨i, rfl, rfl⟩
      · simpa using hneg
      · exact hzero (by simpa [Number.lt] using hneg)

/-- The value that stands for what was read from some value is left as it is. -/
theorem prepare_toValue {k : FieldKind} {v w : Value} {c : k.Carrier} (hw : k.prepare v = .ok w)
    (hc : k.convert w = .ok c) : k.prepare (k.toValue c) = .ok (k.toValue c) := by
  cases k with
  | text | scalar | number | whole | flag => rfl
  | limit => exact prepare_limit_float hw (alone_eq_ok hc)
  | pause => exact prepare_pause_float hw (alone_eq_ok hc)
  | choice =>
    cases c with
    | one s => rfl
    | many ss =>
      change (allWritten (ss.map .text)).map _ = _
      rw [allWritten_text]
      rfl
  | polling => cases c <;> rfl

/-- What a field holds is read from the value that stands for it. -/
theorem convert_toValue (k : FieldKind) (c : k.Carrier) : k.convert (k.toValue c) = .ok c := by
  cases k with
  | choice =>
    cases c with
    | one s => rfl
    | many ss => simp [toValue, convert, asChoice, Value.display, Function.comp_def]
  | polling => cases c <;> rfl
  | _ => rfl

theorem toValue_ne_null (k : FieldKind) (c : k.Carrier) : k.toValue c ≠ .null := by
  cases k with
  | choice | polling => cases c <;> exact Value.noConfusion
  | _ => exact Value.noConfusion

theorem prepare_isBlank {k : FieldKind} (hk : k ≠ .limit) {v w : Value} (hw : k.prepare v = .ok w)
    (hv : v.isBlank = false) : w.isBlank = false := by
  cases k with
  | limit => exact absurd rfl hk
  | text | number | whole | flag | polling => exact Except.ok.inj hw ▸ hv
  | scalar => exact writtenOut_isBlank hw hv
  | choice =>
    cases v with
    | list items =>
      obtain ⟨ss, -, rfl⟩ := map_eq_ok_iff.mp hw
      rfl
    | _ =>
      simp only [prepare] at hw
      exact writtenOut_isBlank hw hv
  | pause =>
    simp only [prepare] at hw
    split at hw
    · obtain rfl := Except.ok.inj hw
      split
      · rfl
      · exact hv
    · exact Except.ok.inj hw ▸ rfl

theorem toValue_isBlank_of_convert {k : FieldKind} {w : Value} {c : k.Carrier}
    (h : k.convert w = .ok c) (hw : w.isBlank = false) : (k.toValue c).isBlank = false := by
  cases k with
  | number | limit | pause | whole | flag => rfl
  | text | scalar =>
    obtain rfl := asText_eq_ok (alone_eq_ok h)
    exact hw
  | choice =>
    cases w with
    | text s =>
      cases h
      exact hw
    | list items =>
      cases h
      rfl
    | _ => cases h
  | polling =>
    cases c with
    | every x => rfl
    | mode s =>
      cases w with
      | text t =>
        cases h
        exact hw
      | _ =>
        simp only [convert, asPolling] at h
        split at h <;> cases h

/-- What is read from a value that is not blank does not become a blank one. -/
theorem toValue_isBlank {k : FieldKind} {v w : Value} {c : k.Carrier} (hw : k.prepare v = .ok w)
    (hc : k.convert w = .ok c) (hv : v.isBlank = false) : (k.toValue c).isBlank = false := by
  by_cases hk : k = .limit
  · subst hk
    rfl
  · exact toValue_isBlank_of_convert hc (prepare_isBlank hk hw hv)

end FieldKind

end Walkthrough
