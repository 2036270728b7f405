import Mathlib.Data.List.TakeWhile
import Walkthrough.Number.Basic

/-!
Decimal digits: those of a natural number stand for it, and the text of a number is never empty.
-/
namespace Walkthrough.Number

theorem decimalValue_eq_ofDigitChars (ds : List Char) :
    decimalValue ds = Nat.ofDigitChars 10 ds 0 := by
  simp only [decimalValue, Nat.ofDigitChars, Nat.mul_comm 10]
  rfl

theorem decimalValue_toDigits (n : Nat) : decimalValue (Nat.toDigits 10 n) = n := by
  rw [decimalValue_eq_ofDigitChars, Nat.ofDigitChars_ten_toDigits]

theorem isDigit_of_mem_toDigits {n : Nat} {d : Char} (h : d ∈ Nat.toDigits 10 n) :
    d.isDigit = true :=
  Nat.isDigit_of_mem_toDigits (by decide) (by decide) h

/-- Zeros alone stand for zero. -/
theorem decimalValue_eq_zero {ds : List Char} (h : ∀ d ∈ ds, d = '0') : decimalValue ds = 0 := by
  unfold decimalValue
  induction ds with
  | nil => rfl
  | cons d ds ih =>
    rw [List.forall_mem_cons] at h
    obtain ⟨rfl, h⟩ := h
    exact ih h

theorem integerText_ne_nil (n : Int) : integerText n ≠ [] := by
  unfold integerText
  split
  · exact List.cons_ne_nil _ _
  · exact Nat.toDigits_ne_nil

theorem RoundingInterval.ne_zero_of_pointOnGrid? {i : RoundingInterval} {k : Int} {d : Nat}
    (h : i.pointOnGrid? k = some d) : d ≠ 0 := by
  unfold pointOnGrid? at h
  dsimp only at h
  split at h
  next hd _ =>
    cases h
    simpa using (Bool.and_eq_true_iff.mp hd).2
  next =>
    cases h
    exact Nat.succ_ne_zero _
  next hd _ =>
    obtain rfl := Option.some.inj h
    split
    · simpa using (Bool.and_eq_true_iff.mp hd).2
    · exact Nat.succ_ne_zero _
  next => cases h

theorem RoundingInterval.ne_zero_of_search {i : RoundingInterval} {top k : Int} {tries : Nat}
    {d : Decimal} (h : i.search top tries k = some d) : d.digits ≠ 0 := by
  induction tries generalizing k with
  | zero => cases h
  | succ tries ih =>
    rw [search] at h
    split at h
    next hpoint =>
      cases h
      exact ne_zero_of_pointOnGrid? hpoint
    next => exact ih h

/-- Without its last zeros a number other than zero keeps a digit. -/
theorem Decimal.scientific_ne_nil {d : Decimal} (h : d.digits ≠ 0) : d.scientific.1 ≠ [] := by
  intro hnil
  refine h ?_
  rw [← decimalValue_toDigits d.digits]
  refine decimalValue_eq_zero fun c hc => ?_
  simp only [scientific, List.reverse_eq_nil_iff, List.dropWhile_eq_nil_iff, List.mem_reverse]
    at hnil
  simpa using hnil c hc

theorem FloatFormat.write_ne_nil {f : FloatFormat} {digits : List Char} (h : digits ≠ [])
    (e : Int) : f.write digits e ≠ [] := by
  unfold write
  split
  · split <;> simp
  · cases digits with
    | nil => exact absurd rfl h
    | cons d ds => cases ds <;> simp

theorem floatText_ne_empty (x : Float) : floatText x ≠ "" := by
  have hshortest (m : Nat) (e : Int) :
      floatFormat.write (shortest m e).scientific.1 (shortest m e).scientific.2 ≠ [] := by
    unfold shortest
    dsimp only
    cases hs : (RoundingInterval.of m e).search (decimalExponent m e) 17 (decimalExponent m e) with
    | none => decide
    | some d => exact FloatFormat.write_ne_nil (Decimal.scientific_ne_nil
        (RoundingInterval.ne_zero_of_search hs)) _
  unfold floatText
  split
  · decide
  · split <;> decide
  next negative m e _ =>
    rw [Ne, String.ofList_eq_empty_iff]
    cases negative with
    | true => simp
    | false =>
      by_cases hm : m = 0
      · simp [hm]
      · simpa [hm] using hshortest m e

theorem text_ne_empty (n : Number) : n.text ≠ "" := by
  cases n with
  | int n => simpa [text] using integerText_ne_nil n
  | float x => exact floatText_ne_empty x

end Walkthrough.Number
