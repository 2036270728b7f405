import Mathlib.Data.List.TakeDrop
import Walkthrough.Json.Printer
import Walkthrough.Json.Reader
import Walkthrough.Proofs.Number.Digits

/-! Integers of JSON: what is printed of an integer is read as that integer. -/
namespace Walkthrough

namespace Number

theorem digitChar_ne_zero : ∀ k < 10, 0 < k → Nat.digitChar k ≠ '0' := by decide

/-- The digits of a positive number do not begin with a zero. -/
theorem head?_toDigits_ne {n : Nat} (hn : 0 < n) : (Nat.toDigits 10 n).head? ≠ some '0' := by
  induction n using Nat.strongRecOn with
  | ind n ih =>
    by_cases hlt : n < 10
    · rw [Nat.toDigits_of_lt_base hlt]
      simpa using digitChar_ne_zero n hlt hn
    · have hhead := ih (n / 10) (by omega) (by omega)
      obtain ⟨d, ds, hds⟩ :=
        List.exists_cons_of_ne_nil (Nat.toDigits_ne_nil (b := 10) (n := n / 10))
      rw [hds] at hhead
      rw [Nat.toDigits_of_base_le (by decide) (by omega), hds]
      exact hhead

/-- A numeral begins with a digit, or with a minus before one. -/
theorem integerText_cases (n : Int) :
    ∃ d ds, Nat.toDigits 10 n.natAbs = d :: ds ∧ d.isDigit = true ∧
      (integerText n = d :: ds ∧ 0 ≤ n ∨ integerText n = '-' :: d :: ds ∧ n < 0) := by
  obtain ⟨d, ds, hds⟩ := List.exists_cons_of_ne_nil (Nat.toDigits_ne_nil (b := 10) (n := n.natAbs))
  refine ⟨d, ds, hds, isDigit_of_mem_toDigits (hds ▸ List.mem_cons_self), ?_⟩
  unfold integerText
  by_cases hn : n < 0
  · exact .inr ⟨by rw [if_pos hn, hds], hn⟩
  · exact .inl ⟨by rw [if_neg hn, hds], by omega⟩

end Number

namespace Json
variable {ds rest : List Char} {n : Int}

/-- What follows does not go on with a number. -/
def EndsNumber (rest : List Char) : Prop :=
  ∀ c ∈ rest.head?, c.isDigit = false ∧ c ≠ '.' ∧ c ≠ 'e' ∧ c ≠ 'E'

theorem spanDigits_append (hds : ∀ d ∈ ds, d.isDigit = true) (h : EndsNumber rest) :
    spanDigits (ds ++ rest) = (ds, rest) := by
  have hstop : rest.takeWhile Char.isDigit = [] ∧ rest.dropWhile Char.isDigit = rest := by
    cases rest with
    | nil => exact ⟨rfl, rfl⟩
    | cons c cs => simp [(h c rfl).1]
  rw [spanDigits, List.span_eq_takeWhile_dropWhile, List.takeWhile_append_of_pos hds,
    List.dropWhile_append_of_pos hds, hstop.1, hstop.2, List.append_nil]

theorem fraction?_eq_none (h : EndsNumber rest) : fraction? rest = none := by
  cases rest with
  | nil => rfl
  | cons c cs =>
    unfold fraction?
    split
    next heq =>
      cases heq
      exact absurd rfl (h '.' rfl).2.1
    next => rfl

theorem exponent?_eq_none (h : EndsNumber rest) : exponent? rest = none := by
  cases rest with
  | nil => rfl
  | cons c cs =>
    obtain ⟨-, -, he, hE⟩ := h c rfl
    simp [exponent?, he, hE]

theorem wholePart?_toDigits (n : Nat) (h : EndsNumber rest) :
    wholePart? (Nat.toDigits 10 n ++ rest) = some (Nat.toDigits 10 n, rest) := by
  by_cases hn : n = 0
  · subst hn
    rfl
  · have hhead := Number.head?_toDigits_ne (Nat.pos_of_ne_zero hn)
    have hdigits := spanDigits_append (fun _ => Number.isDigit_of_mem_toDigits (n := n)) h
    obtain ⟨d, ds, hds⟩ := List.exists_cons_of_ne_nil (Nat.toDigits_ne_nil (b := 10) (n := n))
    rw [hds] at hhead hdigits ⊢
    unfold wholePart?
    split
    next heq =>
      cases heq
      exact absurd rfl hhead
    next => rw [hdigits]

theorem readNumber?_nonneg {n : Nat} (hn : (Nat.toDigits 10 n).length ≤ Number.maxDigits)
    (h : EndsNumber rest) :
    readNumber? (Nat.toDigits 10 n ++ rest) = some (.ok (.int n, rest)) := by
  -- no digit is a minus, so the reader does not take the branch of a sign
  have hminus : ∀ r, Nat.toDigits 10 n ++ rest = '-' :: r → False := by
    intro r heq
    obtain ⟨d, ds, hds⟩ := List.exists_cons_of_ne_nil (Nat.toDigits_ne_nil (b := 10) (n := n))
    have hd := Number.isDigit_of_mem_toDigits (hds ▸ List.mem_cons_self)
    rw [hds] at heq
    cases heq
    cases hd
  simp only [readNumber?, wholePart?_toDigits n h, fraction?_eq_none h, exponent?_eq_none h,
    if_neg (Nat.not_lt.mpr hn), Number.decimalValue_toDigits]
  rfl

theorem readNumber?_neg {n : Nat} (hn : (Nat.toDigits 10 n).length ≤ Number.maxDigits)
    (h : EndsNumber rest) :
    readNumber? ('-' :: Nat.toDigits 10 n ++ rest) = some (.ok (.int (-n), rest)) := by
  simp only [List.cons_append, readNumber?, wholePart?_toDigits n h, fraction?_eq_none h,
    exponent?_eq_none h, if_neg (Nat.not_lt.mpr hn), Number.decimalValue_toDigits, if_true]

/-- What is printed of an integer is read as that integer, if it does not have too many digits. -/
theorem readNumber?_integerText (hn : (Nat.toDigits 10 n.natAbs).length ≤ Number.maxDigits)
    (h : EndsNumber rest) :
    readNumber? (Number.integerText n ++ rest) = some (.ok (.int n, rest)) := by
  unfold Number.integerText
  split
  next hneg =>
    have habs : -(n.natAbs : Int) = n := by omega
    rw [readNumber?_neg hn h, habs]
  next hneg =>
    have habs : (n.natAbs : Int) = n := by omega
    rw [readNumber?_nonneg hn h, habs]

end Json

end Walkthrough
