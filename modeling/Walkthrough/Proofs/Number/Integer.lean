import Walkthrough.Proofs.Number.Digits

/-! Reading integers undoes writing them, up to the most digits that are read. -/
namespace Walkthrough
variable {cs ds : List Char} {c d : Char}

theorem Text.digitValue?_of_isDigit (hd : d.isDigit = true) :
    Text.digitValue? d = some (d.toNat - 48) := by
  obtain ⟨hlow, hhigh⟩ : 48 ≤ d.toNat ∧ d.toNat ≤ 57 := Char.isDigit_iff_toNat.mp hd
  have hzeros : zeros = 0x30 :: zeros.tail := rfl
  have hfirst : (decide (0x30 ≤ d.toNat) && decide (d.toNat < 0x30 + 10)) = true := by
    simp only [Bool.and_eq_true, decide_eq_true_eq]
    omega
  rw [digitValue?, hzeros, List.find?_cons, hfirst]
  rfl

namespace Number

/-- Digits of ASCII are read to their end. -/
theorem readDigits_eq (hds : ∀ d ∈ ds, d.isDigit = true) (acc count : Nat) :
    readDigits acc count true ds =
      .ok (ds.foldl (fun n d => n * 10 + (d.toNat - 48)) acc, count + ds.length, []) := by
  induction ds generalizing acc count with
  | nil => rfl
  | cons d ds ih =>
    rw [List.forall_mem_cons] at hds
    simp only [readDigits, Text.digitValue?_of_isDigit hds.1, ih hds.2, List.foldl_cons,
      List.length_cons, Nat.add_assoc, Nat.add_comm 1]

theorem readDigits_of_ne_nil (hds : ∀ d ∈ ds, d.isDigit = true) (hne : ds ≠ []) :
    readDigits 0 0 false ds = .ok (decimalValue ds, ds.length, []) := by
  cases ds with
  | nil => exact absurd rfl hne
  | cons d ds =>
    rw [List.forall_mem_cons] at hds
    simp only [readDigits, Text.digitValue?_of_isDigit hds.1, readDigits_eq hds.2, decimalValue,
      List.foldl_cons, List.length_cons, Nat.zero_add, Nat.add_comm 1]

/-- No digit, and no minus, may stand in the margin of an integer. -/
theorem isMargin_eq_false (hc : c.isDigit = true ∨ c = '-') (cs : List Char) :
    isMargin cs c = false := by
  have hrange : 45 ≤ c.toNat ∧ c.toNat ≤ 57 := by
    rcases hc with hc | rfl
    · obtain ⟨hlow, hhigh⟩ : 48 ≤ c.toNat ∧ c.toNat ≤ 57 := Char.isDigit_iff_toNat.mp hc
      omega
    · decide
  have hspace : c ≠ ' ' := by
    rintro rfl
    exact absurd hrange (by decide)
  unfold isMargin
  split
  · simp only [Text.isAsciiSpace, Bool.or_eq_false_iff, beq_eq_false_iff_ne, ne_eq, hspace,
      not_false_eq_true, Bool.and_eq_false_imp, decide_eq_true_eq, decide_eq_false_iff_not,
      true_and]
    omega
  · simp only [Text.isBlank, Bool.or_eq_false_iff, Bool.and_eq_false_imp, decide_eq_true_eq,
      decide_eq_false_iff_not, beq_eq_false_iff_ne, ne_eq]
    omega

theorem readInteger_digits (hds : ∀ d ∈ ds, d.isDigit = true) (hne : ds ≠ [])
    (hlength : ds.length ≤ maxDigits) : readInteger ds = .ok (decimalValue ds) := by
  have hread := readDigits_of_ne_nil hds hne
  obtain ⟨d, ds, rfl⟩ := List.exists_cons_of_ne_nil hne
  have hd := hds d List.mem_cons_self
  have hmargin := isMargin_eq_false (.inl hd) (d :: ds)
  have hminus : d ≠ '-' := by
    rintro rfl
    cases hd
  have hplus : d ≠ '+' := by
    rintro rfl
    cases hd
  simpa [readInteger, hmargin, hminus, hplus, hread] using hlength

theorem readInteger_minus (hds : ∀ d ∈ ds, d.isDigit = true) (hne : ds ≠ [])
    (hlength : ds.length ≤ maxDigits) : readInteger ('-' :: ds) = .ok (-decimalValue ds) := by
  have hmargin := isMargin_eq_false (.inr rfl) ('-' :: ds)
  simp [readInteger, hmargin, readDigits_of_ne_nil hds hne, Nat.not_lt.mpr hlength]

/-- What is written of an integer is read as that integer, if it does not have too many digits. -/
theorem readInteger_integerText {n : Int}
    (h : (Nat.toDigits 10 n.natAbs).length ≤ maxDigits) :
    readInteger (integerText n) = .ok n := by
  have hdigits : ∀ d ∈ Nat.toDigits 10 n.natAbs, d.isDigit = true :=
    fun _ => isDigit_of_mem_toDigits
  unfold integerText
  split
  next hneg =>
    rw [readInteger_minus hdigits Nat.toDigits_ne_nil h, decimalValue_toDigits]
    congr 1
    omega
  next hneg =>
    rw [readInteger_digits hdigits Nat.toDigits_ne_nil h, decimalValue_toDigits]
    congr 1
    omega

end Number

end Walkthrough
