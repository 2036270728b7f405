import Mathlib
import Walkthrough.Number.Basic

/-!
Doubles and their bits: a double assembled from fields is taken apart into these fields.
-/
namespace Walkthrough.Number.Binary64
open Float.Model Float.Model.UnpackedFloat

theorem twoTo_11 : twoTo 11 = 2048 := rfl

theorem twoTo_52 : twoTo 52 = 4503599627370496 := rfl

theorem twoTo_53 : twoTo 53 = twoTo 52 + twoTo 52 := rfl

theorem twoTo_63 : twoTo 63 = 9223372036854775808 := rfl

theorem twoTo_add (a b : Nat) : twoTo (a + b) = twoTo a * twoTo b :=
  Nat.pow_add 2 a b

theorem twoTo_log2_le {n : Nat} (hn : n ≠ 0) : twoTo n.log2 ≤ n :=
  Nat.log2_self_le hn

theorem lt_twoTo_log2 (n : Nat) : n < twoTo (n.log2 + 1) :=
  Nat.lt_log2_self

variable (b : BitVec Format.binary64.numBits)

theorem toNat_unpackMantissa : (unpackMantissa b).toNat = b.toNat % twoTo 52 := by
  simp [unpackMantissa, BitVec.extractLsb, BitVec.extractLsb'_toNat, twoTo_52]

theorem toNat_unpackExponent : (unpackExponent b).toNat = b.toNat / twoTo 52 % twoTo 11 := by
  simp [unpackExponent, BitVec.extractLsb, BitVec.extractLsb'_toNat, Nat.shiftRight_eq_div_pow,
    twoTo_11, twoTo_52]

/-- The bits of a double that is made of bits are these, unless it is no number. -/
theorem toBits_ofBits {u : UInt64}
    (h : u.toNat / twoTo 52 % twoTo 11 = 2047 → u.toNat % twoTo 52 = 0) :
    (Float.ofBits u).toBits = u := by
  have hnumber : @isNaNBits .binary64 u.toBitVec = false := by
    simp only [isNaNBits, decide_eq_false_iff_not, not_and, not_not]
    intro hones
    apply BitVec.eq_of_toNat_eq
    rw [toNat_unpackMantissa]
    refine h ?_
    have := congrArg BitVec.toNat hones
    rwa [toNat_unpackExponent] at this
  -- `pack_unpack` is the reason for the import: no single module of the library brings it in
  have hpack : UnpackedFloat.pack .binary64 (UnpackedFloat.unpack .binary64 u.toBitVec) =
      u.toBitVec := by
    rw [pack_unpack, hnumber]
    rfl
  change UInt64.ofBitVec
    (UnpackedFloat.pack .binary64 (UnpackedFloat.unpack .binary64 u.toBitVec)) = u
  rw [hpack]

def word (negative : Bool) (biased fraction : Nat) : Nat :=
  (if negative then twoTo 63 else 0) + biased * twoTo 52 + fraction

section
variable {negative : Bool} {biased fraction : Nat}

theorem fraction_word (hfraction : fraction < twoTo 52) :
    word negative biased fraction % twoTo 52 = fraction := by
  simp only [word, twoTo_52, twoTo_63] at *
  split <;> omega

variable (hbiased : biased < twoTo 11) (hfraction : fraction < twoTo 52)
include hbiased hfraction

theorem word_lt : word negative biased fraction < 18446744073709551616 := by
  simp only [word, twoTo_11, twoTo_52, twoTo_63] at *
  split <;> omega

theorem exponent_word : word negative biased fraction / twoTo 52 % twoTo 11 = biased := by
  simp only [word, twoTo_11, twoTo_52, twoTo_63] at *
  split <;> omega

theorem sign_word : decide (twoTo 63 ≤ word negative biased fraction) = negative := by
  simp only [word, twoTo_11, twoTo_52, twoTo_63] at *
  cases negative <;> simp <;> omega

/-- The bits of a double are its fields, unless it is no number. -/
theorem toBits_assemble (h : biased = 2047 → fraction = 0) :
    (assemble negative biased fraction).toBits.toNat = word negative biased fraction := by
  have hword : (UInt64.ofNat (word negative biased fraction)).toNat =
      word negative biased fraction :=
    UInt64.toNat_ofNat_of_lt (word_lt hbiased hfraction)
  change (Float.ofBits (UInt64.ofNat (word negative biased fraction))).toBits.toNat = _
  rw [toBits_ofBits, hword]
  rwa [hword, exponent_word hbiased hfraction, fraction_word hfraction]

end

end Walkthrough.Number.Binary64
