import Walkthrough.Proofs.Number.Binary64

/-!
The order of doubles: what an unpacked double stands for, and how the doubles that are not negative
are ordered by their places, which are integers.
-/
namespace Walkthrough.Number.Binary64
open Float.Model Float.Model.UnpackedFloat

def ofUnpacked : UnpackedFloat → Binary64
  | .notANumber => .nan
  | .infinity s => .infinite (s matches .negative)
  | .zero s => .finite (s matches .negative) 0 (-1074)
  | .finite s m e _ => .finite (s matches .negative) m e

variable (b : BitVec Format.binary64.numBits)

theorem unpackExponent_eq_ones_iff :
    unpackExponent b = -1#_ ↔ b.toNat / twoTo 52 % twoTo 11 = 2047 := by
  rw [← BitVec.toNat_inj, toNat_unpackExponent]
  rfl

theorem unpackExponent_eq_zero_iff :
    unpackExponent b = 0#_ ↔ b.toNat / twoTo 52 % twoTo 11 = 0 := by
  rw [← BitVec.toNat_inj, toNat_unpackExponent]
  rfl

theorem unpackMantissa_eq_zero_iff : unpackMantissa b = 0#_ ↔ b.toNat % twoTo 52 = 0 := by
  rw [← BitVec.toNat_inj, toNat_unpackMantissa]
  rfl

theorem unpackSign_negative :
    (Sign.ofBitVec (unpackSign b) matches .negative) = decide (twoTo 63 ≤ b.toNat) := by
  have hb := b.isLt
  have hsign : (unpackSign b).toNat = b.toNat / twoTo 63 % 2 := by
    simp [unpackSign, BitVec.extractLsb, BitVec.extractLsb'_toNat, Nat.shiftRight_eq_div_pow,
      twoTo_63]
  have hzero : unpackSign b = 0#1 ↔ b.toNat < twoTo 63 := by
    rw [← BitVec.toNat_inj, hsign, twoTo_63]
    change _ = 0 ↔ _
    have : b.toNat < 18446744073709551616 := hb
    omega
  unfold Sign.ofBitVec
  by_cases h : unpackSign b = 0#1
  · rw [if_pos h]
    simpa using hzero.mp h
  · rw [if_neg h]
    simpa using fun h' => h (hzero.mpr h')

theorem toNat_one_append (m : BitVec 52) : (1#1 ++ m).toNat = twoTo 52 + m.toNat := by
  rw [BitVec.toNat_append, ← Nat.shiftLeft_add_eq_or_of_lt m.isLt]
  rfl

theorem ofUnpacked_unpack :
    ofUnpacked (UnpackedFloat.unpack .binary64 b) =
      if b.toNat / twoTo 52 % twoTo 11 = 2047 then
        if b.toNat % twoTo 52 = 0 then .infinite (decide (twoTo 63 ≤ b.toNat)) else .nan
      else if b.toNat / twoTo 52 % twoTo 11 = 0 then
        .finite (decide (twoTo 63 ≤ b.toNat)) (b.toNat % twoTo 52) (-1074)
      else
        .finite (decide (twoTo 63 ≤ b.toNat)) (twoTo 52 + b.toNat % twoTo 52)
          ((b.toNat / twoTo 52 % twoTo 11 : Nat) - 1075) := by
  rw [← unpackSign_negative]
  unfold UnpackedFloat.unpack
  dsimp only
  by_cases hones : unpackExponent b = -1#_
  · rw [if_pos hones, if_pos ((unpackExponent_eq_ones_iff b).mp hones)]
    by_cases hfraction : unpackMantissa b = 0#_
    · rw [if_pos hfraction, if_pos ((unpackMantissa_eq_zero_iff b).mp hfraction)]
      rfl
    · rw [if_neg hfraction, if_neg (mt (unpackMantissa_eq_zero_iff b).mpr hfraction)]
      rfl
  · rw [if_neg hones, if_neg (mt (unpackExponent_eq_ones_iff b).mpr hones)]
    by_cases hzero : unpackExponent b = 0#_
    · have hexponent := (unpackExponent_eq_zero_iff b).mp hzero
      rw [if_pos hzero, if_pos hexponent]
      by_cases hfraction : unpackMantissa b = 0#_
      · rw [dif_pos hfraction, (unpackMantissa_eq_zero_iff b).mp hfraction]
        rfl
      · rw [dif_neg hfraction]
        simp only [ofUnpacked, toNat_unpackMantissa, toNat_unpackExponent, hexponent]
        rfl
    · rw [if_neg hzero, if_neg (mt (unpackExponent_eq_zero_iff b).mpr hzero)]
      simp only [ofUnpacked, toNat_one_append, toNat_unpackMantissa, toNat_unpackExponent]
      rfl

theorem ofFloat_eq_ofUnpacked (x : Float) : ofFloat x = ofUnpacked x.toModel.unpack :=
  (ofUnpacked_unpack x.toModel.toBits.toBitVec).symm

/-- The mantissa of a finite double and its exponent: the mantissa is as long as it can be. -/
structure IsCanonical (m : Nat) (e : Int) : Prop where
  least : -1074 ≤ e
  lt : m < twoTo 53
  le : -1074 < e → twoTo 52 ≤ m

/-- The place of `m * 2 ^ e` among the finite doubles that are not negative, in their order. -/
def place (m : Nat) (e : Int) : Nat := (e + 1074).toNat * twoTo 52 + m

section
variable {x y : Float} {negative : Bool} {m m' : Nat} {e e' : Int}

theorem isCanonical_of_ofFloat (h : ofFloat x = .finite negative m e) :
    IsCanonical m e ∧ place m e < 2047 * twoTo 52 := by
  have hfraction : x.toBits.toNat % twoTo 52 < twoTo 52 := Nat.mod_lt _ (twoTo_pos 52)
  have hbiased : x.toBits.toNat / twoTo 52 % twoTo 11 < twoTo 11 := Nat.mod_lt _ (twoTo_pos 11)
  simp only [ofFloat] at h
  generalize x.toBits.toNat % twoTo 52 = fraction at *
  generalize x.toBits.toNat / twoTo 52 % twoTo 11 = biased at *
  rw [twoTo_11] at hbiased
  split at h
  · split at h <;> cases h
  · split at h
    · cases h
      refine ⟨⟨Int.le_refl _, ?_, fun h => absurd h (by decide)⟩, ?_⟩
      · rw [twoTo_53]
        omega
      · simp only [place, twoTo_52] at *
        omega
    · cases h
      refine ⟨⟨by omega, ?_, fun _ => Nat.le_add_right _ _⟩, ?_⟩
      · rw [twoTo_53]
        omega
      · simp only [place, twoTo_52] at *
        omega

/-- Of two finite doubles the one in the earlier place has the smaller exponent, or the same one and
the smaller mantissa. -/
theorem lex_of_place_le (h : IsCanonical m e) (h' : IsCanonical m' e')
    (hplace : place m e ≤ place m' e') : e < e' ∨ e = e' ∧ m ≤ m' := by
  have hleast := h.least
  have hleast' := h'.least
  have hlt := h'.lt
  have hle := h.le
  simp only [place, twoTo_52, twoTo_53] at *
  omega

theorem place_eq_zero (h : -1074 ≤ e) : place m e = 0 ↔ m = 0 ∧ e = -1074 := by
  simp only [place, twoTo_52]
  omega

theorem le_iff_unpack : x ≤ y ↔ x.toModel.unpack.le y.toModel.unpack = true := by
  change decide (x.toModel.unpack.le y.toModel.unpack = true) = true ↔ _
  exact decide_eq_true_iff

theorem beq_eq_unpack : (x == y) = x.toModel.unpack.beq y.toModel.unpack := rfl

theorem isNaN_eq_unpack : x.isNaN = x.toModel.unpack.isNaN := rfl

theorem eq_positive {s : Sign} (h : (s matches .negative) = false) : s = .positive := by
  cases s with
  | positive => rfl
  | negative => simp at h

theorem eq_negative {s : Sign} (h : (s matches .negative) = true) : s = .negative := by
  cases s with
  | positive => simp at h
  | negative => rfl

/-- Doubles that are not negative are ordered as their places are. -/
theorem le_of_place_le (hx : ofFloat x = .finite false m e) (hy : ofFloat y = .finite false m' e')
    (h : place m e ≤ place m' e') : x ≤ y := by
  obtain ⟨hcanonical, -⟩ := isCanonical_of_ofFloat hx
  obtain ⟨hcanonical', -⟩ := isCanonical_of_ofFloat hy
  have hlex := lex_of_place_le hcanonical hcanonical' h
  rw [ofFloat_eq_ofUnpacked] at hx hy
  rw [le_iff_unpack]
  generalize x.toModel.unpack = u at *
  generalize y.toModel.unpack = v at *
  cases u <;> cases v <;> simp only [ofUnpacked, reduceCtorEq, finite.injEq] at hx hy
  case zero.zero => rfl
  case zero.finite s s' m₂ e₂ hm =>
    obtain rfl := eq_positive hy.1
    rfl
  case finite.zero s m₁ e₁ hm s' =>
    obtain ⟨-, rfl, rfl⟩ := hx
    obtain ⟨-, rfl, rfl⟩ := hy
    have hleast := hcanonical.least
    omega
  case finite.finite s m₁ e₁ hm s' m₂ e₂ hm' =>
    obtain ⟨hs, rfl, rfl⟩ := hx
    obtain ⟨hs', rfl, rfl⟩ := hy
    obtain rfl := eq_positive hs
    obtain rfl := eq_positive hs'
    change ((compare e₁ e₂).then (compare m₁ m₂)).isLE = true
    rw [Ordering.isLE_then_iff_or]
    rcases hlex with he | ⟨rfl, hm⟩
    · exact .inl (Int.compare_eq_lt.mpr he)
    · exact .inr ⟨Std.ReflCmp.compare_self, Nat.isLE_compare.mpr hm⟩

/-- Whether a number that is one is negative. -/
def sign? : Binary64 → Option Bool
  | .nan => none
  | .infinite negative => some negative
  | .finite negative _ _ => some negative

/-- A negative double is at most one that is not negative. -/
theorem le_of_sign (hx : (ofFloat x).sign? = some true) (hy : (ofFloat y).sign? = some false) :
    x ≤ y := by
  rw [ofFloat_eq_ofUnpacked] at hx hy
  rw [le_iff_unpack]
  generalize x.toModel.unpack = u at *
  generalize y.toModel.unpack = v at *
  -- equal zeros apart, the signs decide
  cases u <;> cases v <;> simp only [ofUnpacked, sign?, reduceCtorEq, Option.some.injEq] at hx hy
  case zero.zero => rfl
  all_goals
    obtain rfl := eq_negative hx
    obtain rfl := eq_positive hy
    rfl

theorem le_infinite (hx : ofFloat x ≠ .nan) (hy : ofFloat y = .infinite false) : x ≤ y := by
  rw [ofFloat_eq_ofUnpacked] at hx hy
  rw [le_iff_unpack]
  generalize x.toModel.unpack = u at *
  generalize y.toModel.unpack = v at *
  cases v <;> simp only [ofUnpacked, reduceCtorEq, infinite.injEq] at hy
  case infinity s' =>
    obtain rfl := eq_positive hy
    cases u with
    | notANumber => exact absurd rfl hx
    | infinity s => cases s <;> rfl
    | zero s => rfl
    | finite s m e hm => rfl

/-- What is not negative and below a finite double is finite. -/
theorem isFinite_of_le (hx : (ofFloat x).sign? = some false) (hy : isFinite y = true) (h : x ≤ y) :
    isFinite x = true := by
  rw [le_iff_unpack] at h
  simp only [isFinite, ofFloat_eq_ofUnpacked] at hx hy ⊢
  generalize x.toModel.unpack = u at *
  generalize y.toModel.unpack = v at *
  cases u with
  | notANumber => cases hx
  | zero s => rfl
  | finite s m e hm => rfl
  | infinity s =>
    obtain rfl : s = .positive := eq_positive (Option.some.inj hx)
    cases v with
    | notANumber => cases hy
    | infinity s => cases hy
    | zero s => cases h
    | finite s m e hm => cases h

theorem le_self (h : ofFloat x ≠ .nan) : x ≤ x := by
  rw [ofFloat_eq_ofUnpacked] at h
  rw [le_iff_unpack]
  generalize x.toModel.unpack = u at *
  cases u with
  | notANumber => exact absurd rfl h
  | infinity s => cases s <;> rfl
  | zero s => rfl
  | finite s m e hm => cases s <;> simp [UnpackedFloat.le, UnpackedFloat.compare]

theorem isNaN_iff : x.isNaN = true ↔ ofFloat x = .nan := by
  rw [ofFloat_eq_ofUnpacked, isNaN_eq_unpack]
  cases x.toModel.unpack <;> simp [UnpackedFloat.isNaN, ofUnpacked]

theorem beq_zero_iff : (x == 0.0) = true ↔ ∃ negative, ofFloat x = .finite negative 0 (-1074) := by
  have hzero : (0.0 : Float).toModel.unpack = .zero .positive := rfl
  rw [ofFloat_eq_ofUnpacked, beq_eq_unpack, hzero]
  cases x.toModel.unpack with
  | notANumber => simp [UnpackedFloat.beq, UnpackedFloat.compare, ofUnpacked]
  | infinity s => cases s <;> simp [UnpackedFloat.beq, UnpackedFloat.compare, ofUnpacked]
  | zero s => simp [UnpackedFloat.beq, UnpackedFloat.compare, ofUnpacked]
  | finite s m e hm =>
    cases s <;> simp [UnpackedFloat.beq, UnpackedFloat.compare, ofUnpacked] <;> omega

end

end Walkthrough.Number.Binary64
