import Walkthrough.Proofs.Number.Rounding

/-!
Division of doubles: the quotient of two finite doubles is the double nearest to the quotient of the
numbers they stand for.
-/
namespace Walkthrough.Number.Binary64
open Float.Model Float.Model.UnpackedFloat

/-- Where a number lies from a natural number up to the next one. -/
def Locates (q : ℚ) (m : ℕ) : Accuracy → Prop
  | .exact => q = m
  | .inexact .lt => (m : ℚ) < q ∧ 2 * q < 2 * m + 1
  | .inexact .eq => 2 * q = 2 * m + 1
  | .inexact .gt => 2 * (m : ℚ) + 1 < 2 * q ∧ q < m + 1

namespace Locates
variable {q : ℚ} {m : ℕ} {a : Accuracy}

theorem bounds (h : Locates q m a) : (m : ℚ) ≤ q ∧ q < m + 1 := by
  rcases a with _ | _ | _ | _ <;> simp only [Locates] at h <;> constructor <;> linarith

theorem rounds (h : Locates q m a) : RoundsTo q (a.roundToNearestEven m) := by
  rcases a with _ | _ | _ | _ <;> simp only [Locates] at h
  case exact =>
    rw [h]
    exact .natCast m
  case inexact.lt =>
    change RoundsTo q m
    constructor <;> intros <;> linarith
  case inexact.eq =>
    change RoundsTo q (m + m % 2)
    have heven : Even (m + m % 2) := Nat.even_iff.mpr (by omega)
    rcases Nat.mod_two_eq_zero_or_one m with hm | hm <;> rw [hm] at heven ⊢ <;>
      refine ⟨?_, fun _ => heven, ?_, fun _ => heven⟩ <;> push_cast <;> linarith
  case inexact.gt =>
    change RoundsTo q (m + 1)
    constructor <;> intros <;> push_cast at * <;> linarith

theorem ofFraction (num : ℕ) {den : ℕ} (hden : 0 < den) :
    Locates (num / den) (num / den : ℕ) (accuracyOfFraction (num % den) den) := by
  have hpos : (0 : ℚ) < den := by exact_mod_cast hden
  have hdiv : (num : ℚ) / den = (num / den : ℕ) + (num % den : ℕ) / den := by
    have hnum : (num : ℚ) = den * (num / den : ℕ) + (num % den : ℕ) := by
      exact_mod_cast (Nat.div_add_mod num den).symm
    rw [hnum]
    field_simp
  have hlt : ((num % den : ℕ) : ℚ) < den := by exact_mod_cast Nat.mod_lt num hden
  rw [hdiv]
  generalize num % den = r at *
  generalize num / den = m at *
  unfold accuracyOfFraction
  by_cases hr : r = 0
  · rw [if_pos hr, hr, Nat.cast_zero, zero_div, add_zero]
    rfl
  · have hrpos : (0 : ℚ) < r / den := by
      have : (0 : ℚ) < r := by exact_mod_cast Nat.pos_of_ne_zero hr
      positivity
    have hrlt : (r : ℚ) / den < 1 := (div_lt_one hpos).mpr hlt
    have hhalf : (r : ℚ) / den * den = r := div_mul_cancel₀ _ hpos.ne'
    rw [if_neg hr]
    cases hc : compare (2 * r) den with
    | lt =>
      have h2 : (2 * r : ℚ) < den := by exact_mod_cast Nat.compare_eq_lt.mp hc
      constructor
      · linarith
      · nlinarith
    | eq =>
      have h2 : (2 * r : ℚ) = den := by exact_mod_cast Nat.compare_eq_eq.mp hc
      change 2 * ((m : ℚ) + r / den) = 2 * m + 1
      have hr2 : 2 * ((r : ℚ) / den) = 1 := by
        rw [← h2]
        field_simp
      linarith
    | gt =>
      have h2 : (den : ℚ) < 2 * r := by exact_mod_cast Nat.compare_eq_gt.mp hc
      constructor
      · nlinarith
      · linarith

end Locates

/-- What an extended mantissa tells about a number. -/
def Describes (em : ExtendedMantissa) (q : ℚ) : Prop := Locates q em.mantissa em.accuracy

namespace Describes
variable {em : ExtendedMantissa} {q : ℚ}

theorem ofMantissaAndAccuracy {m : ℕ} {a : Accuracy} (h : Locates q m a) :
    Describes (.ofMantissaAndAccuracy m a) q := by
  rcases a with _ | _ | _ | _ <;> exact h

theorem shiftRightOne (h : Describes em q) : Describes em.shiftRightOne (q / 2) := by
  obtain ⟨m, r, s⟩ := em
  have hm : (m : ℚ) = 2 * (m / 2 : ℕ) + (m % 2 : ℕ) := by
    exact_mod_cast (Nat.div_add_mod m 2).symm
  unfold Describes at h ⊢
  unfold ExtendedMantissa.shiftRightOne
  generalize m / 2 = k at *
  rcases Nat.mod_two_eq_zero_or_one m with hr | hr <;> rw [hr] at hm ⊢ <;> cases r <;> cases s <;>
    simp [Locates, ExtendedMantissa.accuracy] at h hm ⊢ <;> grind

theorem shiftRight (h : Describes em q) (n : ℕ) : Describes (em >>> n) (q / 2 ^ n) := by
  induction n with
  | zero =>
    rw [pow_zero, div_one]
    exact h
  | succ n ih =>
    rw [pow_succ, ← div_div]
    exact ih.shiftRightOne

end Describes

theorem targetExponent_eq (x : ℤ) :
    Format.binary64.targetExponent x = max (x - 53) (-1074) := rfl

theorem le_log2 {m k : ℕ} (h : twoTo k ≤ m) : k ≤ m.log2 :=
  (Nat.le_log2 (Nat.ne_of_gt (Nat.lt_of_lt_of_le (twoTo_pos k) h))).mpr h

/-- Shifting to the exponent at which doubles are spaced, and rounding there, gives the double
nearest to the number, if no bits that are needed have been lost before. -/
theorem isNearest_shift {q : ℚ} {m : ℕ} {e : ℤ} {a : Accuracy} (h : Locates q m a)
    (hfits : twoTo 52 ≤ m ∨ e ≤ -1074) :
    IsNearest (q * 2 ^ e) (shiftToTargetExponent .binary64 m e a).1.roundedMantissa
      (shiftToTargetExponent .binary64 m e a).2 := by
  obtain ⟨hlow, hhigh⟩ := h.bounds
  have hmono {d e : ℤ} (h : d ≤ e) : (2 : ℚ) ^ d ≤ 2 ^ e := zpow_le_zpow_right₀ (by norm_num) h
  have hlog : 52 ≤ m.log2 ∨ e ≤ -1074 := hfits.imp_left le_log2
  unfold shiftToTargetExponent shiftToExponent
  dsimp only
  rw [targetExponent_eq, totalExponent]
  obtain ⟨k, hk⟩ : ∃ k : ℕ, k = (max ((m.log2 : ℤ) + 1 + e - 53) (-1074) - e).toNat := ⟨_, rfl⟩
  rw [← hk]
  refine ⟨by omega, ?_, fun hnormal => ?_, ?_⟩
  · have hsucc : (m : ℚ) + 1 ≤ 2 ^ ((m.log2 : ℤ) + 1) := by
      have hlt : m + 1 ≤ twoTo (m.log2 + 1) := lt_twoTo_log2 m
      rw [← Nat.cast_succ, ← Nat.cast_succ, zpow_natCast, ← cast_twoTo]
      exact_mod_cast hlt
    calc q * 2 ^ e < 2 ^ ((m.log2 : ℤ) + 1) * 2 ^ e :=
          mul_lt_mul_of_pos_right (hhigh.trans_le hsucc) (two_zpow_pos e)
      _ = 2 ^ ((m.log2 : ℤ) + 1 + e) := (zpow_add₀ (by norm_num) _ _).symm
      _ ≤ 2 ^ (e + k + 53) := hmono (by omega)
  · have hm : m ≠ 0 := by
      rintro rfl
      rw [Nat.log2_zero] at *
      omega
    calc (2 : ℚ) ^ (e + k + 52) ≤ 2 ^ ((m.log2 : ℤ) + e) := hmono (by omega)
      _ = 2 ^ (m.log2 : ℤ) * 2 ^ e := zpow_add₀ (by norm_num) _ _
      _ ≤ q * 2 ^ e :=
          mul_le_mul_of_nonneg_right ((log2_bounds hm).1.trans hlow) (two_zpow_pos e).le
  · have hround := ((Describes.ofMantissaAndAccuracy h).shiftRight k).rounds
    have hscale : q * 2 ^ e / 2 ^ (e + k) = q / 2 ^ k := by
      rw [zpow_add₀ (by norm_num), zpow_natCast, mul_comm q,
        mul_div_mul_left _ _ (two_zpow_pos e).ne']
    rw [hscale]
    exact hround

theorem shiftToTargetExponent_exact {m : ℕ} {e : ℤ} (hm : m < twoTo 53) (he : -1074 ≤ e) :
    shiftToTargetExponent .binary64 m e .exact = (⟨m, false, false⟩, e) := by
  have hlog : m.log2 ≤ 52 := by
    by_cases hzero : m = 0
    · rw [hzero, Nat.log2_zero]
      omega
    · exact Nat.le_of_lt_succ ((Nat.log2_lt hzero).mpr hm)
  have hstay : (max ((m.log2 : ℤ) + 1 + e - 53) (-1074) - e).toNat = 0 := by omega
  unfold shiftToTargetExponent shiftToExponent
  dsimp only
  rw [targetExponent_eq, totalExponent, hstay]
  exact Prod.ext rfl (Int.add_zero e)

theorem shiftToTargetExponent_carry {e : ℤ} (he : -1074 ≤ e) :
    shiftToTargetExponent .binary64 (twoTo 53) e .exact = (⟨twoTo 52, false, false⟩, e + 1) := by
  have hlog : (twoTo 53).log2 = 53 := Nat.log2_two_pow
  have hone : (max (((twoTo 53).log2 : ℤ) + 1 + e - 53) (-1074) - e).toNat = 1 := by omega
  unfold shiftToTargetExponent shiftToExponent
  dsimp only
  rw [targetExponent_eq, totalExponent, hone]
  rfl

theorem toNat_packComponents (s : Sign) (exponent : BitVec 11) (mantissa : BitVec 52) :
    (packComponents .binary64 s exponent mantissa).toNat =
      word (s matches .negative) exponent.toNat mantissa.toNat := by
  unfold packComponents
  rw [BitVec.toNat_append, BitVec.toNat_append, ← Nat.shiftLeft_add_eq_or_of_lt exponent.isLt,
    ← Nat.shiftLeft_add_eq_or_of_lt mantissa.isLt]
  cases s <;> simp [word, Sign.toBitVec, Nat.shiftLeft_eq, twoTo_52, twoTo_63]; omega

def packed (u : UnpackedFloat) : Float := .ofModel (.pack u)

theorem toBits_packed (u : UnpackedFloat) :
    (packed u).toBits.toNat = (UnpackedFloat.pack .binary64 u).toNat := rfl

theorem isAt_packed_zero (s : Sign) : IsAt (s matches .negative) 0 (packed (.zero s)) := by
  refine isAt_of_word (twoTo_pos 11) (twoTo_pos 52) ?_ rfl
  exact toNat_packComponents s 0#_ 0#_

theorem pack_finite (s : Sign) (m : ℕ) (e : ℤ) (hm : 0 < m) :
    UnpackedFloat.pack .binary64 (.finite s m e hm) =
      if 2048 ≤ (e + 1075).toNat + 1 then packComponents .binary64 s (-1#_) 0
      else if m.log2 + 1 = 53 then
        packComponents .binary64 s (BitVec.ofNat 11 (e + 1075).toNat) (BitVec.ofNat 52 m)
      else packComponents .binary64 s 0#_ (BitVec.ofNat 52 m) := by
  rw [show e + 1075 = e + 1023 + 52 by omega]
  rfl

/-- A canonical number is packed at its place, beyond all others if it is too large. -/
theorem isAt_packed {s : Sign} {m : ℕ} {e : ℤ} (h : IsCanonical m e) (hm : 0 < m) :
    IsAt (s matches .negative) (place m e) (packed (.finite s m e hm)) := by
  have hleast := h.least
  have hlt := h.lt
  have hle := h.le
  have hbits := toBits_packed (.finite s m e hm)
  rw [pack_finite] at hbits
  split at hbits
  · rw [toNat_packComponents] at hbits
    refine isAt_of_word (by decide) (twoTo_pos 52) hbits ?_
    change 2047 * twoTo 52 + 0 = _
    simp only [place, twoTo_52] at *
    omega
  · split at hbits
    next hlog =>
      have hnormal : twoTo 52 ≤ m := by
        have hpow := twoTo_log2_le (Nat.ne_of_gt hm)
        rwa [show m.log2 = 52 by omega] at hpow
      rw [toNat_packComponents, BitVec.toNat_ofNat, BitVec.toNat_ofNat] at hbits
      refine isAt_of_word (Nat.mod_lt _ (by decide)) (Nat.mod_lt _ (by decide)) hbits ?_
      simp only [place, twoTo_11, twoTo_52, twoTo_53] at *
      omega
    next hlog =>
      have hsubnormal : m < twoTo 52 := by
        by_contra hge
        have hlow := le_log2 (Nat.not_lt.mp hge)
        have hhigh := (Nat.log2_lt (Nat.ne_of_gt hm)).mpr hlt
        omega
      rw [toNat_packComponents, BitVec.toNat_ofNat m 52,
        Nat.mod_eq_of_lt (show m < 2 ^ 52 from hsubnormal)] at hbits
      refine isAt_of_word (twoTo_pos 11) hsubnormal hbits ?_
      simp only [place, twoTo_52] at *
      omega

/-- A number that lies where an accuracy says is rounded to the nearest double. -/
theorem isNearestDouble_roundWithAccuracy (s : Sign) {q : ℚ} {m : ℕ} {e : ℤ} {a : Accuracy}
    (h : Locates q m a) (hfits : twoTo 52 ≤ m ∨ e ≤ -1074) :
    IsNearestDouble (q * 2 ^ e) (s matches .negative)
      (packed (roundWithAccuracy .binary64 s m e a)) := by
  have hnearest := isNearest_shift h hfits
  refine ⟨_, _, hnearest, ?_⟩
  have hleast := hnearest.least
  have hle := hnearest.le_twoTo
  have hge := hnearest.twoTo_le
  unfold roundWithAccuracy
  dsimp only
  generalize shiftToTargetExponent .binary64 m e a = first at *
  obtain ⟨em, e⟩ := first
  dsimp only at *
  generalize em.roundedMantissa = r at *
  by_cases hcarry : r = twoTo 53
  · subst hcarry
    have hplace : place (twoTo 53) e = place (twoTo 52) (e + 1) := by
      simp only [place, twoTo_53]
      rw [show (e + 1 + 1074).toNat = (e + 1074).toNat + 1 by omega, Nat.add_mul]
      omega
    simp only [shiftToTargetExponent_carry hleast]
    rw [dif_neg (Nat.ne_of_gt (twoTo_pos 52)), hplace]
    exact isAt_packed ⟨by omega, by decide, fun _ => Nat.le_refl _⟩ (twoTo_pos 52)
  · have hlt : r < twoTo 53 := by omega
    simp only [shiftToTargetExponent_exact hlt hleast]
    by_cases hzero : r = 0
    · have hlast : ¬-1074 < e := by
        intro he
        have hlow := hge he
        have hpos := twoTo_pos 52
        omega
      obtain rfl : e = -1074 := by omega
      rw [dif_pos hzero, hzero]
      exact isAt_packed_zero s
    · rw [dif_neg hzero]
      exact isAt_packed ⟨hleast, hlt, hge⟩ (Nat.pos_of_ne_zero hzero)

/-- Division begins with as many bits of the quotient as rounding needs. -/
theorem divCore_fits {m m' : ℕ} {e e' : ℤ} (hm : 0 < m) (hm' : 0 < m') :
    ∃ q, Locates q (divCore .binary64 m e m' e').1 (divCore .binary64 m e m' e').2.2 ∧
      q * 2 ^ (divCore .binary64 m e m' e').2.1 = (m : ℚ) * 2 ^ e / (m' * 2 ^ e') ∧
      (twoTo 52 ≤ (divCore .binary64 m e m' e').1 ∨ (divCore .binary64 m e m' e').2.1 ≤ -1074) := by
  unfold divCore totalExponent
  dsimp only
  rw [targetExponent_eq]
  generalize ht : min (e - e') (max ((m.log2 : ℤ) + 1 + e - (m'.log2 + 1 + e') - 53) (-1074)) = t
  obtain ⟨k, hk⟩ : ∃ k : ℕ, (k : ℤ) = e - e' - t := ⟨(e - e' - t).toNat, by omega⟩
  rw [← hk, Int.toNat_natCast, Nat.shiftLeft_eq]
  refine ⟨_, .ofFraction (m * 2 ^ k) hm', ?_, ?_⟩
  · have hsplit : (2 : ℚ) ^ e = 2 ^ k * 2 ^ t * 2 ^ e' := by
      rw [← zpow_natCast, ← zpow_add₀ (by norm_num), ← zpow_add₀ (by norm_num)]
      congr 1
      omega
    rw [hsplit, ← mul_assoc, mul_div_mul_right _ _ (two_zpow_pos e').ne', Nat.cast_mul,
      Nat.cast_pow, Nat.cast_ofNat]
    ring
  · by_cases hlow : t ≤ -1074
    · exact .inr hlow
    · left
      have hlog : m'.log2 + 53 ≤ m.log2 + k := by omega
      rw [Nat.le_div_iff_mul_le hm']
      calc twoTo 52 * m' ≤ twoTo 52 * twoTo (m'.log2 + 1) :=
            Nat.mul_le_mul_left _ (lt_twoTo_log2 m').le
        _ = twoTo (m'.log2 + 53) := by
            rw [← twoTo_add]
            congr 1
            omega
        _ ≤ twoTo (m.log2 + k) := Nat.pow_le_pow_right (by decide) hlog
        _ = twoTo m.log2 * 2 ^ k := twoTo_add m.log2 k
        _ ≤ m * 2 ^ k := Nat.mul_le_mul_right _ (twoTo_log2_le (Nat.ne_of_gt hm))

/-- The quotient of two finite doubles is the double nearest to that of their numbers. -/
theorem isNearestDouble_div {x y : Float} {negative : Bool} {m m' : ℕ} {e e' : ℤ}
    (hx : ofFloat x = .finite negative m e) (hy : ofFloat y = .finite false m' e') (hm' : m' ≠ 0) :
    IsNearestDouble ((m : ℚ) * 2 ^ e / (m' * 2 ^ e')) negative (x / y) := by
  rw [ofFloat_eq_ofUnpacked] at hx hy
  change IsNearestDouble _ _ (packed (.div .binary64 x.toModel.unpack y.toModel.unpack))
  generalize x.toModel.unpack = u at *
  generalize y.toModel.unpack = v at *
  cases u <;> cases v <;> simp only [ofUnpacked, reduceCtorEq, finite.injEq] at hx hy
  case zero.zero => omega
  case finite.zero => omega
  case zero.finite s s' m₂ e₂ hm₂ =>
    obtain ⟨rfl, rfl, rfl⟩ := hx
    obtain rfl := eq_positive hy.1
    rw [Nat.cast_zero, zero_mul, zero_div]
    cases s
    · exact ⟨0, -1074, isNearest_zero, isAt_packed_zero .negative⟩
    · exact ⟨0, -1074, isNearest_zero, isAt_packed_zero .positive⟩
  case finite.finite s m₁ e₁ hm₁ s' m₂ e₂ hm₂ =>
    obtain ⟨rfl, rfl, rfl⟩ := hx
    obtain ⟨hs, rfl, rfl⟩ := hy
    obtain rfl := eq_positive hs
    obtain ⟨q, hlocates, hvalue, hfits⟩ := @divCore_fits m₁ m₂ e₁ e₂ hm₁ hm₂
    rw [← hvalue]
    cases s
    · exact isNearestDouble_roundWithAccuracy .negative hlocates hfits
    · exact isNearestDouble_roundWithAccuracy .positive hlocates hfits

end Walkthrough.Number.Binary64
