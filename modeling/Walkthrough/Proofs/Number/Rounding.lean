import Walkthrough.Proofs.Number.Order

/-!
Rounding to the nearest double: which mantissa and exponent a rational number gets, and that of two
numbers the smaller one gets the smaller double. A quotient of integers is rounded so, and an
integer lies on the same side of zero as its double.
-/
namespace Walkthrough.Number

theorem cast_twoTo (n : ℕ) : (twoTo n : ℚ) = 2 ^ n := Nat.cast_pow 2 n

/-- The natural number is the one nearest to `q`, the even one of two that are equally near. -/
structure RoundsTo (q : ℚ) (m : ℕ) : Prop where
  le_above : 2 * q ≤ 2 * m + 1
  even_of_above : 2 * q = 2 * m + 1 → Even m
  below_le : 2 * (m : ℚ) ≤ 2 * q + 1
  even_of_below : 2 * (m : ℚ) = 2 * q + 1 → Even m

namespace RoundsTo

theorem natCast (m : ℕ) : RoundsTo m m where
  le_above := by linarith
  even_of_above h := by linarith
  below_le := by linarith
  even_of_below h := by linarith

/-- Rounding keeps the order: two numbers next to each other are not both even. -/
theorem mono {q q' : ℚ} {m m' : ℕ} (h : RoundsTo q m) (h' : RoundsTo q' m') (hq : q ≤ q') :
    m ≤ m' := by
  by_contra hm
  have hsucc : m' + 1 ≤ m := by omega
  have hcast : (m' : ℚ) + 1 ≤ m := by exact_mod_cast hsucc
  have hbelow := h.below_le
  have habove := h'.le_above
  have heven : Even m := h.even_of_below (by linarith)
  have heven' : Even m' := h'.even_of_above (by linarith)
  have hnext : m = m' + 1 := by
    have : (m : ℚ) = m' + 1 := by linarith
    exact_mod_cast this
  rw [hnext] at heven
  exact (Nat.even_add_one.mp heven) heven'

theorem div {num den m : ℕ} (hden : 0 < den) (habove : 2 * num ≤ 2 * (den * m) + den)
    (heven : 2 * num = 2 * (den * m) + den → Even m) (hbelow : 2 * (den * m) ≤ 2 * num + den)
    (heven' : 2 * (den * m) = 2 * num + den → Even m) : RoundsTo (num / den) m := by
  have hpos : (0 : ℚ) < den := by exact_mod_cast hden
  have hnum : (num : ℚ) = den * (num / den) := by field_simp
  constructor
  · have h : 2 * (num : ℚ) ≤ 2 * (den * m) + den := by exact_mod_cast habove
    rw [hnum] at h
    exact le_of_mul_le_mul_left (by linarith) hpos
  · intro hq
    refine heven ?_
    have h : 2 * (num : ℚ) = 2 * (den * m) + den := by
      rw [hnum]
      linear_combination (den : ℚ) * hq
    exact_mod_cast h
  · have h : 2 * (den * m : ℚ) ≤ 2 * num + den := by exact_mod_cast hbelow
    rw [hnum] at h
    exact le_of_mul_le_mul_left (by linarith) hpos
  · intro hq
    refine heven' ?_
    have h : 2 * (den * m : ℚ) = 2 * num + den := by
      rw [hnum]
      linear_combination (den : ℚ) * hq
    exact_mod_cast h

theorem roundDiv (num : ℕ) {den : ℕ} (hden : 0 < den) :
    RoundsTo (num / den) (Binary64.roundDiv num den) := by
  have hdiv := Nat.div_add_mod num den
  have hmod := Nat.mod_lt num hden
  unfold Binary64.roundDiv
  dsimp only
  have hsucc : den * (num / den + 1) = den * (num / den) + den := Nat.mul_succ _ _
  by_cases hlt : 2 * (num % den) < den
  · rw [if_pos hlt]
    exact div hden (by omega) (by omega) (by omega) (by omega)
  · rw [if_neg hlt]
    by_cases hgt : den < 2 * (num % den)
    · rw [if_pos hgt]
      exact div hden (by omega) (by omega) (by omega) (by omega)
    · rw [if_neg hgt]
      rcases Nat.mod_two_eq_zero_or_one (num / den) with hq | hq
      · rw [hq, Nat.add_zero]
        have heven := Nat.even_iff.mpr hq
        exact div hden (by omega) (fun _ => heven) (by omega) (fun _ => heven)
      · rw [hq]
        have heven : Even (num / den + 1) := Nat.even_iff.mpr (by omega)
        exact div hden (by omega) (fun _ => heven) (by omega) (fun _ => heven)

end RoundsTo

namespace Binary64

/-- `m * 2 ^ e` is the double nearest to `q`, were there no bound above: `e` is the exponent that
the doubles around `q` have, and `m` may have carried beyond 53 bits. -/
structure IsNearest (q : ℚ) (m : ℕ) (e : ℤ) : Prop where
  least : -1074 ≤ e
  lt : q < 2 ^ (e + 53)
  le : -1074 < e → 2 ^ (e + 52) ≤ q
  rounded : RoundsTo (q / 2 ^ e) m

theorem two_zpow_pos (e : ℤ) : (0 : ℚ) < 2 ^ e := zpow_pos (by norm_num) e

theorem two_zpow_lt {d e : ℤ} (h : (2 : ℚ) ^ d < 2 ^ e) : d < e :=
  (zpow_lt_zpow_iff_right₀ (by norm_num)).mp h

namespace IsNearest
variable {q q' : ℚ} {m m' : ℕ} {e e' : ℤ}

theorem le_twoTo (h : IsNearest q m e) : m ≤ twoTo 53 := by
  refine h.rounded.mono (.natCast _) ?_
  have hlt := h.lt
  rw [zpow_add₀ (by norm_num)] at hlt
  rw [cast_twoTo, div_le_iff₀ (two_zpow_pos e), mul_comm]
  exact hlt.le

theorem twoTo_le (h : IsNearest q m e) (he : -1074 < e) : twoTo 52 ≤ m := by
  refine RoundsTo.mono (.natCast _) h.rounded ?_
  have hle := h.le he
  rw [zpow_add₀ (by norm_num)] at hle
  rw [cast_twoTo, le_div_iff₀ (two_zpow_pos e), mul_comm]
  exact hle

/-- A number from one on has a mantissa of full length. -/
theorem twoTo_le_of_one_le (h : IsNearest q m e) (hq : 1 ≤ q) : twoTo 52 ≤ m := by
  refine h.twoTo_le ?_
  by_contra he
  have hsmall : (2 : ℚ) ^ (e + 53) ≤ 1 :=
    zpow_le_one_of_nonpos₀ (by norm_num) (by omega)
  exact absurd (hq.trans_lt h.lt) (not_lt.mpr hsmall)

/-- Of two numbers the larger one is not rounded to an earlier place. -/
theorem place_mono (h : IsNearest q m e) (h' : IsNearest q' m' e') (hq : q ≤ q') :
    place m e ≤ place m' e' := by
  have hleast := h.least
  have hleast' := h'.least
  have hexponent : e ≤ e' := by
    by_contra he
    have hlow := h.le (by omega)
    have hpow : (2 : ℚ) ^ (e + 52) < 2 ^ (e' + 53) := lt_of_le_of_lt (hlow.trans hq) h'.lt
    have := two_zpow_lt hpow
    omega
  rcases hexponent.lt_or_eq with he | rfl
  · -- a carry to 53 bits is the first mantissa of the next exponent
    have hm := h.le_twoTo
    have hm' := h'.twoTo_le (by omega)
    simp only [place, twoTo_52, twoTo_53] at *
    omega
  · have hm : m ≤ m' := by
      refine h.rounded.mono h'.rounded ?_
      exact div_le_div_of_nonneg_right hq (two_zpow_pos e).le
    exact Nat.add_le_add_left hm _

end IsNearest

theorem scaledMantissa_rounds (num : ℕ) {den : ℕ} (hden : 0 < den) (e : ℤ) :
    RoundsTo (num / den / 2 ^ e) (scaledMantissa num den e) := by
  unfold scaledMantissa
  split
  next he =>
    obtain ⟨k, rfl⟩ := Int.eq_ofNat_of_zero_le he
    have hround := RoundsTo.roundDiv num (Nat.mul_pos hden (twoTo_pos k))
    rw [Nat.cast_mul, cast_twoTo, ← div_div] at hround
    exact_mod_cast hround
  next he =>
    obtain ⟨k, hk⟩ := Int.eq_ofNat_of_zero_le (Int.neg_nonneg.mpr (Int.le_of_lt (Int.not_le.mp he)))
    obtain rfl : e = -(k : ℤ) := by omega
    have hround := RoundsTo.roundDiv (num * twoTo k) hden
    rw [Nat.cast_mul, cast_twoTo] at hround
    rw [zpow_neg, zpow_natCast, div_inv_eq_mul, div_mul_eq_mul_div, hk]
    exact hround

theorem two_zpow_eq (e : ℤ) : (2 : ℚ) ^ e = twoTo e.toNat / twoTo (-e).toNat := by
  rw [cast_twoTo, cast_twoTo, ← zpow_natCast, ← zpow_natCast, ← zpow_sub₀ (by norm_num)]
  congr 1
  omega

theorem log2_bounds {n : ℕ} (hn : n ≠ 0) :
    (2 : ℚ) ^ (n.log2 : ℤ) ≤ n ∧ (n : ℚ) < 2 ^ ((n.log2 : ℤ) + 1) := by
  constructor
  · rw [zpow_natCast, ← cast_twoTo]
    exact_mod_cast twoTo_log2_le hn
  · have hlt := lt_twoTo_log2 n
    rw [← Nat.cast_succ, zpow_natCast, ← cast_twoTo]
    exact_mod_cast hlt

/-- A quotient has the logarithm that the two logarithms give, or one less. -/
theorem div_bounds {num den : ℕ} (hnum : num ≠ 0) (hden : den ≠ 0) :
    (2 : ℚ) ^ ((num.log2 : ℤ) - den.log2 - 1) < num / den ∧
      (num / den : ℚ) < 2 ^ ((num.log2 : ℤ) - den.log2 + 1) := by
  obtain ⟨hnum_le, hnum_lt⟩ := log2_bounds hnum
  obtain ⟨hden_le, hden_lt⟩ := log2_bounds hden
  have hpos : (0 : ℚ) < den := by exact_mod_cast Nat.pos_of_ne_zero hden
  constructor
  · rw [lt_div_iff₀ hpos]
    calc (2 : ℚ) ^ ((num.log2 : ℤ) - den.log2 - 1) * den
        < 2 ^ ((num.log2 : ℤ) - den.log2 - 1) * 2 ^ ((den.log2 : ℤ) + 1) :=
          mul_lt_mul_of_pos_left hden_lt (two_zpow_pos _)
      _ = 2 ^ (num.log2 : ℤ) := by
          rw [← zpow_add₀ (by norm_num)]
          congr 1
          omega
      _ ≤ num := hnum_le
  · rw [div_lt_iff₀ hpos]
    calc (num : ℚ) < 2 ^ ((num.log2 : ℤ) + 1) := hnum_lt
      _ = 2 ^ ((num.log2 : ℤ) - den.log2 + 1) * 2 ^ (den.log2 : ℤ) := by
          rw [← zpow_add₀ (by norm_num)]
          congr 1
          omega
      _ ≤ 2 ^ ((num.log2 : ℤ) - den.log2 + 1) * den :=
          mul_le_mul_of_nonneg_left hden_le (two_zpow_pos _).le

theorem scaled_lt_iff {num den : ℕ} (hden : den ≠ 0) (e : ℤ) :
    num * twoTo (-e).toNat < den * twoTo (52 + e.toNat) ↔ (num / den : ℚ) < 2 ^ (e + 52) := by
  have hpos : (0 : ℚ) < den := by exact_mod_cast Nat.pos_of_ne_zero hden
  have htwo : (0 : ℚ) < twoTo (-e).toNat := by exact_mod_cast twoTo_pos _
  have hpow : (2 : ℚ) ^ (e + 52) = twoTo (52 + e.toNat) / twoTo (-e).toNat := by
    rw [zpow_add₀ (by norm_num), two_zpow_eq e, twoTo_add, Nat.cast_mul, cast_twoTo 52]
    ring
  rw [hpow, div_lt_div_iff₀ hpos htwo, mul_comm (twoTo (52 + e.toNat) : ℚ)]
  exact_mod_cast Iff.rfl

theorem exponentFor_fits {num den : ℕ} (hnum : num ≠ 0) (hden : den ≠ 0) :
    -1074 ≤ exponentFor num den ∧ (num / den : ℚ) < 2 ^ (exponentFor num den + 53) ∧
      (-1074 < exponentFor num den → 2 ^ (exponentFor num den + 52) ≤ (num / den : ℚ)) := by
  obtain ⟨hlow, hhigh⟩ := div_bounds hnum hden
  have hmono {d e : ℤ} (h : d ≤ e) : (2 : ℚ) ^ d ≤ 2 ^ e := zpow_le_zpow_right₀ (by norm_num) h
  unfold exponentFor
  simp only [scaled_lt_iff hden]
  generalize hE : (num.log2 : ℤ) - den.log2 - 52 = E
  split
  next hbelow =>
    refine ⟨le_max_right _ _, hbelow.trans_le (hmono (by omega)), fun hmax => ?_⟩
    exact (hmono (by omega)).trans hlow.le
  next habove =>
    refine ⟨le_max_right _ _, hhigh.trans_le (hmono (by omega)), fun hmax => ?_⟩
    exact (hmono (by omega)).trans (not_lt.mp habove)

theorem isNearest_scaledMantissa {num den : ℕ} (hnum : num ≠ 0) (hden : den ≠ 0) :
    IsNearest (num / den) (scaledMantissa num den (exponentFor num den)) (exponentFor num den) := by
  obtain ⟨hleast, hlt, hle⟩ := exponentFor_fits hnum hden
  exact ⟨hleast, hlt, hle, scaledMantissa_rounds num (Nat.pos_of_ne_zero hden) _⟩

/-- The double of a sign at a place; beyond the last finite one there is the infinite one. -/
def IsAt (negative : Bool) (p : ℕ) (x : Float) : Prop :=
  (2047 * twoTo 52 ≤ p ∧ ofFloat x = .infinite negative) ∨
    ∃ m e, ofFloat x = .finite negative m e ∧ place m e = p

theorem isAt_of_word {negative : Bool} {biased fraction p : ℕ} {x : Float}
    (hbiased : biased < twoTo 11) (hfraction : fraction < twoTo 52)
    (hx : x.toBits.toNat = word negative biased fraction)
    (hp : biased * twoTo 52 + fraction = min p (2047 * twoTo 52)) : IsAt negative p x := by
  have hfields : (biased = 2047 ∧ fraction = 0 ∧ 2047 * twoTo 52 ≤ p) ∨
      (biased ≠ 2047 ∧ biased * twoTo 52 + fraction = p) := by
    simp only [twoTo_11, twoTo_52] at *
    omega
  unfold IsAt
  simp only [ofFloat, hx, exponent_word hbiased hfraction, fraction_word hfraction,
    sign_word hbiased hfraction]
  rcases hfields with ⟨hones, hnone, hbeyond⟩ | ⟨hones, hplace⟩
  · rw [if_pos hones, if_pos hnone]
    exact .inl ⟨hbeyond, rfl⟩
  · rw [if_neg hones]
    by_cases hzero : biased = 0
    · rw [if_pos hzero]
      refine .inr ⟨fraction, -1074, rfl, ?_⟩
      rw [← hplace, hzero]
      rfl
    · rw [if_neg hzero]
      refine .inr ⟨twoTo 52 + fraction, biased - 1075, rfl, ?_⟩
      have hexponent : biased = ((biased : ℤ) - 1075 + 1074).toNat + 1 := by omega
      calc place (twoTo 52 + fraction) (biased - 1075)
          = (((biased : ℤ) - 1075 + 1074).toNat + 1) * twoTo 52 + fraction := by
            rw [place, Nat.add_mul]
            omega
        _ = p := by rw [← hexponent, hplace]

theorem isAt_assemble {negative : Bool} {biased fraction p : ℕ} (hbiased : biased < twoTo 11)
    (hfraction : fraction < twoTo 52)
    (hp : biased * twoTo 52 + fraction = min p (2047 * twoTo 52)) :
    IsAt negative p (assemble negative biased fraction) := by
  refine isAt_of_word hbiased hfraction (toBits_assemble hbiased hfraction fun h => ?_) hp
  rw [h] at hp
  omega

/-- The double nearest to a quotient is at the place to which the quotient is rounded. -/
theorem isAt_ofRatio (negative : Bool) {num den : ℕ} (hnum : num ≠ 0) (hden : den ≠ 0) :
    IsAt negative (place (scaledMantissa num den (exponentFor num den)) (exponentFor num den))
      (ofRatio negative num den) := by
  have hnearest := isNearest_scaledMantissa hnum hden
  have hleast := hnearest.least
  have hle := hnearest.le_twoTo
  have hge := hnearest.twoTo_le
  unfold ofRatio
  rw [if_neg hnum]
  dsimp only
  generalize scaledMantissa num den (exponentFor num den) = m at *
  generalize exponentFor num den = e at *
  rw [twoTo_53] at hle
  by_cases hcarry : m = twoTo 53
  · simp only [if_pos hcarry]
    rw [twoTo_53] at hcarry
    split
    · refine isAt_assemble (by decide) (twoTo_pos 52) ?_
      simp only [place, twoTo_52] at *
      omega
    · rw [if_neg (Nat.lt_irrefl _), Nat.sub_self]
      refine isAt_assemble ?_ (twoTo_pos 52) ?_
      · rw [twoTo_11]
        omega
      · simp only [place, twoTo_52] at *
        omega
  · simp only [if_neg hcarry]
    rw [twoTo_53] at hcarry
    split
    · refine isAt_assemble (by decide) (twoTo_pos 52) ?_
      simp only [place, twoTo_52] at *
      omega
    · split
      · refine isAt_assemble (by decide) (by assumption) ?_
        simp only [place, twoTo_52] at *
        omega
      · refine isAt_assemble ?_ (by omega) ?_
        · rw [twoTo_11]
          omega
        · simp only [place, twoTo_52] at *
          omega

theorem IsAt.le {p p' : ℕ} {x y : Float} (h : IsAt false p x) (h' : IsAt false p' y)
    (hp : p ≤ p') : x ≤ y := by
  have hnan : ofFloat x ≠ .nan := by
    rcases h with ⟨-, hx⟩ | ⟨m, e, hx, -⟩ <;> simp [hx]
  rcases h' with ⟨-, hy⟩ | ⟨m', e', hy, rfl⟩
  · exact le_infinite hnan hy
  · have hlast := (isCanonical_of_ofFloat hy).2
    rcases h with ⟨hbeyond, -⟩ | ⟨m, e, hx, rfl⟩
    · omega
    · exact le_of_place_le hx hy hp

theorem IsAt.sign?_eq {negative : Bool} {p : ℕ} {x : Float} (h : IsAt negative p x) :
    (ofFloat x).sign? = some negative := by
  rcases h with ⟨-, hx⟩ | ⟨m, e, hx, -⟩ <;> rw [hx] <;> rfl

/-- The double is the one nearest to `q`, apart from the sign. -/
def IsNearestDouble (q : ℚ) (negative : Bool) (x : Float) : Prop :=
  ∃ m e, IsNearest q m e ∧ IsAt negative (place m e) x

theorem IsNearestDouble.le {q q' : ℚ} {x y : Float} (h : IsNearestDouble q false x)
    (h' : IsNearestDouble q' false y) (hq : q ≤ q') : x ≤ y := by
  obtain ⟨m, e, hnearest, hx⟩ := h
  obtain ⟨m', e', hnearest', hy⟩ := h'
  exact hx.le hy (hnearest.place_mono hnearest' hq)

theorem IsNearestDouble.sign?_eq {q : ℚ} {negative : Bool} {x : Float}
    (h : IsNearestDouble q negative x) : (ofFloat x).sign? = some negative := by
  obtain ⟨m, e, -, hx⟩ := h
  exact hx.sign?_eq

theorem isNearest_zero : IsNearest 0 0 (-1074) where
  least := le_refl _
  lt := two_zpow_pos _
  le h := absurd h (lt_irrefl _)
  rounded := by
    rw [zero_div]
    exact .natCast 0

theorem isNearestDouble_ofRatio (negative : Bool) (num : ℕ) {den : ℕ} (hden : den ≠ 0) :
    IsNearestDouble (num / den) negative (ofRatio negative num den) := by
  by_cases hnum : num = 0
  · rw [hnum, Nat.cast_zero, zero_div]
    exact ⟨0, -1074, isNearest_zero, isAt_assemble (twoTo_pos 11) (twoTo_pos 52) rfl⟩
  · exact ⟨_, _, isNearest_scaledMantissa hnum hden, isAt_ofRatio negative hnum hden⟩

/-- Of two quotients the smaller one has the smaller nearest double. -/
theorem ofRatio_le_ofRatio {num den num' den' : ℕ} (hden : den ≠ 0) (hden' : den' ≠ 0)
    (h : num * den' ≤ num' * den) : ofRatio false num den ≤ ofRatio false num' den' := by
  refine (isNearestDouble_ofRatio false num hden).le (isNearestDouble_ofRatio false num' hden') ?_
  have hpos : (0 : ℚ) < den := by exact_mod_cast Nat.pos_of_ne_zero hden
  have hpos' : (0 : ℚ) < den' := by exact_mod_cast Nat.pos_of_ne_zero hden'
  rw [div_le_div_iff₀ hpos hpos']
  exact_mod_cast h

theorem ofFloat_ofRatio_one (negative : Bool) {n : ℕ} (hn : n ≠ 0) :
    ofFloat (ofRatio negative n 1) = .infinite negative ∨
      ∃ m e, 0 < m ∧ ofFloat (ofRatio negative n 1) = .finite negative m e := by
  obtain ⟨m, e, hnearest, hat⟩ := isNearestDouble_ofRatio negative n Nat.one_ne_zero
  have hone : (1 : ℚ) ≤ n / (1 : ℕ) := by
    rw [Nat.cast_one, div_one]
    exact_mod_cast Nat.pos_of_ne_zero hn
  have hm := hnearest.twoTo_le_of_one_le hone
  rcases hat with ⟨-, h⟩ | ⟨m', e', h, hplace⟩
  · exact .inl h
  · refine .inr ⟨m', e', Nat.pos_of_ne_zero fun hzero => ?_, h⟩
    obtain ⟨⟨hleast, -, hle⟩, -⟩ := isCanonical_of_ofFloat h
    have he : e' = -1074 := by
      by_contra he
      have hlong := hle (by omega)
      rw [twoTo_52] at hlong
      omega
    have hfirst := (place_eq_zero hleast).mpr ⟨hzero, he⟩
    rw [hplace] at hfirst
    simp only [place, twoTo_52] at *
    omega

theorem intBelow_zero_ofInt {n : ℤ} (hn : 0 < n) : intBelow 0 (ofInt n) = true := by
  have hsign : decide (n < 0) = false := by simpa using Int.le_of_lt hn
  rw [ofInt, hsign, intBelow]
  obtain h | ⟨m, e, hm, h⟩ := ofFloat_ofRatio_one false (n := n.natAbs) (by omega)
  · rw [h]
    rfl
  · have hpos : 0 < (m : ℤ) * twoTo e.toNat :=
      Int.mul_pos (by omega) (Int.natCast_pos.mpr (twoTo_pos _))
    rw [h]
    dsimp only
    split <;> simp [hpos, hm]

/-- A double that is not negative is not below zero. -/
theorem belowInt_zero_of_sign? {x : Float} (h : (ofFloat x).sign? = some false) :
    belowInt x 0 = false := by
  unfold belowInt
  cases hx : ofFloat x with
  | nan => rfl
  | infinite negative =>
    rw [hx] at h
    exact Option.some.inj h
  | finite negative m e =>
    rw [hx] at h
    obtain rfl : negative = false := Option.some.inj h
    have hpos : 0 ≤ (m : ℤ) * twoTo e.toNat := Int.mul_nonneg (by omega) (by omega)
    dsimp only
    split
    · simpa using hpos
    · simp

theorem belowInt_ofInt_zero {n : ℤ} (hn : 0 ≤ n) : belowInt (ofInt n) 0 = false := by
  have hsign : decide (n < 0) = false := decide_eq_false (Int.not_lt.mpr hn)
  have hnearest := isNearestDouble_ofRatio (n < 0) n.natAbs Nat.one_ne_zero
  rw [hsign] at hnearest
  refine belowInt_zero_of_sign? ?_
  rw [ofInt, hsign]
  exact hnearest.sign?_eq

end Binary64
end Walkthrough.Number
