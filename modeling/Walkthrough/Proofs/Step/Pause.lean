import Walkthrough.Proofs.Action.Reading
import Walkthrough.Proofs.Number.Division
import Walkthrough.Step.Perform

/-!
How long a pause lasts: no longer than the ceiling and the settings allow, unless what is asked for
is no number.
-/
namespace Walkthrough
namespace Number
open Binary64
variable {x : Float} {negative : Bool} {m : ℕ} {e : ℤ}

theorem intBelow_iff (h : ofFloat x = .finite negative m e) (n : ℤ) :
    intBelow n x = true ↔ (n : ℚ) < ((if negative then -m else m : ℤ) : ℚ) * 2 ^ e := by
  have hpos : (0 : ℚ) < twoTo (-e).toNat := by exact_mod_cast twoTo_pos _
  rw [two_zpow_eq, ← mul_div_assoc, lt_div_iff₀ hpos, intBelow, h]
  dsimp only
  generalize (if negative then -(m : ℤ) else m) = k
  split
  next he =>
    rw [show (-e).toNat = 0 by omega, decide_eq_true_iff]
    change _ ↔ (n : ℚ) * (1 : ℕ) < _
    rw [Nat.cast_one, mul_one]
    exact_mod_cast Iff.rfl
  next he =>
    rw [show e.toNat = 0 by omega, decide_eq_true_iff]
    change _ ↔ _ < (k : ℚ) * (1 : ℕ)
    rw [Nat.cast_one, mul_one]
    exact_mod_cast Iff.rfl

theorem intBelow_mono {a b : ℤ} (hab : a ≤ b) (h : intBelow b x = true) : intBelow a x = true := by
  cases hx : ofFloat x with
  | nan => simp [intBelow, hx] at h
  | infinite negative => simpa [intBelow, hx] using h
  | finite negative m e =>
    rw [intBelow_iff hx] at h ⊢
    have hcast : (a : ℚ) ≤ b := by exact_mod_cast hab
    exact hcast.trans_lt h

/-- A double that is neither below zero nor above an integer: it is a finite one. -/
theorem finite_of_between {n : ℤ} (hnan : x.isNaN = false) (hzero : belowInt x 0 = false)
    (h : intBelow n x = false) :
    ∃ negative m e, ofFloat x = .finite negative m e ∧ (negative = true → m = 0) ∧
      (m : ℚ) * 2 ^ e ≤ n := by
  cases hx : ofFloat x with
  | nan =>
    rw [isNaN_iff.mpr hx] at hnan
    cases hnan
  | infinite negative => cases negative <;> simp [intBelow, belowInt, hx] at h hzero
  | finite negative m e =>
    have hle : ¬(n : ℚ) < ((if negative then -m else m : ℤ) : ℚ) * 2 ^ e := by
      rw [← intBelow_iff hx, h]
      exact Bool.false_ne_true
    have hm : negative = true → m = 0 := by
      rintro rfl
      by_contra hm
      have hpos : 0 < m * twoTo e.toNat := Nat.mul_pos (Nat.pos_of_ne_zero hm) (twoTo_pos _)
      have hpos' : ¬(m : ℤ) * twoTo e.toNat ≤ 0 := by
        rw [Int.not_le]
        exact_mod_cast hpos
      simp [belowInt, hx, hm, hpos'] at hzero
    refine ⟨negative, m, e, rfl, hm, ?_⟩
    cases negative with
    | true => simpa [hm rfl] using hle
    | false => simpa using hle

theorem sign?_thousandth (n : ℤ) :
    (ofFloat (Number.int n).thousandth).sign? = some (decide (n < 0)) :=
  (isNearestDouble_ofRatio _ n.natAbs (by decide)).sign?_eq

theorem thousandth_self (n : ℤ) : (Number.int n).thousandth ≤ (Number.int n).thousandth := by
  refine le_self fun hnan => ?_
  have hsign := sign?_thousandth n
  rw [hnan] at hsign
  cases hsign

theorem thousandth_int_le {a b : ℤ} (hab : a ≤ b) (hb : 0 ≤ b) :
    (Number.int a).thousandth ≤ (Number.int b).thousandth := by
  have hb' : decide (b < 0) = false := decide_eq_false (Int.not_lt.mpr hb)
  by_cases ha : a < 0
  · refine le_of_sign ?_ ?_
    · rw [sign?_thousandth, decide_eq_true ha]
    · rw [sign?_thousandth, hb']
  · have ha' : decide (a < 0) = false := decide_eq_false ha
    simp only [thousandth, ha', hb']
    exact ofRatio_le_ofRatio (by decide) (by decide) (by omega)

theorem thousandth_float_le {n : ℤ} (hnan : x.isNaN = false) (hzero : belowInt x 0 = false)
    (h : intBelow n x = false) : (Number.float x).thousandth ≤ (Number.int n).thousandth := by
  obtain ⟨negative, m, e, hx, hm, hle⟩ := finite_of_between hnan hzero h
  have hthousand : ofFloat 1000.0 = .finite false (1000 * twoTo 43) (-43) := rfl
  have hnearest : IsNearestDouble (m * 2 ^ e / 1000) negative (Number.float x).thousandth := by
    have hdiv := isNearestDouble_div hx hthousand (by decide)
    have hvalue : ((1000 * twoTo 43 : ℕ) : ℚ) * 2 ^ (-43 : ℤ) = 1000 := by
      rw [Nat.cast_mul, cast_twoTo]
      norm_num
    rw [hvalue] at hdiv
    exact hdiv
  have hn : 0 ≤ n := by
    have hvalue : (0 : ℚ) ≤ m * 2 ^ e := mul_nonneg (Nat.cast_nonneg m) (two_zpow_pos e).le
    exact_mod_cast hvalue.trans hle
  have hsign : decide (n < 0) = false := decide_eq_false (Int.not_lt.mpr hn)
  cases negative with
  | true =>
    refine le_of_sign hnearest.sign?_eq ?_
    rw [sign?_thousandth, hsign]
  | false =>
    have hnearest' : IsNearestDouble (n.natAbs / (1000 : ℕ)) false (Number.int n).thousandth := by
      have hratio := isNearestDouble_ofRatio (n < 0) n.natAbs (show 1000 ≠ 0 by decide)
      rw [hsign] at hratio
      simpa only [thousandth, hsign] using hratio
    refine hnearest.le hnearest' ?_
    have habs : (n.natAbs : ℚ) = n := by
      rw [← Int.cast_natCast, Int.natAbs_of_nonneg hn]
    rw [habs]
    push_cast
    linarith

theorem thousandth_isNaN (h : x.isNaN = true) : (Number.float x).thousandth.isNaN = true := by
  have hx : x.toModel.unpack = .notANumber := by
    rw [isNaN_eq_unpack] at h
    cases hu : x.toModel.unpack <;> simp [hu, Float.Model.UnpackedFloat.isNaN] at h ⊢
  change (packed (.div .binary64 x.toModel.unpack _)).isNaN = true
  rw [hx]
  rfl

end Number

/-- The pauses that settings allow, in seconds: the ceiling is thirty of them. -/
structure Settings.Allows (c : Settings) (x : Float) : Prop where
  ceiling : x ≤ 30.0
  setting : c.maxWaitMs < 30000 → x ≤ (Number.int c.maxWaitMs).thousandth

namespace Step
open Number Number.Binary64
variable {c : Settings} {ms x : Float}

theorem seconds?_int {n : ℤ} (h : seconds? (.int n) = some x) : x = (Number.int n).thousandth := by
  unfold seconds? at h
  dsimp only at h
  split at h
  · exact (Option.some.inj h).symm
  · cases h

/-- A pause is as long as the ceiling, as the settings allow or as it was asked for. -/
theorem pauseOf_cases (c : Settings) (ms : Float) :
    (pauseOf c ms = .int 30000 ∧ 30000 ≤ c.maxWaitMs) ∨
      (pauseOf c ms = .int c.maxWaitMs ∧ c.maxWaitMs ≤ 30000) ∨
      (pauseOf c ms = .float ms ∧ intBelow c.maxWaitMs ms = false ∧ intBelow 30000 ms = false) := by
  have hfirst : (Number.float ms).least (.int c.maxWaitMs) =
      if intBelow c.maxWaitMs ms then .int c.maxWaitMs else .float ms := rfl
  unfold pauseOf
  rw [hfirst]
  cases hsetting : intBelow c.maxWaitMs ms with
  | true =>
    have hsecond : (Number.int c.maxWaitMs).least (.int pauseCeiling) =
        if decide (30000 < c.maxWaitMs) then .int 30000 else .int c.maxWaitMs := rfl
    rw [if_pos rfl, hsecond]
    by_cases hlong : 30000 < c.maxWaitMs
    · rw [if_pos (decide_eq_true hlong)]
      exact .inl ⟨rfl, hlong.le⟩
    · rw [if_neg (by simpa using hlong)]
      exact .inr (.inl ⟨rfl, by omega⟩)
  | false =>
    have hsecond : (Number.float ms).least (.int pauseCeiling) =
        if intBelow 30000 ms then .int 30000 else .float ms := rfl
    rw [if_neg Bool.false_ne_true, hsecond]
    cases hlong : intBelow 30000 ms with
    | true =>
      refine .inl ⟨rfl, ?_⟩
      -- a setting below the ceiling would have cut the pause first
      by_contra hshort
      have hbelow := intBelow_mono (Int.not_le.mp hshort).le hlong
      rw [hsetting] at hbelow
      cases hbelow
    | false => exact .inr (.inr ⟨rfl, rfl, rfl⟩)

theorem ceiling_eq : (30.0 : Float) = (Number.int 30000).thousandth := rfl

/-- A pause of so many milliseconds, cut as it is, is one that the settings allow. -/
theorem allows_of_seconds? (hnan : ms.isNaN = false) (hzero : belowInt ms 0 = false)
    (h : seconds? (pauseOf c ms) = some x) : c.Allows x := by
  rcases pauseOf_cases c ms with ⟨hpause, hlong⟩ | ⟨hpause, hshort⟩ | ⟨hpause, hsetting, hceiling⟩
  · rw [hpause] at h
    obtain rfl := seconds?_int h
    refine ⟨?_, fun hshort => by omega⟩
    rw [ceiling_eq]
    exact thousandth_self 30000
  · rw [hpause] at h
    obtain rfl := seconds?_int h
    refine ⟨?_, fun _ => thousandth_self _⟩
    rw [ceiling_eq]
    exact thousandth_int_le hshort (by decide)
  · rw [hpause] at h
    obtain rfl := Option.some.inj h
    refine ⟨?_, fun _ => thousandth_float_le hnan hzero hsetting⟩
    rw [ceiling_eq]
    exact thousandth_float_le hnan hzero hceiling

/-- A pause that is no number of milliseconds is not cut at all. -/
theorem seconds?_isNaN (hnan : ms.isNaN = true) (h : seconds? (pauseOf c ms) = some x) :
    x.isNaN = true := by
  have hbelow (n : ℤ) : intBelow n ms = false := by simp [intBelow, isNaN_iff.mp hnan]
  have hpause : pauseOf c ms = .float ms := by simp [pauseOf, least, Number.lt, hbelow]
  rw [hpause] at h
  obtain rfl := Option.some.inj h
  exact thousandth_isNaN hnan

end Step
end Walkthrough
