import Walkthrough.Proofs.Number.Division

/-!
Addition of doubles that bear no minus sign: adding zero leaves them as they are, and their sums
bear none either.
-/
namespace Walkthrough.Number.Binary64
open Float.Model Float.Model.UnpackedFloat

/-- Whether an unpacked double bears a minus sign; what is no number does not. -/
def bearsMinus : UnpackedFloat → Bool
  | .notANumber => false
  | .infinity s | .zero s | .finite s _ _ _ => s matches .negative

def IsUnsigned (x : Float) : Prop := bearsMinus x.toModel.unpack = false

theorem packed_unpack (x : Float) : packed x.toModel.unpack = x := by
  obtain ⟨bits, hbits⟩ := x
  simp [packed, Float.Model.pack, Float.Model.unpack, pack_unpack_of_valid, hbits]

theorem unpackSign_pack {u : UnpackedFloat} (h : bearsMinus u = false) :
    unpackSign (UnpackedFloat.pack .binary64 u) = Sign.positive.toBitVec := by
  cases u with
  | notANumber => exact unpackSign_packComponents _ _ _
  | infinity s =>
    obtain rfl := eq_positive h
    exact unpackSign_packComponents _ _ _
  | zero s =>
    obtain rfl := eq_positive h
    exact unpackSign_packComponents _ _ _
  | finite s m e hm =>
    obtain rfl := eq_positive h
    rw [pack_finite]
    split
    · exact unpackSign_packComponents _ _ _
    · split <;> exact unpackSign_packComponents _ _ _

/-- The minus sign of an unpacked double is its first bit. -/
theorem bearsMinus_unpack {b : BitVec Format.binary64.numBits}
    (h : unpackSign b = Sign.positive.toBitVec) :
    bearsMinus (UnpackedFloat.unpack .binary64 b) = false := by
  unfold UnpackedFloat.unpack
  dsimp only
  rw [h, Sign.ofBitVec_toBitVec]
  split
  · split <;> rfl
  · split
    · split <;> rfl
    · rfl

theorem isUnsigned_packed {u : UnpackedFloat} (h : bearsMinus u = false) : IsUnsigned (packed u) :=
  bearsMinus_unpack (unpackSign_pack h)

theorem bearsMinus_roundWithAccuracy (m : ℕ) (e : ℤ) (a : Accuracy) :
    bearsMinus (roundWithAccuracy .binary64 .positive m e a) = false := by
  unfold roundWithAccuracy
  dsimp only
  split <;> rfl

/-- A sum of magnitudes is rounded without a minus sign. -/
theorem bearsMinus_normalize (n : ℕ) (e : ℤ) :
    bearsMinus (UnpackedFloat.normalize .binary64 n e .positive) = false := by
  unfold UnpackedFloat.normalize
  split
  next hlt =>
    rw [Int.compare_eq_lt] at hlt
    omega
  · rfl
  · exact bearsMinus_roundWithAccuracy _ _ _

variable {x y : Float}

theorem isUnsigned_zero : IsUnsigned 0.0 := rfl

theorem isUnsigned_of_pos (h : 0.0 < x) : IsUnsigned x := by
  replace h : UnpackedFloat.lt (.zero .positive) x.toModel.unpack = true := by
    change decide (UnpackedFloat.lt (.zero .positive) x.toModel.unpack = true) = true at h
    exact of_decide_eq_true h
  unfold IsUnsigned
  cases hx : x.toModel.unpack with
  | notANumber => rfl
  | infinity s =>
    cases s with
    | positive => rfl
    | negative => simp [hx, UnpackedFloat.lt, UnpackedFloat.compare] at h
  | zero s => simp [hx, UnpackedFloat.lt, UnpackedFloat.compare] at h
  | finite s m e hm =>
    cases s with
    | positive => rfl
    | negative => simp [hx, UnpackedFloat.lt, UnpackedFloat.compare] at h

theorem IsUnsigned.add_zero (h : IsUnsigned x) : x + 0.0 = x := by
  have hsum :
      UnpackedFloat.add .binary64 x.toModel.unpack (.zero .positive) = x.toModel.unpack := by
    unfold IsUnsigned at h
    cases hx : x.toModel.unpack with
    | zero s =>
      rw [hx] at h
      obtain rfl := eq_positive h
      rfl
    | _ => rfl
  change packed (.add .binary64 x.toModel.unpack (.zero .positive)) = x
  rw [hsum, packed_unpack]

theorem IsUnsigned.add (hx : IsUnsigned x) (hy : IsUnsigned y) : IsUnsigned (x + y) := by
  change IsUnsigned (packed (.add .binary64 x.toModel.unpack y.toModel.unpack))
  apply isUnsigned_packed
  unfold IsUnsigned at hx hy
  generalize x.toModel.unpack = u at *
  generalize y.toModel.unpack = v at *
  -- a signless operand is one of four, and only two finite ones are rounded
  cases u with
  | notANumber => rfl
  | infinity s =>
    obtain rfl := eq_positive hx
    cases v with
    | infinity s' =>
      obtain rfl := eq_positive hy
      rfl
    | _ => rfl
  | zero s =>
    obtain rfl := eq_positive hx
    cases v with
    | zero s' =>
      obtain rfl := eq_positive hy
      rfl
    | _ => exact hy
  | finite s m e hm =>
    obtain rfl := eq_positive hx
    cases v with
    | finite s' m' e' hm' =>
      obtain rfl := eq_positive hy
      exact bearsMinus_normalize (_ + _) _
    | infinity s' => exact hy
    | _ => rfl

end Walkthrough.Number.Binary64
