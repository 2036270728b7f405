import Walkthrough.Proofs.Action.Faults
import Walkthrough.Proofs.Number.Order

/-!
Numbers that limit an action: what a timeout and a pause are read as, and what the checks say about
them. The two agree on all numbers but those that are none, and those beyond the doubles.
-/
namespace Walkthrough
open Number (Binary64)

/-- The value is not a NaN, nor a positive integer beyond the doubles. -/
def Value.isOrdinary : Value → Bool
  | .int n => n ≤ 0 || Binary64.isFinite (Binary64.ofInt n)
  | .float x => !x.isNaN
  | _ => true

def Number.isZero : Number → Bool
  | .int n => n == 0
  | .float x => x == 0.0

/-- Only zero is zero as a double: an integer next to it is not rounded that far. -/
theorem Number.toFloat_beq_zero (n : Number) : (n.toFloat == 0.0) = n.isZero := by
  cases n with
  | float x => rfl
  | int i =>
    by_cases hi : i = 0
    · rw [hi]
      rfl
    · have hne : ¬(Binary64.ofInt i == 0.0) = true := by
        rw [Binary64.beq_zero_iff]
        rintro ⟨negative, hzero⟩
        have hratio := Binary64.ofFloat_ofRatio_one (i < 0) (Int.natAbs_ne_zero.mpr hi)
        rcases hratio with h | ⟨m, e, hm, h⟩
        · rw [Binary64.ofInt, h] at hzero
          cases hzero
        · rw [Binary64.ofInt, h] at hzero
          cases hzero
          exact Nat.lt_irrefl 0 hm
      have hisZero : (i == 0) = false := beq_eq_false_iff_ne.mpr hi
      rw [isZero, hisZero]
      exact Bool.eq_false_iff.mpr hne

theorem isNaN_of_isOrdinary {v : Value} {n : Number} (hn : v.number? = some n)
    (h : v.isOrdinary = true) : n.isNaN = false := by
  cases v with
  | int i =>
    cases hn
    rfl
  | float x =>
    cases hn
    rwa [Value.isOrdinary, Bool.not_eq_true'] at h
  | _ => cases hn

theorem asFloat_of_isOrdinary {v : Value} {n : Number} (hn : v.number? = some n)
    (h : v.isOrdinary = true) (hint : ∀ i, n = .int i → 0 ≤ i) : asFloat v = .ok n.toFloat := by
  cases v with
  | float x =>
    cases hn
    rfl
  | int i =>
    cases hn
    have hfinite : Binary64.isFinite (Binary64.ofInt i) = true := by
      by_cases hzero : i = 0
      · rw [hzero]
        rfl
      · have hnonneg := hint i rfl
        have hpos : ¬i ≤ 0 := by omega
        simpa [Value.isOrdinary, hpos] using h
    simp [asFloat, hfinite, Number.toFloat]
  | _ => cases hn

namespace FieldKind

/-- A pause is zero where it is no number or a negative one, and is converted otherwise. -/
theorem asFloat_prepare_pause (v : Value) : ∃ w, prepare .pause v = .ok w ∧
    asFloat w =
      match v.number? with
      | some n => if n.lt (.int 0) then .ok 0.0 else asFloat v
      | none => .ok 0.0 := by
  have hzero : asFloat (.int 0) = .ok 0.0 := rfl
  unfold prepare
  dsimp only
  cases v.number? with
  | none => exact ⟨_, rfl, hzero⟩
  | some n =>
    refine ⟨_, rfl, ?_⟩
    dsimp only
    split
    · exact hzero
    · rfl

end FieldKind

/-- What is left of a timeout: a positive number as a double, and nothing of anything else. -/
def Value.limit? (v : Value) : Option Float :=
  if v.isPositive then v.number?.map Number.toFloat else none

namespace Field
variable {name : String} {es : Entries} {v : Value}

theorem find?_may (kind : FieldKind) (hv : es.get? name = some v) :
    (may name kind).find? es = some (name, v) := by
  simp only [find?, hv]

theorem find?_need (kind : FieldKind) (hv : es.get? name = some v) :
    (need name kind).find? es = some (name, v) := by
  simp only [find?, hv]

/-- What a field that must be there holds is what its value is converted to. -/
theorem convert_of_read_need {kind : FieldKind} {c : kind.Carrier}
    (h : (need name kind).read es = .ok c) :
    ∃ w, kind.prepare ((Value.object es).field name) = .ok w ∧ kind.convert w = .ok c := by
  obtain ⟨u, ⟨key, hfind⟩, hconvert⟩ := holds_of_readRequired (f := need name kind) h
  cases hget : Entries.get? es name with
  | none => simp [find?, hget] at hfind
  | some w =>
    rw [find?_need kind hget] at hfind
    cases hfind
    have hfield : (Value.object es).field name = u := by
      simp [Value.field, Entries.getD, hget]
    rwa [hfield]

theorem readOptional_of_null {f : Field} {key : String} (hfind : f.find? es = some (key, v))
    (hnull : f.kind.prepare v = .ok .null) : f.readOptional es = .ok none := by
  simp only [readOptional, hfind, hnull]

theorem readOptional_of_ne_null {f : Field} {key : String} {w : Value}
    (hfind : f.find? es = some (key, v)) (hw : f.kind.prepare v = .ok w) (hnull : w ≠ .null) :
    f.readOptional es = (under key (f.kind.convert w)).map some := by
  simp only [readOptional, hfind, hw]

theorem number?_ne_null {n : Number} (hn : v.number? = some n) : v ≠ .null := by
  rintro rfl
  cases hn

/-- A timeout is kept if the checks have nothing against it, and dropped otherwise. -/
theorem read_limit (hv : es.get? name = some v) (h : v.isOrdinary = true) :
    (may name .limit).read es = .ok v.limit? := by
  change (may name .limit).readOptional es = .ok v.limit?
  have hfind := find?_may .limit hv
  cases hn : v.number? with
  | none =>
    have hdropped : FieldKind.prepare .limit v = .ok .null := by simp [FieldKind.prepare, hn]
    rw [readOptional_of_null hfind hdropped]
    simp [Value.limit?, Value.isPositive, hn]
  | some n =>
    have hnan := isNaN_of_isOrdinary hn h
    by_cases hpos : (Number.int 0).lt n = true
    · have hkept : FieldKind.prepare .limit v = .ok v := by simp [FieldKind.prepare, hn, hpos]
      have hint (i : Int) (hi : n = .int i) : 0 ≤ i := by
        rw [hi, Number.lt, decide_eq_true_iff] at hpos
        omega
      rw [readOptional_of_ne_null hfind hkept (number?_ne_null hn)]
      simp [FieldKind.convert, FieldKind.alone, asFloat_of_isOrdinary hn h hint, under, Except.map,
        Value.limit?, Value.isPositive, hn, hpos]
    · have hdropped : FieldKind.prepare .limit v = .ok .null := by
        simp [FieldKind.prepare, hn, hpos, hnan]
      rw [readOptional_of_null hfind hdropped]
      simp [Value.limit?, Value.isPositive, hn, hpos]

/-- A timeout that is no number is kept, although the checks have something against it. -/
theorem read_limit_of_isNaN {x : Float} (hv : es.get? name = some (.float x))
    (hnan : x.isNaN = true) :
    (may name .limit).read es = .ok (some x) ∧ (Value.float x).isPositive = false := by
  have hbelow : Binary64.intBelow 0 x = false := by
    simp [Binary64.intBelow, Binary64.isNaN_iff.mp hnan]
  have hkept : FieldKind.prepare .limit (.float x) = .ok (.float x) := by
    simp only [FieldKind.prepare, Value.number?, Number.isNaN, hnan, Bool.or_true, if_true]
  constructor
  · change (may name .limit).readOptional es = _
    rw [readOptional_of_ne_null (find?_may .limit hv) hkept Value.noConfusion]
    rfl
  · simpa [Value.isPositive, Value.number?, Number.lt] using hbelow

/-- A timeout beyond the doubles is refused, although the checks have nothing against it. -/
theorem read_limit_of_oversized {n : Int} (hv : es.get? name = some (.int n)) (hpos : 0 < n)
    (hfinite : Binary64.isFinite (Binary64.ofInt n) = false) :
    (may name .limit).read es = .error [⟨[name], .notNumber⟩] ∧
      (Value.int n).isPositive = true := by
  have hkept : FieldKind.prepare .limit (.int n) = .ok (.int n) := by
    simp [FieldKind.prepare, Value.number?, Number.lt, hpos]
  constructor
  · change (may name .limit).readOptional es = _
    rw [readOptional_of_ne_null (find?_may .limit hv) hkept Value.noConfusion]
    simp [FieldKind.convert, FieldKind.alone, asFloat, hfinite, under, Except.map]
  · simpa [Value.isPositive, Value.number?, Number.lt] using hpos

/-- A pause is zero if the checks have something against it, and the number as a double otherwise.
-/
theorem read_pause (hv : es.get? name = some v) (h : v.isOrdinary = true) :
    (need name .pause).read es =
      .ok (if v.isNonNegative then (v.number?.map Number.toFloat).getD 0.0 else 0.0) := by
  obtain ⟨w, hw, hfloat⟩ := FieldKind.asFloat_prepare_pause v
  have hread : asFloat w =
      .ok (if v.isNonNegative then (v.number?.map Number.toFloat).getD 0.0 else 0.0) := by
    rw [hfloat]
    cases hn : v.number? with
    | none => simp
    | some n =>
      by_cases hneg : n.lt (.int 0) = true
      · simp [Value.isNonNegative, hn, hneg]
      · have hint (i : Int) (hi : n = .int i) : 0 ≤ i := by
          simpa [hi, Number.lt] using hneg
        have hnan := isNaN_of_isOrdinary hn h
        simp [Value.isNonNegative, hn, hneg, hnan, asFloat_of_isOrdinary hn h hint]
  change (need name .pause).readRequired es = _
  simp only [readRequired, find?_need .pause hv, hw, FieldKind.convert, hread]
  rfl

end Field

namespace Record
variable {fs : List Field} {es : Entries}

/-- A record is read if each of its fields is. -/
theorem exists_read (h : ∀ f ∈ fs, ∃ c, f.read es = .ok c) : ∃ r, read fs es = .ok r := by
  induction fs with
  | nil => exact ⟨(), rfl⟩
  | cons f fs ih =>
    rw [List.forall_mem_cons] at h
    obtain ⟨c, hc⟩ := h.1
    obtain ⟨r, hr⟩ := ih h.2
    exact ⟨(c, r), both_eq_ok_iff.mpr ⟨hc, hr⟩⟩

/-- What a field holds is found under its plain name. -/
theorem get?_values_name {r : Record fs} (hnodup : (fs.map Field.name).Nodup)
    (h : read fs es = .ok r) {f : Field} (hf : f ∈ fs) {c : f.Carrier} (hc : f.read es = .ok c) :
    Entries.get? (values Field.name fs r) f.name = some (f.toValue c) := by
  induction fs with
  | nil => cases hf
  | cons f' fs ih =>
    obtain ⟨c', r⟩ := r
    obtain ⟨hread, hfs⟩ := read_cons h
    rw [List.map_cons, List.nodup_cons] at hnodup
    rw [values, Entries.get?_cons]
    rcases List.mem_cons.mp hf with rfl | hf
    · rw [hread] at hc
      cases hc
      simp
    · have hne : f'.name ≠ f.name := fun heq =>
        hnodup.1 (heq ▸ List.mem_map_of_mem hf)
      simp [hne, ih hnodup.2 hfs hf]

end Record

theorem presentAndNot_of_get? {es : Entries} {key : String} {v : Value} (hv : es.get? key = some v)
    (test : Value → Bool) : presentAndNot es key test = !test v := by
  rw [presentAndNot, hv]

theorem odd_mem_iff (kind : ActionKind) (es : Entries) :
    (ActionWarning.oddTimeout ∈ oddities kind es ↔
        presentAndNot es "timeout" Value.isPositive = true) ∧
      (ActionWarning.oddPause ∈ oddities kind es ↔
        presentAndNot es "ms" Value.isNonNegative = true) := by
  unfold oddities
  dsimp only
  cases (unknownFields kind.schema es).isEmpty <;>
    cases presentAndNot es "timeout" Value.isPositive <;>
    cases presentAndNot es "ms" Value.isNonNegative <;> simp

namespace ActionKind

/-- The type whose timeout counts: to empty an element is to wait for it as typing does. -/
def timeoutKind : ActionKind → ActionKind
  | .clear => .type
  | k => k

/-- The types that have a timeout of their own, and the one that empties an element. -/
theorem timeout_mem_knownFields_iff (k : ActionKind) :
    "timeout" ∈ k.schema.knownFields ↔ k.timeoutKind.defaultTimeout?.isSome = true := by
  cases k <;> decide

theorem timeout_mem_fields {k : ActionKind} (h : "timeout" ∈ k.schema.knownFields) :
    Field.may "timeout" .limit ∈ k.fields := by
  revert h
  cases k <;> decide

theorem eq_limit_of_wire {k : ActionKind} {f : Field} (hf : f ∈ k.fields)
    (h : f.wire = "timeout") : f = Field.may "timeout" .limit := by
  revert f
  cases k <;> decide

theorem names_nodup (k : ActionKind) : ("label" :: "action" :: k.fields.map Field.name).Nodup := by
  cases k <;> decide

end ActionKind

end Walkthrough
