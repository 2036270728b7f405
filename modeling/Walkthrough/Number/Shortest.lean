import Walkthrough.Number.Binary64

/-!
Decimal texts of doubles. The digits are the fewest that read back to the same double and, of
those, the nearest to it.
-/
namespace Walkthrough.Number

/-- A positive decimal number: `digits * 10 ^ exponent`. -/
structure Decimal where
  digits : Nat
  exponent : Int
  deriving DecidableEq, Repr

/--
The reals that round to the double `m * 2 ^ e`, in units of `2 ^ (e - 2)`: from `low` to `high`,
the ends included when `m` is even. The gap below a power of two is half the gap above it.
-/
structure RoundingInterval where
  low : Nat
  mid : Nat
  high : Nat
  closed : Bool
  exponent : Int

/-- The interval of a positive double. -/
def RoundingInterval.of (m : Nat) (e : Int) : RoundingInterval :=
  ⟨4 * m - (if m = twoTo 52 ∧ -1074 < e then 1 else 2), 4 * m, 4 * m + 2, m % 2 == 0, e - 2⟩

def asRatio (power : Nat → Nat) (e : Int) : Nat × Nat :=
  if 0 ≤ e then (power e.toNat, 1) else (1, power (-e).toNat)

/-- The better of the two points next to the double on the grid of multiples of `10 ^ k`. -/
def RoundingInterval.pointOnGrid? (i : RoundingInterval) (k : Int) : Option Nat :=
  let (twoNum, twoDen) := asRatio twoTo i.exponent
  let (tenNum, tenDen) := asRatio tenTo k
  -- one unit of the interval is `u / v` grid steps
  let u := twoNum * tenDen
  let v := twoDen * tenNum
  let inside (d : Nat) : Bool :=
    (i.low * u < d * v || (i.closed && i.low * u == d * v)) &&
      (d * v < i.high * u || (i.closed && d * v == i.high * u))
  let d := i.mid * u / v
  let below := i.mid * u - d * v
  let above := (d + 1) * v - i.mid * u
  match inside d && d != 0, inside (d + 1) with
  | true, false => some d
  | false, true => some (d + 1)
  | true, true => some (if below < above || (below == above && d % 2 == 0) then d else d + 1)
  | false, false => none

/-- The exponent `k` with `10 ^ k ≤ m * 2 ^ e < 10 ^ (k + 1)`, for a positive number. -/
def decimalExponent (m : Nat) (e : Int) : Int :=
  let (num, den) := asRatio twoTo e
  let q := m * num / den
  if 0 < q then (Nat.toDigits 10 q).length - 1
  else
    -- below one: the first power of ten that lifts it to one or more
    let k := (Nat.toDigits 10 (den / (m * num))).length
    if den ≤ m * num * tenTo (k - 1) then -(k - 1) else -k

/-- Tries grids of one digit more each time. -/
def RoundingInterval.search (i : RoundingInterval) (top : Int) :
    (tries : Nat) → Int → Option Decimal
  | 0, _ => none
  | n + 1, k =>
    match i.pointOnGrid? k with
    | some d => some ⟨d, k⟩
    | none => i.search top n (k - 1)

/-- The shortest decimal that reads back to the positive double `m * 2 ^ e`. -/
def shortest (m : Nat) (e : Int) : Decimal :=
  let top := decimalExponent m e
  ((RoundingInterval.of m e).search top 17 top).getD ⟨0, 0⟩

/-- The digits of a decimal without the zeros at its end, and its exponent of ten. -/
def Decimal.scientific (d : Decimal) : List Char × Int :=
  let cs := Nat.toDigits 10 d.digits
  let kept := (cs.reverse.dropWhile (· == '0')).reverse
  (kept, d.exponent + cs.length - 1)

/--
How a double is written: positionally when its exponent of ten lies between the two bounds,
otherwise with an exponent of at least two digits and a sign.
-/
structure FloatFormat where
  leastPositional : Int
  mostPositional : Int

/-- From `1e-04` to below `1e16` a number is written without an exponent. -/
def floatFormat : FloatFormat := ⟨-4, 15⟩

/-- The text of a positive decimal given by its digits and its exponent of ten. -/
def FloatFormat.write (f : FloatFormat) (digits : List Char) (e : Int) : List Char :=
  if f.leastPositional ≤ e ∧ e ≤ f.mostPositional then
    if e < 0 then '0' :: '.' :: (List.replicate (-e - 1).toNat '0' ++ digits)
    else
      let n := e.toNat + 1
      let whole := digits.take n ++ List.replicate (n - digits.length) '0'
      let rest := digits.drop n
      whole ++ '.' :: (if rest.isEmpty then ['0'] else rest)
  else
    let mark := if e < 0 then ['e', '-'] else ['e', '+']
    let ex := Nat.toDigits 10 e.natAbs
    let ex := if ex.length < 2 then '0' :: ex else ex
    match digits with
    | [d] => d :: mark ++ ex
    | d :: ds => d :: '.' :: ds ++ mark ++ ex
    | [] => []

def floatText (x : Float) : String :=
  match Binary64.ofFloat x with
  | .nan => "nan"
  | .infinite negative => if negative then "-inf" else "inf"
  | .finite negative m e =>
    let body :=
      if m = 0 then ['0', '.', '0']
      else
        let (digits, k) := (shortest m e).scientific
        floatFormat.write digits k
    String.ofList (if negative then '-' :: body else body)

end Walkthrough.Number
