import Walkthrough.Number.Power

/-! Doubles taken apart into integers and built by rounding a ratio to the nearest one. -/
namespace Walkthrough.Number

/-- A double: not a number, an infinity, or `mantissa * 2 ^ exponent` with a sign. -/
inductive Binary64
  | nan
  | infinite (negative : Bool)
  | finite (negative : Bool) (mantissa : Nat) (exponent : Int)
  deriving DecidableEq, Repr

namespace Binary64

def ofFloat (x : Float) : Binary64 :=
  let bits := x.toBits.toNat
  let negative := decide (twoTo 63 ≤ bits)
  let biased : Nat := bits / twoTo 52 % twoTo 11
  let fraction : Nat := bits % twoTo 52
  if biased = 2047 then if fraction = 0 then .infinite negative else .nan
  else if biased = 0 then .finite negative fraction (-1074)
  else .finite negative (twoTo 52 + fraction) (biased - 1075)

/-- The double with the given fields; `biased` is 2047 for the infinities. -/
def assemble (negative : Bool) (biased fraction : Nat) : Float :=
  Float.ofBits (UInt64.ofNat ((if negative then twoTo 63 else 0) + biased * twoTo 52 + fraction))

/-- A quotient rounded to the nearest integer, a half to the even one. -/
def roundDiv (num den : Nat) : Nat :=
  let q := num / den
  let r := num % den
  if 2 * r < den then q
  else if den < 2 * r then q + 1
  else q + q % 2

/-- `num / den` divided by `2 ^ e`, rounded. -/
def scaledMantissa (num den : Nat) (e : Int) : Nat :=
  if 0 ≤ e then roundDiv num (den * twoTo e.toNat) else roundDiv (num * twoTo (-e).toNat) den

/-- The exponent at which the quotient of two positive numbers has 53 bits, or the least one. -/
def exponentFor (num den : Nat) : Int :=
  let e : Int := (num.log2 : Int) - den.log2 - 52
  let e := if num * twoTo (-e).toNat < den * twoTo (52 + e.toNat) then e - 1 else e
  max e (-1074)

/-- The double nearest to a quotient, infinite when that is out of range. -/
def ofRatio (negative : Bool) (num den : Nat) : Float :=
  if num = 0 then assemble negative 0 0
  else
    let e := exponentFor num den
    let m := scaledMantissa num den e
    let (m, e) := if m = twoTo 53 then (twoTo 52, e + 1) else (m, e)
    if 971 < e then assemble negative 2047 0
    else if m < twoTo 52 then assemble negative 0 m
    else assemble negative (e + 1075).toNat (m - twoTo 52)

def ofInt (n : Int) : Float :=
  ofRatio (n < 0) n.natAbs 1

/-- The double nearest to `digits * 10 ^ exponent`. -/
def ofDecimal (negative : Bool) (digits : Nat) (exponent : Int) : Float :=
  let places : Int := (Nat.toDigits 10 digits).length
  if digits = 0 ∨ exponent + places < -330 then assemble negative 0 0
  else if 310 < exponent + places then assemble negative 2047 0
  else if 0 ≤ exponent then ofRatio negative (digits * tenTo exponent.toNat) 1
  else ofRatio negative digits (tenTo (-exponent).toNat)

def isFinite (x : Float) : Bool :=
  match ofFloat x with
  | .finite .. => true
  | _ => false

/-- The integer part of a finite double, toward zero. -/
def truncate (x : Float) : Int :=
  match ofFloat x with
  | .finite negative m e =>
    let n : Nat := if 0 ≤ e then m * twoTo e.toNat else m / twoTo (-e).toNat
    if negative then -n else n
  | _ => 0

def isIntegral (x : Float) : Bool :=
  match ofFloat x with
  | .finite _ m e => 0 ≤ e || m % twoTo (-e).toNat == 0
  | _ => false

/-- Whether an integer is below a double, both taken exactly; a NaN is above nothing. -/
def intBelow (n : Int) (x : Float) : Bool :=
  match ofFloat x with
  | .nan => false
  | .infinite negative => !negative
  | .finite negative m e =>
    let m : Int := if negative then -m else m
    if 0 ≤ e then n < m * twoTo e.toNat else n * twoTo (-e).toNat < m

/-- Whether a double is below an integer, both taken exactly; a NaN is below nothing. -/
def belowInt (x : Float) (n : Int) : Bool :=
  match ofFloat x with
  | .nan => false
  | .infinite negative => negative
  | .finite negative m e =>
    let m : Int := if negative then -m else m
    if 0 ≤ e then m * twoTo e.toNat < n else m < n * twoTo (-e).toNat

end Binary64

end Walkthrough.Number
