import Walkthrough.Text.Blank
import Walkthrough.Text.Digit

/-! Reading integers: decimal digits of any script, a sign, and single underscores between digits.
-/
namespace Walkthrough.Number

/-- The number that the digits of ASCII make, in decimal. -/
def decimalValue (ds : List Char) : Nat :=
  ds.foldl (fun n d => n * 10 + (d.toNat - 48)) 0

def maxDigits : Nat := 4300

inductive IntegerFault
  | malformed
  | tooLong (digits : Nat)
  deriving DecidableEq, Repr

/--
Reads the digits at the front. `afterDigit` says whether the character before was a digit; an
underscore must stand between two digits.
-/
def readDigits (acc count : Nat) (afterDigit : Bool) : List Char →
    Except IntegerFault (Nat × Nat × List Char)
  | [] => if afterDigit then .ok (acc, count, []) else .error .malformed
  | c :: cs =>
    match Text.digitValue? c with
    | some d => readDigits (acc * 10 + d) (count + 1) true cs
    | none =>
      if c == '_' && afterDigit then readDigits acc count false cs
      else if afterDigit then .ok (acc, count, c :: cs)
      else .error .malformed

/-- The characters that may stand around an integer: in a text of ASCII, its white space alone. -/
def isMargin (cs : List Char) : Char → Bool :=
  if cs.all (·.toNat < 0x80) then Text.isAsciiSpace else Text.isBlank

def readInteger (cs : List Char) : Except IntegerFault Int :=
  let blank := isMargin cs
  let cs := cs.dropWhile blank
  let (negative, cs) :=
    match cs with
    | '-' :: r => (true, r)
    | '+' :: r => (false, r)
    | _ => (false, cs)
  match readDigits 0 0 false cs with
  | .error e => .error e
  | .ok (n, count, rest) =>
    if maxDigits < count then .error (.tooLong count)
    else if rest.all blank then .ok (if negative then -n else n)
    else .error .malformed

def integerText (n : Int) : List Char :=
  if n < 0 then '-' :: Nat.toDigits 10 n.natAbs else Nat.toDigits 10 n.natAbs

/-- The refusal of a text with too many digits. -/
def tooLongMessage (digits : Nat) : String :=
  s!"Exceeds the limit ({maxDigits} digits) for integer string conversion: value has {digits} " ++
    "digits; use sys.set_int_max_str_digits() to increase the limit"

/-- The refusal of an integer that is too great to be written out. -/
def tooGreatMessage : String :=
  s!"Exceeds the limit ({maxDigits} digits) for integer string conversion; " ++
    "use sys.set_int_max_str_digits() to increase the limit"

end Walkthrough.Number
