import Walkthrough.Number.Integer
import Walkthrough.Number.Binary64

/-!
Reading numbers from the texts of form fields: white space around, a sign, and single underscores
between digits are let pass; only the digits of ASCII count.
-/
namespace Walkthrough.Number

/-- The characters without underscores, if there are some and each stands alone and inside. -/
def dropUnderscores? (cs : List Char) : Option (List Char) :=
  if cs.head? == some '_' || cs.getLast? == some '_' || !cs.contains '_' ||
      doubled cs then none
  else some (cs.filter (· != '_'))
where
  doubled : List Char → Bool
    | '_' :: '_' :: _ => true
    | _ :: cs => doubled cs
    | [] => false

def lowerWord (cs : List Char) : String :=
  String.ofList (cs.map Char.toLower)

/-- A sign at the front: whether it is a minus, and the characters after it. -/
def takeSign : List Char → Bool × List Char
  | '-' :: cs => (true, cs)
  | '+' :: cs => (false, cs)
  | cs => (false, cs)

/-- An exponent that makes up all of the characters; none of them means zero. -/
def exponentOf? : List Char → Option Int
  | [] => some 0
  | c :: cs =>
    if c == 'e' || c == 'E' then
      let (negative, ds) := takeSign cs
      if ds.isEmpty || !ds.all Char.isDigit then none
      else
        let n : Int := decimalValue ds
        some (if negative then -n else n)
    else none

/-- A double without white space or underscores around or inside it. -/
def plainFloat? (cs : List Char) : Option Float :=
  let (negative, cs) := takeSign cs
  let word := lowerWord cs
  if word == "inf" || word == "infinity" then
    some (Binary64.assemble negative 2047 0)
  else if word == "nan" then some (Binary64.assemble negative 2047 (twoTo 51))
  else
    let (whole, rest) := cs.span Char.isDigit
    let (fraction, rest) :=
      match rest with
      | '.' :: r => r.span Char.isDigit
      | _ => ([], rest)
    if whole.isEmpty && fraction.isEmpty then none
    else (exponentOf? rest).map fun e =>
      Binary64.ofDecimal negative (decimalValue (whole ++ fraction)) (e - fraction.length)

def lenientFloat? (s : String) : Option Float :=
  match plainFloat? (Text.trimWith Text.isWhiteSpace s.toList) with
  | some x => some x
  | none => (dropUnderscores? s.toList).bind plainFloat?

/--
Digits without the zeros in front, and without underscores among those zeros; one zero stays
before a point or when there is nothing else.
-/
def dropLeadingZeros? : List Char → Option (List Char)
  | '0' :: cs => zeros '0' cs
  | c :: cs => if c.isDigit then some (c :: cs) else none
  | [] => none
where
  zeros (last : Char) : List Char → Option (List Char)
    | [] => some [last]
    | c :: cs =>
      if c == '0' || c == '_' then zeros c cs
      else if c.isDigit then some (c :: cs)
      else if c == '.' then some (last :: c :: cs)
      else none

/-- Digits without a point and one or more zeros at their end. -/
def dropZeroFraction (cs : List Char) : List Char :=
  let (whole, rest) := cs.span (· != '.')
  match rest with
  | '.' :: z :: zs => if (z :: zs).all (· == '0') then whole else cs
  | _ => cs

/-- Reads an integer; a fraction of zeros is let pass. -/
def lenientInteger (s : String) : Except IntegerFault Int :=
  let (negative, cs) := takeSign (Text.trimWith Text.isWhiteSpace s.toList)
  match dropLeadingZeros? cs with
  | none => .error .malformed
  | some cs =>
    let cs := dropZeroFraction cs
    let cs := (dropUnderscores? cs).getD cs
    let (ds, rest) := cs.span Char.isDigit
    let count := ds.length + if negative then 1 else 0
    if maxDigits < count then .error (.tooLong count)
    else if ds.isEmpty || !rest.isEmpty then .error .malformed
    else
      let n : Int := decimalValue ds
      .ok (if negative then -n else n)

end Walkthrough.Number
