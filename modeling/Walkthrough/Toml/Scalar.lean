import Walkthrough.Number.Lenient
import Walkthrough.Toml.Key
import Walkthrough.Value.Basic

/-! Values of TOML documents that hold no others: dates, times and numbers. -/
namespace Walkthrough.Toml

/-- Reads exactly so many digits as a number. -/
def takeDigits? (count : Nat) (cs : List Char) : Option (Nat × List Char) :=
  let ds := cs.take count
  if ds.length == count && ds.all Char.isDigit then
    some (Number.decimalValue ds, cs.drop count)
  else none

/-- Reads two digits that make a number between two bounds. -/
def takeTwo? (lo hi : Nat) (cs : List Char) : Option (Nat × List Char) :=
  match takeDigits? 2 cs with
  | some (n, rest) => if lo ≤ n ∧ n ≤ hi then some (n, rest) else none
  | none => none

def takeChar? (c : Char) : List Char → Option (List Char)
  | x :: rest => if x == c then some rest else none
  | [] => none

/-- Reads a date; the day may be one that its month lacks. -/
def takeDate? (cs : List Char) : Option (Date × List Char) := do
  let (year, cs) ← takeDigits? 4 cs
  let cs ← takeChar? '-' cs
  let (month, cs) ← takeTwo? 1 12 cs
  let cs ← takeChar? '-' cs
  let (day, cs) ← takeTwo? 1 31 cs
  some (⟨year, month, day⟩, cs)

/-- Reads the fraction of a second as microseconds, if there is one; further digits are dropped. -/
def takeFraction (cs : List Char) : Nat × List Char :=
  match cs with
  | '.' :: rest =>
    let (ds, after) := rest.span Char.isDigit
    if ds.isEmpty then (0, cs)
    else
      let ds := ds.take 6
      (Number.decimalValue ds * Number.tenTo (6 - ds.length), after)
  | _ => (0, cs)

def takeTime? (cs : List Char) : Option (TimeOfDay × List Char) := do
  let (hour, cs) ← takeTwo? 0 23 cs
  let cs ← takeChar? ':' cs
  let (minute, cs) ← takeTwo? 0 59 cs
  let cs ← takeChar? ':' cs
  let (second, cs) ← takeTwo? 0 59 cs
  let (micro, cs) := takeFraction cs
  some (⟨hour, minute, second, micro⟩, cs)

/-- Reads hours and minutes from universal time, after the sign. -/
def takeShift? (cs : List Char) : Option (Nat × List Char) := do
  let (hour, cs) ← takeTwo? 0 23 cs
  let cs ← takeChar? ':' cs
  let (minute, cs) ← takeTwo? 0 59 cs
  some (hour * 60 + minute, cs)

/-- Reads an offset from universal time in minutes, if there is one. -/
def takeOffset (cs : List Char) : Option Int × List Char :=
  match cs with
  | c :: rest =>
    if c == 'Z' || c == 'z' then (some 0, rest)
    else if c == '+' || c == '-' then
      match takeShift? rest with
      | some (n, rest) => (some (if c == '-' then -(n : Int) else n), rest)
      | none => (none, cs)
    else (none, cs)
  | [] => (none, [])

/-- Reads a date, with a time of day if one follows. -/
def takeMoment? (cs : List Char) : Option (Date × Moment × List Char) := do
  let (date, rest) ← takeDate? cs
  let alone := some (date, .date date, rest)
  match rest with
  | c :: after =>
    if c == 'T' || c == 't' || c == ' ' then
      match takeTime? after with
      | some (time, after) =>
        let (offset, after) := takeOffset after
        some (date, .dateTime date time offset, after)
      | none => alone
    else alone
  | [] => alone

/-- Reads digits with single underscores between them: the digits, and what follows. -/
def takeGrouped (isDigit : Char → Bool) : List Char → List Char × List Char
  | [] => ([], [])
  | '_' :: c :: cs =>
    if isDigit c then
      let (ds, rest) := takeGrouped isDigit cs
      (c :: ds, rest)
    else ([], '_' :: c :: cs)
  | c :: cs =>
    if isDigit c then
      let (ds, rest) := takeGrouped isDigit cs
      (c :: ds, rest)
    else ([], c :: cs)

/-- Reads digits as `takeGrouped` does; the first character must be a digit. -/
def takeGrouped? (isDigit : Char → Bool) (cs : List Char) : Option (List Char × List Char) :=
  match cs with
  | c :: _ => if isDigit c then some (takeGrouped isDigit cs) else none
  | [] => none

/-- The base that a letter after a zero stands for. -/
def baseOf? : Char → Option Nat
  | 'x' => some 16
  | 'b' => some 2
  | 'o' => some 8
  | _ => none

def isDigitOf (base : Nat) (c : Char) : Bool :=
  match Text.hexValue? c with
  | some d => d < base
  | none => false

/-- Reads an integer that states its base. -/
def takeBased? : List Char → Option (Int × List Char)
  | '0' :: letter :: rest => do
    let base ← baseOf? letter
    let (ds, rest) ← takeGrouped? (isDigitOf base) rest
    let n : Nat := ds.foldl (fun n d => n * base + (Text.hexValue? d).getD 0) 0
    some (n, rest)
  | _ => none

/-- The digits of an integer in decimal: a zero alone, or digits that start with another one. -/
def takeWhole? : List Char → Option (List Char × List Char)
  | '0' :: rest => some (['0'], rest)
  | cs => takeGrouped? Char.isDigit cs

def takeFractionDigits? : List Char → Option (List Char × List Char)
  | '.' :: rest => takeGrouped? Char.isDigit rest
  | _ => none

def takeExponent? : List Char → Option (Int × List Char)
  | c :: rest =>
    if c == 'e' || c == 'E' then do
      let (negative, rest) := Number.takeSign rest
      let (ds, rest) ← takeGrouped? Char.isDigit rest
      let n : Int := Number.decimalValue ds
      some (if negative then -n else n, rest)
    else none
  | [] => none

/-- Reads a number in decimal, a double when it has a fraction or an exponent. -/
def takeDecimal? (cs : List Char) : Option (Except Slip (Value × List Char)) :=
  let (negative, body) := Number.takeSign cs
  match takeWhole? body with
  | none => none
  | some (ds, rest) =>
    match takeFractionDigits? rest, takeExponent? rest with
    | none, none =>
      if Number.maxDigits < ds.length then some (.error (.tooManyDigits ds.length))
      else
        let n : Int := Number.decimalValue ds
        some (.ok (.int (if negative then -n else n), rest))
    | none, some (e, rest) =>
      some (.ok (.float (Number.Binary64.ofDecimal negative (Number.decimalValue ds) e), rest))
    | some (fs, rest), _ =>
      let (e, rest) := (takeExponent? rest).getD (0, rest)
      some (.ok (.float (Number.Binary64.ofDecimal negative (Number.decimalValue (ds ++ fs))
        (e - fs.length)), rest))

/-- Reads an infinity or the double that is no number. -/
def takeSpecial? (cs : List Char) : Option (Value × List Char) :=
  let (negative, body) := Number.takeSign cs
  match body with
  | 'i' :: 'n' :: 'f' :: rest => some (.float (Number.Binary64.assemble negative 2047 0), rest)
  | 'n' :: 'a' :: 'n' :: rest =>
    some (.float (Number.Binary64.assemble negative 2047 (Number.twoTo 51)), rest)
  | _ => none

def readMomentOrNumber (cs : List Char) : Except Slip (Value × List Char) :=
  match takeMoment? cs with
  | some (date, moment, rest) =>
    if Moment.isDay date then .ok (.moment moment, rest) else .error (.at .badMoment cs)
  | none =>
    match takeTime? cs with
    | some (time, rest) => .ok (.moment (.time time), rest)
    | none =>
      match takeBased? cs with
      | some (n, rest) => .ok (.int n, rest)
      | none =>
        match takeDecimal? cs with
        | some r => r
        | none =>
          match takeSpecial? cs with
          | some r => .ok r
          | none => .error (.at .badValue cs)

def readScalar (cs : List Char) : Except Slip (Value × List Char) :=
  match readString? cs with
  | some r => r.map fun (s, rest) => (.text (String.ofList s), rest)
  | none =>
    match cs with
    | 't' :: 'r' :: 'u' :: 'e' :: rest => .ok (.bool true, rest)
    | 'f' :: 'a' :: 'l' :: 's' :: 'e' :: rest => .ok (.bool false, rest)
    | _ => readMomentOrNumber cs

end Walkthrough.Toml
