import Walkthrough.Number.Integer
import Walkthrough.Pattern.Basic
import Walkthrough.Text.Name

/-!
The tokens of a pattern's text, escapes, and sets of characters. Characters may be named, and what
their names are is known to the system that patterns are read on.
-/
namespace Walkthrough.Pattern

/-- The system that patterns are read on. -/
class Host where
  /-- The code point of the character with a name. -/
  codeOf? : (name : List Char) → Option Nat
  /-- The report of a pattern in which groups are nested too deeply to be read. -/
  complaint? : List Char → Option String
  /-- Nothing but groups is nested. -/
  bracket_mem : ∀ {cs report}, complaint? cs = some report → '(' ∈ cs

namespace Host

/-- A system that knows no character by its name, and reads groups nested to any depth. -/
scoped instance plain : Host where
  codeOf? _ := none
  complaint? _ := none
  bracket_mem := nofun

end Host

/-- A character, or a backslash and a character; a backslash may stand alone at the end. -/
inductive Token
  | char (c : Char)
  | escape (c : Char)
  | loneBackslash
  deriving DecidableEq, Repr

inductive Fault
  | malformed
  | oversizedCount
  | longCount (digits : Nat)
  | clashingFlags
  /-- Groups are nested too deeply; what the system reports. -/
  | tooDeep (report : String)
  deriving DecidableEq, Repr

def tokens : List Char → List Token
  | [] => []
  | '\\' :: c :: cs => .escape c :: tokens cs
  | ['\\'] => [.loneBackslash]
  | c :: cs => .char c :: tokens cs

def Token.chars : Token → List Char
  | .char c => [c]
  | .escape c => ['\\', c]
  | .loneBackslash => ['\\']

/-- Up to so many characters at the front that satisfy a test, and what follows them. -/
def takeChars (p : Char → Bool) : Nat → List Token → List Char × List Token
  | n + 1, .char c :: ts =>
    if p c then
      let (cs, rest) := takeChars p n ts
      (c :: cs, rest)
    else ([], .char c :: ts)
  | _, ts => ([], ts)

/-- All characters at the front that satisfy a test, and what follows them. -/
def spanChars (p : Char → Bool) (ts : List Token) : List Char × List Token :=
  takeChars p ts.length ts

def isOctal (c : Char) : Bool := '0' ≤ c && c ≤ '7'

/-- The number that digits make in a base. -/
def valueOf (base : Nat) (ds : List Char) : Nat :=
  ds.foldl (fun n d => n * base + (Text.hexValue? d).getD 0) 0

/-- The characters up to a closing one, at least one of them. -/
def takeUntil (close : Char) (acc : List Char) : List Token → Except Fault (List Char × List Token)
  | [] => .error .malformed
  | t :: ts =>
    if t = .char close then if acc.isEmpty then .error .malformed else .ok (acc, ts)
    else if t = .loneBackslash then .error .malformed
    else takeUntil close (acc ++ t.chars) ts

/-- The code point that a letter after a backslash stands for. -/
def controlCode? : Char → Option Nat
  | 'a' => some 7
  | 'b' => some 8
  | 'f' => some 12
  | 'n' => some 10
  | 'r' => some 13
  | 't' => some 9
  | 'v' => some 11
  | '\\' => some 92
  | _ => none

/-- The category that a letter after a backslash stands for. -/
def categoryOf? : Char → Option SetPart
  | 'd' => some (.category false .digit)
  | 'D' => some (.category true .digit)
  | 's' => some (.category false .space)
  | 'S' => some (.category true .space)
  | 'w' => some (.category false .word)
  | 'W' => some (.category true .word)
  | _ => none

/-- The code point that exactly so many hexadecimal digits make. -/
def takeHex (count : Nat) (ts : List Token) : Except Fault (Nat × List Token) :=
  let (ds, rest) := takeChars (fun c => (Text.hexValue? c).isSome) count ts
  let n := valueOf 16 ds
  if ds.length = count ∧ n ≤ 0x10FFFF then .ok (n, rest) else .error .malformed

/-- The code point of a character that is named between braces. -/
def takeNamed [Host] (ts : List Token) : Except Fault (Nat × List Token) :=
  match ts with
  | .char '\x7b' :: rest =>
    match takeUntil '\x7d' [] rest with
    | .error e => .error e
    | .ok (name, rest) =>
      match Host.codeOf? name with
      | some n => .ok (n, rest)
      | none => .error .malformed
  | _ => .error .malformed

/--
The code point of an escape that is the same everywhere: by number, by name, or the character
itself.
-/
def takeCode [Host] (c : Char) (ts : List Token) : Except Fault (Nat × List Token) :=
  if c = 'x' then takeHex 2 ts
  else if c = 'u' then takeHex 4 ts
  else if c = 'U' then takeHex 8 ts
  else if c = 'N' then takeNamed ts
  else if c.isAlphanum then .error .malformed
  else .ok (c.toNat, ts)

/-- What an escape stands for inside a set. -/
def readSetEscape [Host] (c : Char) (ts : List Token) : Except Fault (SetPart × List Token) :=
  match controlCode? c, categoryOf? c with
  | some n, _ => .ok (.literal n, ts)
  | none, some part => .ok (part, ts)
  | none, none =>
    if isOctal c then
      let (ds, rest) := takeChars isOctal 2 ts
      let n := valueOf 8 (c :: ds)
      if n ≤ 0o377 then .ok (.literal n, rest) else .error .malformed
    else (takeCode c ts).map fun (n, rest) => (.literal n, rest)

/-- A part of a set that one token begins. -/
def readSetPart [Host] (t : Token) (ts : List Token) : Except Fault (SetPart × List Token) :=
  match t with
  | .char c => .ok (.literal c.toNat, ts)
  | .escape c => readSetEscape c ts
  | .loneBackslash => .error .malformed

/-- A range, whose ends are code points in order. -/
def rangeOf (a b : SetPart) : Except Fault SetPart :=
  match a, b with
  | .literal lo, .literal hi => if lo ≤ hi then .ok (.range lo hi) else .error .malformed
  | _, _ => .error .malformed

/-- The parts of a set up to its closing bracket, which may not come first. -/
def readSetParts [Host] : (fuel : Nat) → (acc : List SetPart) → List Token →
    Except Fault (List SetPart × List Token)
  | 0, _, _ | _, _, [] => .error .malformed
  | fuel + 1, acc, t :: ts =>
    if t = .char ']' ∧ acc ≠ [] then .ok (acc.reverse, ts)
    else
      match readSetPart t ts with
      | .error e => .error e
      | .ok (a, .char '-' :: ts) =>
        match ts with
        | [] => .error .malformed
        | .char ']' :: ts => .ok ((.literal '-'.toNat :: a :: acc).reverse, ts)
        | u :: ts =>
          match readSetPart u ts with
          | .error e => .error e
          | .ok (b, ts) =>
            match rangeOf a b with
            | .error e => .error e
            | .ok part => readSetParts fuel (part :: acc) ts
      | .ok (a, ts) => readSetParts fuel (a :: acc) ts

/-- A set after its opening bracket; one code point alone is no set. -/
def readSet [Host] (ts : List Token) : Except Fault (CharTest × List Token) :=
  let (negated, ts) :=
    match ts with
    | .char '^' :: rest => (true, rest)
    | _ => (false, ts)
  match readSetParts (ts.length + 1) [] ts with
  | .error e => .error e
  | .ok (parts, rest) =>
    match parts.eraseDups with
    | [.literal n] => .ok (if negated then .notLiteral n else .literal n, rest)
    | parts => .ok (.set negated parts, rest)

end Walkthrough.Pattern
