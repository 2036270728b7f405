import Walkthrough.Text.Digit
import Walkthrough.Value.Display

/-! Writing values as JSON texts in ASCII. -/
namespace Walkthrough.Json

def escapeUnit (n : Nat) : List Char :=
  '\\' :: 'u' :: Text.hex 4 n

/-- A character inside a string: escaped when it is no printable ASCII, a quote or a backslash. -/
def printChar (c : Char) : List Char :=
  if c == '"' then ['\\', '"']
  else if c == '\\' then ['\\', '\\']
  else if c == '\n' then ['\\', 'n']
  else if c == '\r' then ['\\', 'r']
  else if c == '\t' then ['\\', 't']
  else if c == '\x08' then ['\\', 'b']
  else if c == '\x0c' then ['\\', 'f']
  else if 0x20 ≤ c.toNat ∧ c.toNat < 0x7F then [c]
  else if c.toNat < 0x10000 then escapeUnit c.toNat
  else
    let n := c.toNat - 0x10000
    escapeUnit (0xD800 + n / 0x400) ++ escapeUnit (0xDC00 + n % 0x400)

def printString (cs : List Char) : List Char :=
  '"' :: cs.flatMap printChar ++ ['"']

/-- The text of a double: as elsewhere, but for the words of those that are not finite. -/
def printFloat (x : Float) : List Char :=
  match Number.Binary64.ofFloat x with
  | .nan => "NaN".toList
  | .infinite negative => if negative then "-Infinity".toList else "Infinity".toList
  | .finite .. => (Number.floatText x).toList

mutual

def print : Value → List Char
  | .null => "null".toList
  | .bool b => if b then "true".toList else "false".toList
  | .int n => Number.integerText n
  | .float x => printFloat x
  | .text s => printString s.toList
  | .moment m => printString m.text.toList
  | .list [] => ['[', ']']
  | .list (v :: vs) => '[' :: print v ++ printItems vs
  | .object [] => ['\x7b', '\x7d']
  | .object ((k, v) :: es) =>
    '\x7b' :: printString k.toList ++ ':' :: ' ' :: print v ++ printEntries es

/-- The items of an array after the first, and the closing bracket. -/
def printItems : List Value → List Char
  | [] => [']']
  | v :: vs => ',' :: ' ' :: print v ++ printItems vs

/-- The entries of an object after the first, and the closing brace. -/
def printEntries : List (String × Value) → List Char
  | [] => ['\x7d']
  | (k, v) :: es => ',' :: ' ' :: printString k.toList ++ ':' :: ' ' :: print v ++ printEntries es

end

end Walkthrough.Json
