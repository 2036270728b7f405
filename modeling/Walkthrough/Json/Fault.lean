import Walkthrough.Number.Integer

/-! What can be wrong with a JSON text, and how it is reported. -/
namespace Walkthrough.Json

inductive Complaint
  | expectingValue
  | expectingName
  | expectingColon
  | expectingComma
  | unterminatedString
  | controlCharacter
  | badEscape
  | badUnicodeEscape
  | extraData
  | byteOrderMark
  deriving DecidableEq, Repr

def Complaint.text : Complaint → String
  | .expectingValue => "Expecting value"
  | .expectingName => "Expecting property name enclosed in double quotes"
  | .expectingColon => "Expecting ':' delimiter"
  | .expectingComma => "Expecting ',' delimiter"
  | .unterminatedString => "Unterminated string starting at"
  | .controlCharacter => "Invalid control character at"
  | .badEscape => "Invalid \\escape"
  | .badUnicodeEscape => "Invalid \\uXXXX escape"
  | .extraData => "Extra data"
  | .byteOrderMark => "Unexpected UTF-8 BOM (decode using utf-8-sig)"

/-- Why a text is not read: an offence with its position, a too long integer, too deep nesting. -/
inductive Fault
  | at (complaint : Complaint) (pos : Nat)
  | tooManyDigits (digits : Nat)
  | tooDeep (inArray : Bool)
  deriving DecidableEq, Repr

/-- The line and the column of a position, both from one; only line feeds end a line. -/
def lineColumn (cs : List Char) (pos : Nat) : Nat × Nat :=
  let before := cs.take pos
  (before.count '\n' + 1, (before.reverse.takeWhile (· != '\n')).length + 1)

def Fault.message (cs : List Char) : Fault → String
  | .at complaint pos =>
    let (line, column) := lineColumn cs pos
    s!"{complaint.text}: line {line} column {column} (char {pos})"
  | .tooManyDigits digits => Number.tooLongMessage digits
  | .tooDeep inArray =>
    let kind := if inArray then "array" else "object"
    s!"maximum recursion depth exceeded while decoding a JSON {kind} from a unicode string"

end Walkthrough.Json
