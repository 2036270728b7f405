import Walkthrough.Number.Integer
import Walkthrough.Text.Quoted

/-! What can be wrong with a TOML document, and how it is reported. -/
namespace Walkthrough.Toml

/-- The keys that lead from the root of a document to one of its tables or values. -/
abbrev Path := List String

/-- The text of a path: its keys in quotes between parentheses, a lone one with a comma. -/
def pathText (p : Path) : String :=
  match p with
  | [k] => "(" ++ Text.quoted k ++ ",)"
  | _ => "(" ++ ", ".intercalate (p.map Text.quoted) ++ ")"

inductive Complaint
  | badStatement
  | trailingText
  | unclosedTableHeader
  | unclosedArrayHeader
  | noEquals
  | badKey
  | badValue
  | badMoment
  | unclosedArray
  | unclosedInlineTable
  | duplicateKey (key : String)
  | strayBackslash
  | badHex
  | noScalarValue
  | unterminatedString
  | illegalCharacter (c : Char)
  | invalidCharacter (c : Char)
  | expected (mark : String)
  | declaredTwice (path : Path)
  | redefined (path : Path)
  | immutable (path : Path)
  | overwritten
  deriving DecidableEq, Repr

def Complaint.text : Complaint → String
  | .badStatement => "Invalid statement"
  | .trailingText => "Expected newline or end of document after a statement"
  | .unclosedTableHeader => "Expected ']' at the end of a table declaration"
  | .unclosedArrayHeader => "Expected ']]' at the end of an array declaration"
  | .noEquals => "Expected '=' after a key in a key/value pair"
  | .badKey => "Invalid initial character for a key part"
  | .badValue => "Invalid value"
  | .badMoment => "Invalid date or datetime"
  | .unclosedArray => "Unclosed array"
  | .unclosedInlineTable => "Unclosed inline table"
  | .duplicateKey key => "Duplicate inline table key " ++ Text.quoted key
  | .strayBackslash => "Unescaped '\\' in a string"
  | .badHex => "Invalid hex value"
  | .noScalarValue => "Escaped character is not a Unicode scalar value"
  | .unterminatedString => "Unterminated string"
  | .illegalCharacter c => "Illegal character " ++ Text.quoted (String.singleton c)
  | .invalidCharacter c => "Found invalid character " ++ Text.quoted (String.singleton c)
  | .expected mark => "Expected " ++ Text.quoted mark
  | .declaredTwice path => "Cannot declare " ++ pathText path ++ " twice"
  | .redefined path => "Cannot redefine namespace " ++ pathText path
  | .immutable path => "Cannot mutate immutable namespace " ++ pathText path
  | .overwritten => "Cannot overwrite a value"

/-- Where an offence stands: a line and a column from one, or the end of the document. -/
inductive Place
  | at (line column : Nat)
  | atEnd
  deriving DecidableEq, Repr

def Place.text : Place → String
  | .at line column => s!"line {line}, column {column}"
  | .atEnd => "end of document"

inductive Fault
  | offence (complaint : Complaint) (place : Place)
  | tooManyDigits (digits : Nat)
  deriving DecidableEq, Repr

def Fault.message : Fault → String
  | .offence complaint place => complaint.text ++ " (at " ++ place.text ++ ")"
  | .tooManyDigits digits => Number.tooLongMessage digits

/-- A fault in the making: an offence is placed by the characters from it to the end. -/
inductive Slip
  | at (complaint : Complaint) (rest : List Char)
  | tooManyDigits (digits : Nat)

/-- The place of the characters `rest` at the end of a document. -/
def placeOf (document rest : List Char) : Place :=
  match rest with
  | [] => .atEnd
  | _ =>
    let before := document.take (document.length - rest.length)
    .at (before.count '\n' + 1) ((before.reverse.takeWhile (· != '\n')).length + 1)

def Slip.toFault (document : List Char) : Slip → Fault
  | .at complaint rest => .offence complaint (placeOf document rest)
  | .tooManyDigits digits => .tooManyDigits digits

end Walkthrough.Toml
