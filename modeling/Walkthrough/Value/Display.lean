import Walkthrough.Number.Power
import Walkthrough.Text.Quoted
import Walkthrough.Value.Basic

/-!
The text of a value in messages: a text is itself; inside lists and objects it is quoted. A value
with an integer of too many digits has a text that is never written out.
-/
namespace Walkthrough

inductive Unwritable
  /-- An integer in it has too many digits. -/
  | tooGreat
  deriving DecidableEq, Repr

def Unwritable.message : Unwritable → String
  | .tooGreat => Number.tooGreatMessage

theorem map_eq_ok_iff {ε α β : Type} {f : α → β} {x : Except ε α} {b : β} :
    x.map f = .ok b ↔ ∃ a, x = .ok a ∧ f a = b := by
  cases x <;> simp [Except.map]

theorem map_eq_error_iff {ε α β : Type} {f : α → β} {x : Except ε α} {e : ε} :
    x.map f = .error e ↔ x = .error e := by
  cases x <;> simp [Except.map]

theorem mapError_eq_ok_iff {ε ε' α : Type} {f : ε → ε'} {x : Except ε α} {a : α} :
    x.mapError f = .ok a ↔ x = .ok a := by
  constructor <;> intro h <;> cases x <;> cases h <;> rfl

/-- Whether an integer has few enough digits to be written out. -/
@[irreducible] def Number.hasFewDigits (n : Int) : Bool :=
  n.natAbs < tenTo maxDigits

namespace Value

/-- How the values that are no numbers or texts are spelled. -/
structure Spelling where
  nothing : String
  yes : String
  no : String

/-- Null and the booleans are written with a capital letter. -/
def spelling : Spelling := ⟨"None", "True", "False"⟩

mutual

/-- A value as it stands inside a list or an object. -/
def form : Value → String
  | .null => spelling.nothing
  | .bool b => if b then spelling.yes else spelling.no
  | .int n => (Number.int n).text
  | .float x => (Number.float x).text
  | .text s => Text.quoted s
  | .moment m => m.form
  | .list items => "[" ++ ", ".intercalate (forms items) ++ "]"
  | .object es => "\x7b" ++ ", ".intercalate (entryForms es) ++ "\x7d"

def forms : List Value → List String
  | [] => []
  | v :: vs => form v :: forms vs

/-- The entries of an object, each a quoted key and its value. -/
def entryForms : List (String × Value) → List String
  | [] => []
  | (k, v) :: es => (Text.quoted k ++ ": " ++ form v) :: entryForms es

end

def display : Value → String
  | .text s => s
  | .moment m => m.text
  | v => v.form

def displayText? (s : Option String) : String :=
  (ofText? s).display

mutual

/-- Whether every integer in a value has few enough digits to be written out. -/
def isWritable : Value → Bool
  | .int n => Number.hasFewDigits n
  | .list items => areWritable items
  | .object es => entriesWritable es
  | _ => true

def areWritable : List Value → Bool
  | [] => true
  | v :: vs => isWritable v && areWritable vs

def entriesWritable : List (String × Value) → Bool
  | [] => true
  | (_, v) :: es => isWritable v && entriesWritable es

end

theorem isWritable_int_iff {n : Int} :
    (int n).isWritable = true ↔ n.natAbs < Number.tenTo Number.maxDigits := by
  unfold isWritable Number.hasFewDigits
  exact decide_eq_true_iff

/-- What does not count as given can be written out. -/
theorem isWritable_of_not_truthy {v : Value} (h : v.truthy = false) : v.isWritable = true := by
  cases v with
  | int n =>
    obtain rfl : n = 0 := by simpa [truthy] using h
    exact isWritable_int_iff.mpr (Number.tenTo_pos _)
  | list items =>
    obtain rfl : items = [] := by simpa [truthy] using h
    rfl
  | object es =>
    obtain rfl : es = [] := by simpa [truthy] using h
    rfl
  | _ => rfl

def write (v : Value) : Except Unwritable String :=
  if v.isWritable then .ok v.display else .error .tooGreat

theorem write_text (s : String) : (text s).write = .ok s := rfl

theorem write_eq_ok_iff {v : Value} {s : String} :
    v.write = .ok s ↔ v.isWritable = true ∧ v.display = s := by
  unfold write
  split <;> simp_all

theorem write_of_isWritable {v : Value} (h : v.isWritable = true) : v.write = .ok v.display :=
  if_pos h

theorem write_of_not_isWritable {v : Value} (h : v.isWritable = false) :
    v.write = .error .tooGreat :=
  if_neg (Bool.eq_false_iff.mp h)

def typeName : Value → String
  | .null => "NoneType"
  | .bool _ => "bool"
  | .int _ => "int"
  | .float _ => "float"
  | .text _ => "str"
  | .moment (.date _) => "datetime.date"
  | .moment (.time _) => "datetime.time"
  | .moment (.dateTime ..) => "datetime.datetime"
  | .list _ => "list"
  | .object _ => "dict"

end Value

end Walkthrough
