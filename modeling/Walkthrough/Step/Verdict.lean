import Walkthrough.Number.Integer
import Walkthrough.Text.Blank
import Walkthrough.Text.Substring
import Walkthrough.Value.Display

/-! Verdicts of assertions: whether they passed, and a message that says why. -/
namespace Walkthrough

structure Verdict where
  passed : Bool
  message : String
  deriving DecidableEq, Repr

namespace Verdict

def toValue (v : Verdict) : Value :=
  .object [("passed", .bool v.passed), ("message", .text v.message)]

/-- An optional text, or another one if it is missing or empty. -/
def orElse (s : Option String) (other : String) : String :=
  match s with
  | some t => if t = "" then other else t
  | none => other

def quote (s : String) : String := "\"" ++ s ++ "\""

/-- The kind of a value, as scripts name it. -/
def kindOf : Value → String
  | .null => "undefined"
  | .bool _ => "boolean"
  | .int _ | .float _ => "number"
  | .text _ => "string"
  | .moment _ | .list _ | .object _ => "object"

/-- The verdict on what a script returned: a boolean, or an object that says whether it passed. -/
def ofScript (value : Value) (message : Option String) : Value :=
  match value with
  | .bool b =>
    toValue ⟨b, orElse message (if b then "Assertion passed" else "Assertion failed")⟩
  | .object es =>
    match Entries.getD es "passed" with
    | .bool _ => value
    | _ => complaint
  | _ => complaint
where
  complaint : Value :=
    toValue ⟨false,
      "Assertion script must return boolean or \x7b passed, message \x7d. Got: " ++ kindOf value⟩

def ofCount (selector : String) (expected : Int) (count : Nat) : Except Unwritable Verdict := do
  let wanted ← (Value.int expected).write
  if (count : Int) = expected then
    return ⟨true, "Found expected " ++ wanted ++ " element(s) for " ++ quote selector⟩
  else
    let found ← (Value.int count).write
    return ⟨false, "Expected " ++ wanted ++ " element(s) for " ++ quote selector ++ ", found " ++
      found⟩

def ofVisibility (selector : String) (visible : Bool) : Verdict :=
  if visible then ⟨true, "Element " ++ quote selector ++ " is visible"⟩
  else ⟨false, "Element " ++ quote selector ++ " is not visible"⟩

def ofPresence (selector : String) (count : Nat) (message : Option String) :
    Except Unwritable Verdict :=
  if 0 < count then
    (Value.int count).write.map fun found =>
      ⟨true, "Found " ++ found ++ " element(s) matching " ++ quote selector⟩
  else .ok ⟨false, orElse message ("No elements found for " ++ quote selector)⟩

/-- The verdict on the text of an element without the blanks around it. -/
def ofText (content expected : String) (exact : Bool) : Verdict :=
  let actual := Text.strip content
  if exact then
    if actual = expected then ⟨true, "Text matches exactly: " ++ quote expected⟩
    else ⟨false, "Text mismatch. Expected: " ++ quote expected ++ ", Found: " ++ quote actual⟩
  else if Text.contains actual expected then ⟨true, "Text contains: " ++ quote expected⟩
  else ⟨false, "Text does not contain " ++ quote expected ++ ". Found: " ++ quote actual⟩

def ofMissing (selector : String) (message : Option String) : Verdict :=
  ⟨false, orElse message ("Element " ++ quote selector ++ " not found")⟩

def ofMatch (what actual pattern : String) (message : Option String) (matched : Bool) : Verdict :=
  if matched then ⟨true, what ++ " matches pattern: " ++ quote pattern⟩
  else
    ⟨false, orElse message
      (what ++ " " ++ quote actual ++ " does not match pattern " ++ quote pattern)⟩

end Verdict

end Walkthrough
