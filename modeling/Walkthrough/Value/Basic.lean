import Walkthrough.Number.Basic
import Walkthrough.Value.Moment

/-! The values that actions, pages and settings are written in. -/
namespace Walkthrough

/-- A value; an object keeps its entries in the order in which they were written. -/
inductive Value
  | null
  | bool (b : Bool)
  | int (n : Int)
  | float (x : Float)
  | text (s : String)
  | moment (m : Moment)
  | list (items : List Value)
  | object (entries : List (String × Value))
  deriving Inhabited

abbrev Entries := List (String × Value)

namespace Entries

def get? (es : Entries) (key : String) : Option Value :=
  (es.find? (·.1 == key)).map (·.2)

def keys (es : Entries) : List String :=
  es.map (·.1)

def has (es : Entries) (key : String) : Bool :=
  (es.get? key).isSome

/-- The value under a key, null when the key is not there. -/
def getD (es : Entries) (key : String) : Value :=
  (es.get? key).getD .null

/-- Replaces the value under a key in its place, or adds the entry at the end. -/
def set (es : Entries) (key : String) (v : Value) : Entries :=
  match es with
  | [] => [(key, v)]
  | e :: rest => if e.1 == key then (key, v) :: rest else e :: set rest key v

/-- Overwrites entries by others, one after the other. -/
def merge (es others : Entries) : Entries :=
  others.foldl (fun acc e => acc.set e.1 e.2) es

theorem get?_nil (key : String) : get? [] key = none := rfl

theorem get?_cons (e : String × Value) (es : Entries) (key : String) :
    get? (e :: es) key = if e.1 == key then some e.2 else get? es key := by
  simp only [get?, List.find?_cons]
  split <;> simp_all

theorem get?_set (es : Entries) (key k : String) (v : Value) :
    get? (es.set key v) k = if key == k then some v else get? es k := by
  induction es with
  | nil => simp [set, get?_cons, get?_nil]
  | cons e es ih =>
    by_cases h : e.1 == key
    · simp only [set, h, if_true, get?_cons]
      by_cases hk : key == k <;> simp_all
    · simp only [set, h, get?_cons, Bool.false_eq_true, if_false, ih]
      by_cases hk : key == k <;> simp_all

end Entries

namespace Value

def ofNumber : Number → Value
  | .int n => .int n
  | .float x => .float x

/-- The number that a value is; booleans are not numbers. -/
def number? : Value → Option Number
  | .int n => some (.int n)
  | .float x => some (.float x)
  | _ => none

/-- The value under a key of an object; null for anything else. -/
def field (v : Value) (key : String) : Value :=
  match v with
  | .object es => Entries.getD es key
  | _ => .null

/-- Whether a value counts as given: null, false, zero and empty ones do not. -/
def truthy : Value → Bool
  | .null => false
  | .bool b => b
  | .int n => n != 0
  | .float x => x != 0.0
  | .text s => s != ""
  | .moment _ => true
  | .list items => !items.isEmpty
  | .object es => !es.isEmpty

def isBlank : Value → Bool
  | .null => true
  | .text s => s == ""
  | _ => false

def ofText? : Option String → Value
  | none => .null
  | some s => .text s

def ofBool? : Option Bool → Value
  | none => .null
  | some b => .bool b

def ofFloat? : Option Float → Value
  | none => .null
  | some x => .float x

end Value

end Walkthrough
