import Walkthrough.Value.Display

/-! Objects made of pairs. -/
namespace Walkthrough

inductive NotEntries
  | notIterable (type : String)
  | notAPair (index : Nat)
  | wrongLength (index length : Nat)
  | unhashable (type : String)
  deriving DecidableEq, Repr

def NotEntries.message : NotEntries → String
  | .notIterable type => s!"'{type}' object is not iterable"
  | .notAPair i => s!"cannot convert dictionary update sequence element #{i} to a sequence"
  | .wrongLength i n => s!"dictionary update sequence element #{i} has length {n}; 2 is required"
  | .unhashable type => s!"unhashable type: '{type}'"

/-- The parts of a value that has parts: characters, items or keys. -/
def Value.parts? : Value → Option (List Value)
  | .text s => some (s.toList.map fun c => .text c.toString)
  | .list items => some items
  | .object es => some (es.map fun e => .text e.1)
  | _ => none

/-- Entries made of pairs; pairs whose first part is no text are passed over. -/
def entriesOfPairs (index : Nat) (acc : Entries) : List Value → Except NotEntries Entries
  | [] => .ok acc
  | v :: vs =>
    match v.parts? with
    | none => .error (.notAPair index)
    | some [k, w] =>
      match k with
      | .text key => entriesOfPairs (index + 1) (Entries.set acc key w) vs
      | .list _ | .object _ => .error (.unhashable k.typeName)
      | _ => entriesOfPairs (index + 1) acc vs
    | some ps => .error (.wrongLength index ps.length)

/-- The entries of an object, or those that pairs make. -/
def Value.toEntries (v : Value) : Except NotEntries Entries :=
  match v with
  | .object es => .ok es
  | _ =>
    match v.parts? with
    | none => .error (.notIterable v.typeName)
    | some ps => entriesOfPairs 0 [] ps

end Walkthrough
