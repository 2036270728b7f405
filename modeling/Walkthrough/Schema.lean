import Walkthrough.Action.Basic

/-! Schemas: the keys that an action of each type must or may have. -/
namespace Walkthrough

/-- The keys of a type of action, the required and the optional ones. -/
structure Schema where
  required : List String
  optional : List String
  deriving DecidableEq, Repr

/-- Every key that an action may have. -/
def Schema.knownFields (s : Schema) : List String :=
  ["action", "label"] ++ s.required ++ s.optional

def ActionKind.schema (k : ActionKind) : Schema where
  required := (k.fields.filter (·.required)).map Field.wire
  optional := (k.fields.filter (!·.required)).map Field.wire

namespace Schema

def named? (name : String) : Option Schema :=
  (ActionKind.ofName? name).map ActionKind.schema

def listing (keys : List String) : String :=
  if keys.isEmpty then "none" else ", ".intercalate keys

/-- One line about a type of action. -/
def describe (k : ActionKind) : String :=
  "  - " ++ k.name ++ ": required=[" ++ listing k.schema.required ++ "], optional=[" ++
    listing k.schema.optional ++ "]"

/-- The catalogue of all types of action, one line each. -/
def catalogue : String :=
  "\n".intercalate (ActionKind.all.map describe)

/-- The types of action that have a timeout of their own, and how many milliseconds it is. -/
def defaultTimeouts : List (String × Int) :=
  ActionKind.all.filterMap fun k => k.defaultTimeout?.map (k.name, ·)

end Schema

end Walkthrough
