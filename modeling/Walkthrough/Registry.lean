import Walkthrough.Schema
import Walkthrough.Value.Pairs

/-! Registries: the types of action that are admitted, with descriptions, in order of admission. -/
namespace Walkthrough

inductive Candidate
  /-- A known type of action. -/
  | known (kind : ActionKind)
  /-- A type of action for which there is no schema. -/
  | undeclared (name : String)
  /-- Something that is no type of action. -/
  | foreign
  deriving DecidableEq, Repr

structure Registration where
  kind : ActionKind
  description : Option String
  deriving DecidableEq, Repr

/-- A registry; each type of action is admitted at most once. -/
structure Registry where
  registrations : List Registration
  deriving DecidableEq, Repr

/-- Why a registry does not read a value as an action. -/
inductive ParseFault
  | nothingRegistered
  | notEntries (fault : NotEntries)
  | noTag
  | unknownTag (tag : Value) (expected : List String)
  | invalid (kind : ActionKind) (faults : List FieldFault)

/-- The report of a value that is not read; wrong fields are reported one by one. -/
def ParseFault.message : ParseFault → String
  | .nothingRegistered => "No actions registered"
  | .notEntries f => f.message
  | .noTag => "Unable to extract tag using discriminator 'action'"
  | .unknownTag tag expected =>
    "Input tag '" ++ tag.display ++ "' found using 'action' does not match any of the expected " ++
      "tags: " ++ ", ".intercalate (expected.map fun name => "'" ++ name ++ "'")
  | .invalid .. => ""

/-- Why a registry does not admit a candidate, or does not have a name. -/
inductive RegistryFault
  | notAnAction
  | noSchema (name : String)
  | unknownName (name : String)
  deriving DecidableEq, Repr

def RegistryFault.message : RegistryFault → String
  | .notAnAction => "model must subclass ActionBase"
  | .noSchema name => s!"No schema declared for action '{name}'"
  | .unknownName name => s!"Unknown action '{name}'"

namespace Registration

def name (r : Registration) : String := r.kind.name

/-- What is told about a registered type of action. -/
def metadata (r : Registration) : Value :=
  .object [
    ("name", .text r.name),
    ("required", .list (r.kind.schema.required.map .text)),
    ("optional", .list (r.kind.schema.optional.map .text)),
    ("defaultTimeout", match r.kind.defaultTimeout? with | some n => .int n | none => .null),
    ("description", .text (r.description.getD ""))]

end Registration

namespace Registry

def empty : Registry := ⟨[]⟩

/-- Puts a registration in the place of the one of its type, or at the end. -/
def put (r : Registration) : List Registration → List Registration
  | [] => [r]
  | s :: ss => if s.kind = r.kind then r :: ss else s :: put r ss

/-- Admits a candidate; a type admitted before keeps its place and gets the new description. -/
def register (g : Registry) (c : Candidate) (description : Option String) :
    Except RegistryFault Registry :=
  match c with
  | .known kind => .ok ⟨put ⟨kind, description⟩ g.registrations⟩
  | .undeclared name => .error (.noSchema name)
  | .foreign => .error .notAnAction

def names (g : Registry) : List String :=
  g.registrations.map Registration.name

def get? (g : Registry) (name : String) : Option Registration :=
  g.registrations.find? (·.name == name)

/-- The registration under a name, or the report that there is none. -/
def get (g : Registry) (name : String) : Except RegistryFault Registration :=
  match g.get? name with
  | some r => .ok r
  | none => .error (.unknownName name)

def size (g : Registry) : Nat := g.registrations.length

def schema (g : Registry) : Value :=
  .object (g.registrations.map fun r => (r.name, r.metadata))

/-- Reads the entries of an object as an action of the registered type that they name. -/
def parseEntries (g : Registry) (es : Entries) : Except ParseFault Action :=
  match Entries.get? es "action" with
  | none => .error .noTag
  | some tag =>
    match tag with
    | .text name =>
      match g.get? name with
      | some r => (Action.read r.kind es).mapError (.invalid r.kind)
      | none => .error (.unknownTag tag g.names)
    | _ => .error (.unknownTag tag g.names)

def parse (g : Registry) (v : Value) : Except ParseFault Action :=
  if g.registrations.isEmpty then .error .nothingRegistered
  else
    match v.toEntries with
    | .error e => .error (.notEntries e)
    | .ok es => g.parseEntries es

def standard : Registry :=
  ⟨ActionKind.all.map fun k => ⟨k, some k.description⟩⟩

end Registry

end Walkthrough
