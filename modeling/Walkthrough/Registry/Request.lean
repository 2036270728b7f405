import Walkthrough.Registry

/-!
Requests to a registry, and the answers to a whole history of them. What reads actions is built when
it is first needed, from the types that are registered by then, and kept until the next admission.
-/
namespace Walkthrough

inductive RegistryRequest
  | register (candidate : Candidate) (description : Option String)
  | get (name : String)
  | contains (name : String)
  | size
  | names
  | schema
  | parse (v : Value)

inductive RegistryAnswer
  | admitted
  | registration (r : Registration)
  | contained (b : Bool)
  | size (n : Nat)
  | names (ns : List String)
  | schema (v : Value)
  | action (a : Action)

inductive RequestFault
  | registry (fault : RegistryFault)
  | parse (fault : ParseFault)

/-- What reads actions of the types that it was built for. -/
structure ActionReader where
  kinds : List ActionKind
  deriving DecidableEq, Repr

namespace ActionReader

def ofRegistry (g : Registry) : ActionReader :=
  ⟨g.registrations.map (·.kind)⟩

def read (r : ActionReader) (v : Value) : Except ParseFault Action :=
  match v.toEntries with
  | .error e => .error (.notEntries e)
  | .ok es => Registry.parseEntries ⟨r.kinds.map (⟨·, none⟩)⟩ es

end ActionReader

/-- A registry that serves requests, and the reader that it keeps. -/
structure ServingRegistry where
  registry : Registry
  reader : Option ActionReader
  deriving DecidableEq, Repr

namespace ServingRegistry

def fresh : ServingRegistry := ⟨.empty, none⟩

def register (g : ServingRegistry) (c : Candidate) (description : Option String) :
    Except RegistryFault Unit × ServingRegistry :=
  match g.registry.register c description with
  | .ok registry => (.ok (), ⟨registry, none⟩)
  | .error f => (.error f, g)

/-- The reader that is kept, or else one that is built now, if anything is registered. -/
def ensureReader (g : ServingRegistry) : Except ParseFault ActionReader × ServingRegistry :=
  match g.reader with
  | some r => (.ok r, g)
  | none =>
    if g.registry.registrations.isEmpty then (.error .nothingRegistered, g)
    else
      let r := ActionReader.ofRegistry g.registry
      (.ok r, { g with reader := some r })

/-- Reads a value as an action of a registered type. -/
def parse (g : ServingRegistry) (v : Value) : Except ParseFault Action × ServingRegistry :=
  let (reader, g) := g.ensureReader
  (reader.bind (·.read v), g)

/-- Meets a request: the answer, and the registry after it. -/
def serve (g : ServingRegistry) : RegistryRequest →
    Except RequestFault RegistryAnswer × ServingRegistry
  | .register c description =>
    let (outcome, g) := g.register c description
    (outcome.mapError RequestFault.registry |>.map fun _ => .admitted, g)
  | .get name => ((g.registry.get name).mapError RequestFault.registry |>.map .registration, g)
  | .contains name => (.ok (.contained (g.registry.get? name).isSome), g)
  | .size => (.ok (.size g.registry.size), g)
  | .names => (.ok (.names g.registry.names), g)
  | .schema => (.ok (.schema g.registry.schema), g)
  | .parse v =>
    let (outcome, g) := g.parse v
    (outcome.mapError RequestFault.parse |>.map .action, g)

/-- Meets requests one after the other: all answers, and the registry after the last of them. -/
def serveAll (g : ServingRegistry) : List RegistryRequest →
    List (Except RequestFault RegistryAnswer) × ServingRegistry
  | [] => ([], g)
  | q :: qs =>
    let (answer, g) := g.serve q
    let (answers, g) := g.serveAll qs
    (answer :: answers, g)

end ServingRegistry

/-- The answers of a registry to requests, none of which was served before. -/
def Registry.serveAll (g : Registry) (qs : List RegistryRequest) :
    List (Except RequestFault RegistryAnswer) × Registry :=
  let (answers, g) := (ServingRegistry.mk g none).serveAll qs
  (answers, g.registry)

end Walkthrough
