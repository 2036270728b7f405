import Mathlib.Data.List.Induction
import Walkthrough.Proofs.Action.Reading
import Walkthrough.Registry.Request

/-!
What a registry answers depends on nothing but what was admitted before, whatever else it was asked
in between: the reader that it keeps is always that of the types that are registered, and these are
in the order in which they were first admitted, each as it was admitted last.
-/
namespace Walkthrough

namespace Registration

end Registration

namespace RegistryRequest

end RegistryRequest

namespace Registry
variable {r : Registration} {rs : List Registration} {name : String}

def kinds (g : Registry) : List ActionKind := g.registrations.map (·.kind)

end Registry

namespace ServingRegistry
variable {g g' : ServingRegistry}

end ServingRegistry

open RegistryRequest

/-- The registry after requests that it has served from the beginning. -/
def ServingRegistry.after (qs : List RegistryRequest) : ServingRegistry := (fresh.serveAll qs).2

/-- Why an object is no action of a type with one of the names. -/
inductive ParseFault.IsAbout (names : List String) (es : Entries) : ParseFault → Prop
  | noTag (h : Entries.get? es "action" = none) : IsAbout names es .noTag
  | unknownTag {tag : Value} (h : Entries.get? es "action" = some tag)
    (hnames : ∀ name ∈ names, tag ≠ .text name) : IsAbout names es (.unknownTag tag names)
  | invalid {kind : ActionKind} {faults : List FieldFault}
    (h : Entries.get? es "action" = some (.text kind.name)) (hname : kind.name ∈ names)
    (hread : Action.read kind es = .error faults) : IsAbout names es (.invalid kind faults)

namespace Registry
variable {qs : List RegistryRequest}

/-- The registry after requests, without the reader that it keeps. -/
def after (qs : List RegistryRequest) : Registry := (ServingRegistry.after qs).registry

end Registry

end Walkthrough
