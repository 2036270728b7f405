import Walkthrough.Text.Quoted

/-! What navigation and selectors can be waited for. -/
namespace Walkthrough

inductive LoadState
  | load
  | domContentLoaded
  | networkIdle
  | commit
  deriving DecidableEq, Repr

namespace LoadState

def name : LoadState → String
  | .load => "load"
  | .domContentLoaded => "domcontentloaded"
  | .networkIdle => "networkidle"
  | .commit => "commit"

/-- The state with a name; an idle network has three names. -/
def ofName? (s : String) : Option LoadState :=
  if s = "load" then some .load
  else if s = "domcontentloaded" then some .domContentLoaded
  else if s = "networkidle" ∨ s = "networkidle0" ∨ s = "networkidle2" then some .networkIdle
  else if s = "commit" then some .commit
  else none

/-- The state that a name asks for: loading, when the name is not known. -/
def ofName (s : String) : LoadState :=
  (ofName? s).getD .load

/-- What is told about a name that is not known. -/
def unknownNotice (s : String) : String :=
  "Unsupported waitUntil " ++ Text.quoted s ++ ", falling back to 'load'"

end LoadState

/-- What an element that is waited for has to be. -/
inductive SelectorState
  | attached
  | visible
  | hidden
  deriving DecidableEq, Repr

namespace SelectorState

def name : SelectorState → String
  | .attached => "attached"
  | .visible => "visible"
  | .hidden => "hidden"

/-- The state that two flags ask for; to be hidden comes first. -/
def ofFlags (visible hidden : Option Bool) : SelectorState :=
  if hidden = some true then .hidden
  else if visible = some true then .visible
  else .attached

end SelectorState

end Walkthrough
