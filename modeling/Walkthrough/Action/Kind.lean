/-! The types of action. -/
namespace Walkthrough

inductive ActionKind
  | click
  | type
  | clear
  | select
  | hover
  | focus
  | press
  | waitForSelector
  | waitForNavigation
  | waitForTimeout
  | waitForFunction
  | goto
  | goBack
  | goForward
  | reload
  | scroll
  | scrollToElement
  | evaluate
  | setViewport
  | assert
  | assertSelector
  | assertText
  | assertUrl
  | assertTitle
  deriving DecidableEq, Repr, Inhabited

namespace ActionKind

/-- All types of action, in the order in which they are listed. -/
def all : List ActionKind :=
  [click, type, clear, select, hover, focus, press, waitForSelector, waitForNavigation,
    waitForTimeout, waitForFunction, goto, goBack, goForward, reload, scroll, scrollToElement,
    evaluate, setViewport, assert, assertSelector, assertText, assertUrl, assertTitle]

def name : ActionKind → String
  | click => "click"
  | type => "type"
  | clear => "clear"
  | select => "select"
  | hover => "hover"
  | focus => "focus"
  | press => "press"
  | waitForSelector => "waitForSelector"
  | waitForNavigation => "waitForNavigation"
  | waitForTimeout => "waitForTimeout"
  | waitForFunction => "waitForFunction"
  | goto => "goto"
  | goBack => "goBack"
  | goForward => "goForward"
  | reload => "reload"
  | scroll => "scroll"
  | scrollToElement => "scrollToElement"
  | evaluate => "evaluate"
  | setViewport => "setViewport"
  | assert => "assert"
  | assertSelector => "assertSelector"
  | assertText => "assertText"
  | assertUrl => "assertUrl"
  | assertTitle => "assertTitle"

def ofName? (s : String) : Option ActionKind :=
  all.find? (·.name == s)

def names : List String :=
  all.map name

/-- One sentence about what an action of this type does. -/
def description : ActionKind → String
  | click => "Click an element once it is visible"
  | type => "Type text into an element"
  | clear => "Empty an input and fire input/change events"
  | select => "Choose one or more options of a <select>"
  | hover => "Move the pointer over an element"
  | focus => "Focus an element"
  | press => "Send a raw key press"
  | waitForSelector => "Wait for a selector to appear or disappear"
  | waitForNavigation => "Wait for the next navigation"
  | waitForTimeout => "Sleep for a bounded number of milliseconds"
  | waitForFunction => "Poll an in-page predicate until truthy"
  | goto => "Navigate to a URL"
  | goBack => "Navigate back in history"
  | goForward => "Navigate forward in history"
  | reload => "Reload the current page"
  | scroll => "Scroll the window or an element to an offset"
  | scrollToElement => "Bring an element into view"
  | evaluate => "Run a script in the page and return its value"
  | setViewport => "Resize the viewport"
  | assert => "Assert on the value returned by a script"
  | assertSelector => "Assert on the presence, count or visibility of matches"
  | assertText => "Assert on the text content of the first match"
  | assertUrl => "Assert on the current URL"
  | assertTitle => "Assert on the document title"

/-- How many milliseconds an action of this type waits unless it says otherwise. -/
def defaultTimeout? : ActionKind → Option Int
  | click | type | select | hover | focus => some 5000
  | waitForSelector | waitForFunction => some 10000
  | waitForNavigation | goto | goBack | goForward | reload => some 30000
  | _ => none

theorem mem_all (k : ActionKind) : k ∈ all := by
  cases k <;> decide

theorem name_injective {a b : ActionKind} (h : a.name = b.name) : a = b := by
  cases a <;> cases b <;> first | rfl | simp [name] at h

theorem ofName?_name (k : ActionKind) : ofName? k.name = some k := by
  cases k <;> rfl

theorem name_of_ofName? {s : String} {k : ActionKind} (h : ofName? s = some k) : k.name = s := by
  have := List.find?_some h
  simpa using this

end ActionKind

end Walkthrough
