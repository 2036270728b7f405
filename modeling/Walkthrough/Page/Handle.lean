import Walkthrough.Page.Stage
import Walkthrough.Value.Display

/-!
What actions need of a page. Any page that offers these operations can be walked through; the page
that follows rules offers them itself.
-/
namespace Walkthrough

/-- How long navigation may take, in milliseconds, and what it waits for. -/
structure NavigationWait where
  timeout : Number
  waitUntil : String

structure PageHandle where
  goto : (url : String) → NavigationWait → Act Unit
  goBack : NavigationWait → Act Unit
  goForward : NavigationWait → Act Unit
  reload : NavigationWait → Act Unit
  waitForNavigation : NavigationWait → Act Unit
  click : (selector button : String) → (clickCount : Int) → (delay : Number) → Act Unit
  type : (selector text : String) → (delay : Number) → Act Unit
  select : (selector : String) → (values : List String) → Act Unit
  hover : (selector : String) → Act Unit
  focus : (selector : String) → Act Unit
  press : (key : String) → (delay : Number) → Act Unit
  waitForSelector : (selector : String) → (timeout : Number) → (visible hidden : Option Bool) →
    Act Unit
  waitForFunction : (script : String) → (timeout : Number) → (polling : Value) → Act Unit
  evaluate : (script : String) → (arg : Value) → Act Value
  currentUrl : Act String
  title : Act String
  setViewport : (width height : Int) → (scale : Number) → (mobile touch : Bool) → Act Unit
  count : (selector : String) → Act Nat
  isVisible : (selector : String) → Act Bool
  textContent : (selector : String) → Act (Option String)

/-- The arguments that tell how to wait for navigation. -/
def NavigationWait.named (w : NavigationWait) : Entries :=
  [("timeout", .ofNumber w.timeout), ("wait_until", .text w.waitUntil)]

namespace Stage

/-- Waits for a selector: without a match the time runs out, unless it shall be hidden. -/
def awaitSelector (selector : String) (timeout : Number) (visible hidden : Option Bool) :
    Act Unit := do
  hit ⟨"wait_for_selector", [.text selector],
    [("timeout", .ofNumber timeout), ("visible", .ofBool? visible), ("hidden", .ofBool? hidden)]⟩
  let s ← get
  if hidden ≠ some true ∧ (s.matching selector).isEmpty then
    throw ⟨.timeout,
      "Waiting for selector `" ++ selector ++ "` failed: timeout " ++ timeout.text ++
        "ms exceeded"⟩

/-- The page that follows rules, as a page to walk through. -/
def handle : PageHandle where
  goto url w := do
    hit ⟨"goto", [.text url], w.named⟩
    modify (visit url)
  goBack w := hit ⟨"go_back", [], w.named⟩
  goForward w := hit ⟨"go_forward", [], w.named⟩
  reload w := hit ⟨"reload", [], w.named⟩
  waitForNavigation w := hit ⟨"wait_for_navigation", [], w.named⟩
  click selector button clickCount delay :=
    hit ⟨"click", [.text selector],
      [("button", .text button), ("click_count", .int clickCount), ("delay", .ofNumber delay)]⟩
  type selector text delay :=
    hit ⟨"type", [.text selector, .text text], [("delay", .ofNumber delay)]⟩
  select selector values := hit ⟨"select", [.text selector, .list (values.map .text)], []⟩
  hover selector := hit ⟨"hover", [.text selector], []⟩
  focus selector := hit ⟨"focus", [.text selector], []⟩
  press key delay := hit ⟨"press", [.text key], [("delay", .ofNumber delay)]⟩
  waitForSelector := awaitSelector
  waitForFunction script timeout polling :=
    hit ⟨"wait_for_function", [.text script],
      [("timeout", .ofNumber timeout), ("polling", polling)]⟩
  evaluate script arg := do
    hit ⟨"evaluate", [.text script, arg], []⟩
    return (← get).answer script
  currentUrl := do
    hit ⟨"current_url", [], []⟩
    return (← get).content.url
  title := do
    hit ⟨"title", [], []⟩
    return (← get).content.title
  setViewport width height scale mobile touch :=
    hit ⟨"set_viewport", [.int width, .int height],
      [("device_scale_factor", .ofNumber scale), ("is_mobile", .bool mobile),
        ("has_touch", .bool touch)]⟩
  count selector := do
    hit ⟨"count", [.text selector], []⟩
    return ((← get).matching selector).length
  isVisible selector := do
    hit ⟨"is_visible", [.text selector], []⟩
    return (← get).showsFirst selector
  textContent selector := do
    hit ⟨"text_content", [.text selector], []⟩
    match (← get).matching selector with
    | [] => return none
    | e :: _ => return e.text

end Stage

end Walkthrough
