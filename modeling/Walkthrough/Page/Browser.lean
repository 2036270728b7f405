import Walkthrough.Page.Handle
import Walkthrough.Page.Script
import Walkthrough.Page.Wait

/-!
Pages of a browser, whose operations are finer than those that actions need, and how such a page is
walked through: only load states, selector states and polling modes that the browser knows are
passed on, and device emulation opens a debugging session that is always closed again.
-/
namespace Walkthrough

/-- How long navigation may take, in milliseconds, and the load state it waits for. -/
structure LoadWait where
  timeout : Number
  state : LoadState

structure BrowserPage where
  goto : (url : String) → LoadWait → Act Unit
  goBack : LoadWait → Act Unit
  goForward : LoadWait → Act Unit
  reload : LoadWait → Act Unit
  expectNavigation : LoadWait → Act Unit
  click : (selector button : String) → (clickCount : Int) → (delay : Number) → Act Unit
  pressSequentially : (selector text : String) → (delay : Number) → Act Unit
  selectOption : (selector : String) → (values : List String) → Act Unit
  hover : (selector : String) → Act Unit
  focus : (selector : String) → Act Unit
  pressKey : (key : String) → (delay : Number) → Act Unit
  waitForSelector : (selector : String) → (timeout : Number) → SelectorState → Act Unit
  waitForFunction : (script : String) → (timeout : Number) → (polling : Value) → Act Unit
  evaluate : (script : String) → (arg : Option Value) → Act Value
  url : Act String
  title : Act String
  setViewportSize : (width height : Int) → Act Unit
  openSession : Act Unit
  send : (command : String) → (params : Entries) → Act Unit
  detach : Act Unit
  count : (selector : String) → Act Nat
  querySelector : (selector : String) → Act (Option Element)
  elementText : (selector : String) → Element → Act (Option String)

/-- The arguments that tell how to wait for a load state. -/
def LoadWait.named (w : LoadWait) : Entries :=
  [("timeout", .ofNumber w.timeout), ("wait_until", .text w.state.name)]

namespace Stage

def awaitState (selector : String) (timeout : Number) (state : SelectorState) : Act Unit := do
  hit ⟨"wait_for_selector", [.text selector],
    [("state", .text state.name), ("timeout", .ofNumber timeout)]⟩
  let s ← get
  if state ≠ .hidden ∧ (s.matching selector).isEmpty then
    throw ⟨.browser, "Timeout " ++ timeout.text ++ "ms exceeded."⟩

def evaluation (s : Stage) (script : String) (arg : Option Value) : Value :=
  if script = PageScript.firstMatchVisible then
    match arg with
    | some (.text selector) => .bool (s.showsFirst selector)
    | _ => .bool false
  else s.answer script

/-- The page that follows rules, as a page of a browser. -/
def browserPage : BrowserPage where
  goto url w := do
    hit ⟨"goto", [.text url], w.named⟩
    modify (visit url)
  goBack w := hit ⟨"go_back", [], w.named⟩
  goForward w := hit ⟨"go_forward", [], w.named⟩
  reload w := hit ⟨"reload", [], w.named⟩
  expectNavigation w := hit ⟨"expect_navigation", [], w.named⟩
  click selector button clickCount delay :=
    hit ⟨"click", [.text selector],
      [("button", .text button), ("click_count", .int clickCount), ("delay", .ofNumber delay)]⟩
  pressSequentially selector text delay :=
    hit ⟨"locator.first.press_sequentially", [.text selector, .text text],
      [("delay", .ofNumber delay)]⟩
  selectOption selector values :=
    hit ⟨"select_option", [.text selector], [("value", .list (values.map .text))]⟩
  hover selector := hit ⟨"hover", [.text selector], []⟩
  focus selector := hit ⟨"focus", [.text selector], []⟩
  pressKey key delay := hit ⟨"keyboard.press", [.text key], [("delay", .ofNumber delay)]⟩
  waitForSelector := awaitState
  waitForFunction script timeout polling :=
    hit ⟨"wait_for_function", [.text script],
      [("polling", polling), ("timeout", .ofNumber timeout)]⟩
  evaluate script arg := do
    hit ⟨"evaluate", .text script :: arg.toList, []⟩
    return (← get).evaluation script arg
  url := return (← get).content.url
  title := do
    hit ⟨"title", [], []⟩
    return (← get).content.title
  setViewportSize width height :=
    hit ⟨"set_viewport_size", [.object [("width", .int width), ("height", .int height)]], []⟩
  openSession := hit ⟨"context.new_cdp_session", [], []⟩
  send command params := hit ⟨"session.send", [.text command, .object params], []⟩
  detach := hit ⟨"session.detach", [], []⟩
  count selector := do
    hit ⟨"locator.count", [.text selector], []⟩
    return ((← get).matching selector).length
  querySelector selector := do
    hit ⟨"query_selector", [.text selector], []⟩
    return ((← get).matching selector).head?
  elementText selector e := do
    hit ⟨"element.text_content", [.text selector], []⟩
    return e.text

end Stage

def tellPage (level : LogLevel) (message : String) : Act Unit :=
  modify (Stage.tell ⟨level, .page, message⟩)

/-- The load state that a name asks for; a name that is not known is logged. -/
def loadStateFor (name : String) : Act LoadState := do
  if (LoadState.ofName? name).isNone then tellPage .debug (LoadState.unknownNotice name)
  return LoadState.ofName name

/-- Whether the browser can poll in a way: at each frame, or every so many milliseconds. -/
def canPoll : Value → Bool
  | .text s => s == "raf"
  | .int _ | .float _ | .bool _ => true
  | _ => false

/-- The way of polling that is asked for, or each frame; the difference is logged. -/
def pollingFor (polling : Value) : Act Value := do
  if canPoll polling then return polling
  tellPage .debug ("Unsupported polling mode " ++ polling.form ++ ", using 'raf'")
  return .text "raf"

/-- What is done with a session, which is closed however that ends. -/
def withSession (b : BrowserPage) (body : Act Unit) : Act Unit := fun s =>
  match body s with
  | .ok _ s => b.detach s
  | .error fault s =>
    match b.detach s with
    | .ok _ s => .error fault s
    | .error fault s => .error fault s

/-- Opens a session; false, with a warning, when the browser has none to offer. -/
def tryOpenSession (b : BrowserPage) : Act Bool := do
  try
    b.openSession
    return true
  catch fault =>
    if fault.kind = .browser then
      tellPage .warning ("Device emulation flags ignored, CDP unavailable: " ++ fault.message)
      return false
    else throw fault

/-- The commands that make a page look like that of a device. -/
def emulate (b : BrowserPage) (width height : Int) (scale : Number) (mobile touch : Bool) :
    Act Unit := do
  b.send "Emulation.setDeviceMetricsOverride"
    [("width", .int width), ("height", .int height), ("deviceScaleFactor", .ofNumber scale),
      ("mobile", .bool mobile)]
  b.send "Emulation.setTouchEmulationEnabled" [("enabled", .bool touch)]

namespace BrowserPage

/-- Sets the size of the viewport and, where something else is asked for, the kind of device. -/
def setViewport (b : BrowserPage) (width height : Int) (scale : Number) (mobile touch : Bool) :
    Act Unit := do
  b.setViewportSize width height
  if scale.isOne && !mobile && !touch then return
  if ← tryOpenSession b then withSession b (emulate b width height scale mobile touch)

/-- A page of a browser, as a page to walk through. -/
def handle (b : BrowserPage) : PageHandle where
  goto url w := do b.goto url ⟨w.timeout, ← loadStateFor w.waitUntil⟩
  goBack w := do b.goBack ⟨w.timeout, ← loadStateFor w.waitUntil⟩
  goForward w := do b.goForward ⟨w.timeout, ← loadStateFor w.waitUntil⟩
  reload w := do b.reload ⟨w.timeout, ← loadStateFor w.waitUntil⟩
  waitForNavigation w := do b.expectNavigation ⟨w.timeout, ← loadStateFor w.waitUntil⟩
  click := b.click
  type := b.pressSequentially
  select := b.selectOption
  hover := b.hover
  focus := b.focus
  press := b.pressKey
  waitForSelector selector timeout visible hidden :=
    b.waitForSelector selector timeout (.ofFlags visible hidden)
  waitForFunction script timeout polling := do
    b.waitForFunction script timeout (← pollingFor polling)
  evaluate script arg := b.evaluate script (if arg matches .null then none else some arg)
  currentUrl := b.url
  title := b.title
  setViewport := b.setViewport
  count := b.count
  isVisible selector := do
    return (← b.evaluate PageScript.firstMatchVisible (some (.text selector))).truthy
  textContent selector := do
    match ← b.querySelector selector with
    | none => return none
    | some e => return some ((← b.elementText selector e).getD "")

end BrowserPage

end Walkthrough
