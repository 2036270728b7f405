import Walkthrough.Proofs.Step.Course

/-!
What happens on a page in a browser, in order: which calls are made on it, with the error that each
has ended with, and which rests. A page that follows rules has noted them.
-/
namespace Walkthrough

def faultOf? {α : Type} : EStateM.Result PageFault Stage α → Option PageFault
  | .ok _ _ => none
  | .error f _ => some f

inductive BrowserCall
  | goto (url : String) (wait : LoadWait)
  | goBack (wait : LoadWait)
  | goForward (wait : LoadWait)
  | reload (wait : LoadWait)
  | expectNavigation (wait : LoadWait)
  | click (selector button : String) (clickCount : Int) (delay : Number)
  | pressSequentially (selector text : String) (delay : Number)
  | selectOption (selector : String) (values : List String)
  | hover (selector : String)
  | focus (selector : String)
  | pressKey (key : String) (delay : Number)
  | waitForSelector (selector : String) (timeout : Number) (state : SelectorState)
  | waitForFunction (script : String) (timeout : Number) (polling : Value)
  | evaluate (script : String) (arg : Option Value)
  | url
  | title
  | setViewportSize (width height : Int)
  | openSession
  | send (command : String) (params : Entries)
  | detach
  | count (selector : String)
  | querySelector (selector : String)
  | elementText (selector : String) (e : Element)

def BrowserPage.make (b : BrowserPage) : BrowserCall → Act Unit
  | .goto url wait => b.goto url wait
  | .goBack wait => b.goBack wait
  | .goForward wait => b.goForward wait
  | .reload wait => b.reload wait
  | .expectNavigation wait => b.expectNavigation wait
  | .click selector button clickCount delay => b.click selector button clickCount delay
  | .pressSequentially selector text delay => b.pressSequentially selector text delay
  | .selectOption selector values => b.selectOption selector values
  | .hover selector => b.hover selector
  | .focus selector => b.focus selector
  | .pressKey key delay => b.pressKey key delay
  | .waitForSelector selector timeout state => b.waitForSelector selector timeout state
  | .waitForFunction script timeout polling => b.waitForFunction script timeout polling
  | .evaluate script arg => discard (b.evaluate script arg)
  | .url => discard b.url
  | .title => discard b.title
  | .setViewportSize width height => b.setViewportSize width height
  | .openSession => b.openSession
  | .send command params => b.send command params
  | .detach => b.detach
  | .count selector => discard (b.count selector)
  | .querySelector selector => discard (b.querySelector selector)
  | .elementText selector e => discard (b.elementText selector e)

/-- Something that happens on a page in a browser: a call, with the error that it has ended with, or
a rest. -/
inductive BrowserEvent
  | call (c : BrowserCall) (fault? : Option PageFault)
  | rest (seconds : Float)

/-- From one page to another by what happens on it, in this order, and by log records. -/
inductive Trace (b : BrowserPage) (s : Stage) : List BrowserEvent → Stage → Prop
  | refl : Trace b s [] s
  | call {es : List BrowserEvent} {t : Stage} (h : Trace b s es t) (c : BrowserCall) :
    Trace b s (es ++ [.call c (faultOf? (b.make c t))]) (stageOf (b.make c t))
  | rest {es : List BrowserEvent} {t : Stage} (h : Trace b s es t) (seconds : Float) :
    Trace b s (es ++ [.rest seconds]) (t.rest seconds)
  | log {es : List BrowserEvent} {t : Stage} (h : Trace b s es t) (rs : List LogRecord) :
    Trace b s es { t with log := t.log ++ rs }

namespace Trace
variable {b : BrowserPage} {s t u : Stage} {es es' : List BrowserEvent} {c : BrowserCall}

theorem call_ok (h : Trace b s es t) (hc : b.make c t = .ok () u) :
    Trace b s (es ++ [.call c none]) u := by
  have hcall := h.call c
  rwa [hc] at hcall

theorem call_error {f : PageFault} (h : Trace b s es t) (hc : b.make c t = .error f u) :
    Trace b s (es ++ [.call c (some f)]) u := by
  have hcall := h.call c
  rwa [hc] at hcall

theorem trans (h : Trace b s es t) (h' : Trace b t es' u) : Trace b s (es ++ es') u := by
  induction h' with
  | refl => simpa using h
  | call _ c ih =>
    rw [← List.append_assoc]
    exact ih.call c
  | rest _ seconds ih =>
    rw [← List.append_assoc]
    exact ih.rest seconds
  | log _ rs ih => exact ih.log rs

end Trace

/-- What a page that follows rules notes of a call; that its address is read is not noted. -/
def BrowserCall.noted : BrowserCall → List PageCall
  | .goto address wait => [⟨"goto", [.text address], wait.named⟩]
  | .goBack wait => [⟨"go_back", [], wait.named⟩]
  | .goForward wait => [⟨"go_forward", [], wait.named⟩]
  | .reload wait => [⟨"reload", [], wait.named⟩]
  | .expectNavigation wait => [⟨"expect_navigation", [], wait.named⟩]
  | .click selector button clickCount delay =>
    [⟨"click", [.text selector],
      [("button", .text button), ("click_count", .int clickCount), ("delay", .ofNumber delay)]⟩]
  | .pressSequentially selector text delay =>
    [⟨"locator.first.press_sequentially", [.text selector, .text text],
      [("delay", .ofNumber delay)]⟩]
  | .selectOption selector values =>
    [⟨"select_option", [.text selector], [("value", .list (values.map .text))]⟩]
  | .hover selector => [⟨"hover", [.text selector], []⟩]
  | .focus selector => [⟨"focus", [.text selector], []⟩]
  | .pressKey key delay => [⟨"keyboard.press", [.text key], [("delay", .ofNumber delay)]⟩]
  | .waitForSelector selector timeout state =>
    [⟨"wait_for_selector", [.text selector],
      [("state", .text state.name), ("timeout", .ofNumber timeout)]⟩]
  | .waitForFunction script timeout polling =>
    [⟨"wait_for_function", [.text script],
      [("polling", polling), ("timeout", .ofNumber timeout)]⟩]
  | .evaluate script arg => [⟨"evaluate", .text script :: arg.toList, []⟩]
  | .url => []
  | .title => [⟨"title", [], []⟩]
  | .setViewportSize width height =>
    [⟨"set_viewport_size", [.object [("width", .int width), ("height", .int height)]], []⟩]
  | .openSession => [⟨"context.new_cdp_session", [], []⟩]
  | .send command params => [⟨"session.send", [.text command, .object params], []⟩]
  | .detach => [⟨"session.detach", [], []⟩]
  | .count selector => [⟨"locator.count", [.text selector], []⟩]
  | .querySelector selector => [⟨"query_selector", [.text selector], []⟩]
  | .elementText selector _ => [⟨"element.text_content", [.text selector], []⟩]

/-- What a page that follows rules notes of something that happens. -/
def BrowserEvent.noted : BrowserEvent → List PageCall
  | .call c _ => c.noted
  | .rest seconds => [.sleep seconds]

theorem stageOf_discard {α : Type} (x : Act α) (s : Stage) :
    stageOf ((discard x : Act Unit) s) = stageOf (x s) := by
  change stageOf (EStateM.map _ x s) = _
  unfold EStateM.map
  cases x s <;> rfl

namespace Stage

/-- The page that follows rules notes each call. -/
theorem calls_make (c : BrowserCall) (s : Stage) :
    (stageOf (browserPage.make c s)).calls = s.calls ++ c.noted := by
  cases c with
  | goto url wait => exact calls_hit_bind _ (fun _ => rfl) s
  | waitForSelector selector timeout state =>
    refine calls_hit_bind _ (fun t => ?_) s
    change (stageOf ((if _ then _ else _ : Act Unit) t)).calls = _
    split <;> rfl
  | url => exact (List.append_nil _).symm
  | evaluate | title | count | querySelector | elementText =>
    rw [BrowserPage.make, stageOf_discard]
    exact calls_hit_bind _ (fun _ => rfl) s
  | _ => exact calls_hit _ s

end Stage

/-- What happens on a page that follows rules is what it has noted since. -/
theorem Trace.calls_eq {s t : Stage} {es : List BrowserEvent} (h : Trace Stage.browserPage s es t) :
    t.calls = s.calls ++ es.flatMap BrowserEvent.noted := by
  induction h with
  | refl => simp
  | call _ c ih =>
    rw [Stage.calls_make, ih, List.append_assoc, List.flatMap_append, List.flatMap_singleton]
    rfl
  | rest _ seconds ih =>
    change _ ++ [PageCall.sleep seconds] = _
    rw [ih, List.append_assoc, List.flatMap_append, List.flatMap_singleton]
    rfl
  | log _ rs ih => exact ih

end Walkthrough
