import Walkthrough.Page.Handle

/-! The operations of a page as data: a law of all of them is one statement about calls. -/
namespace Walkthrough

inductive PageOp : Type → Type
  | goto (url : String) (wait : NavigationWait) : PageOp Unit
  | goBack (wait : NavigationWait) : PageOp Unit
  | goForward (wait : NavigationWait) : PageOp Unit
  | reload (wait : NavigationWait) : PageOp Unit
  | waitForNavigation (wait : NavigationWait) : PageOp Unit
  | click (selector button : String) (clickCount : Int) (delay : Number) : PageOp Unit
  | type (selector text : String) (delay : Number) : PageOp Unit
  | select (selector : String) (values : List String) : PageOp Unit
  | hover (selector : String) : PageOp Unit
  | focus (selector : String) : PageOp Unit
  | press (key : String) (delay : Number) : PageOp Unit
  | waitForSelector (selector : String) (timeout : Number) (visible hidden : Option Bool) :
    PageOp Unit
  | waitForFunction (script : String) (timeout : Number) (polling : Value) : PageOp Unit
  | evaluate (script : String) (arg : Value) : PageOp Value
  | currentUrl : PageOp String
  | title : PageOp String
  | setViewport (width height : Int) (scale : Number) (mobile touch : Bool) : PageOp Unit
  | count (selector : String) : PageOp Nat
  | isVisible (selector : String) : PageOp Bool
  | textContent (selector : String) : PageOp (Option String)

def PageHandle.call (page : PageHandle) {α : Type} (op : PageOp α) : Act α :=
  PageOp.casesOn (motive := fun α _ => Act α) op page.goto page.goBack page.goForward page.reload
    page.waitForNavigation page.click page.type page.select page.hover page.focus page.press
    page.waitForSelector page.waitForFunction page.evaluate page.currentUrl page.title
    page.setViewport page.count page.isVisible page.textContent

end Walkthrough
