import Walkthrough.Page.Browser
import Walkthrough.Proofs.Page.Oblivious

/-!
Laws of what is done on a page. One that is closed under the ways in which the pages that follow
rules are put together holds of all their operations, alone and in a browser.
-/
namespace Walkthrough

/-- How a browser waits for navigation: the load state is one that it knows. -/
def NavigationWait.inBrowser (w : NavigationWait) : LoadWait := ⟨w.timeout, .ofName w.waitUntil⟩

/-- How a browser polls: in the way that is asked for if it can, and at each frame otherwise. -/
def polledInBrowser (polling : Value) : Value := if canPoll polling then polling else .text "raf"

/-- The calls that an operation can make on a page in a browser. -/
def PageOp.browserCalls {α : Type} : PageOp α → List PageCall
  | .goto url wait => [⟨"goto", [.text url], wait.inBrowser.named⟩]
  | .goBack wait => [⟨"go_back", [], wait.inBrowser.named⟩]
  | .goForward wait => [⟨"go_forward", [], wait.inBrowser.named⟩]
  | .reload wait => [⟨"reload", [], wait.inBrowser.named⟩]
  | .waitForNavigation wait => [⟨"expect_navigation", [], wait.inBrowser.named⟩]
  | .click selector button clickCount delay =>
    [⟨"click", [.text selector],
      [("button", .text button), ("click_count", .int clickCount), ("delay", .ofNumber delay)]⟩]
  | .type selector text delay =>
    [⟨"locator.first.press_sequentially", [.text selector, .text text],
      [("delay", .ofNumber delay)]⟩]
  | .select selector values =>
    [⟨"select_option", [.text selector], [("value", .list (values.map .text))]⟩]
  | .hover selector => [⟨"hover", [.text selector], []⟩]
  | .focus selector => [⟨"focus", [.text selector], []⟩]
  | .press key delay => [⟨"keyboard.press", [.text key], [("delay", .ofNumber delay)]⟩]
  | .waitForSelector selector timeout visible hidden =>
    [⟨"wait_for_selector", [.text selector],
      [("state", .text (SelectorState.ofFlags visible hidden).name),
        ("timeout", .ofNumber timeout)]⟩]
  | .waitForFunction script timeout polling =>
    [⟨"wait_for_function", [.text script],
      [("polling", polledInBrowser polling), ("timeout", .ofNumber timeout)]⟩]
  | .evaluate script arg =>
    [⟨"evaluate", .text script :: (if arg matches .null then none else some arg).toList, []⟩]
  | .currentUrl => []
  | .title => [⟨"title", [], []⟩]
  | .setViewport width height scale mobile touch =>
    [⟨"set_viewport_size", [.object [("width", .int width), ("height", .int height)]], []⟩,
      ⟨"context.new_cdp_session", [], []⟩,
      ⟨"session.send", [.text "Emulation.setDeviceMetricsOverride", .object [
        ("width", .int width), ("height", .int height), ("deviceScaleFactor", .ofNumber scale),
        ("mobile", .bool mobile)]], []⟩,
      ⟨"session.send", [.text "Emulation.setTouchEmulationEnabled",
        .object [("enabled", .bool touch)]], []⟩,
      ⟨"session.detach", [], []⟩]
  | .count selector => [⟨"locator.count", [.text selector], []⟩]
  | .isVisible selector =>
    [⟨"evaluate", [.text PageScript.firstMatchVisible, .text selector], []⟩]
  | .textContent selector =>
    [⟨"query_selector", [.text selector], []⟩, ⟨"element.text_content", [.text selector], []⟩]

/-- A law of acts on a page: it is kept by doing one after the other, and holds of some calls, of
log records, of another address and of reading what does not tell the history. -/
structure PageLaw (ok : PageCall → Prop) (P : ∀ {α : Type}, Act α → Prop) : Prop where
  pure : ∀ {α : Type} (a : α), P (Pure.pure a : Act α)
  throw : ∀ {α : Type} (fault : PageFault), P (MonadExcept.throw fault : Act α)
  bind : ∀ {α β : Type} {x : Act α} {f : α → Act β}, P x → (∀ a, P (f a)) → P (x >>= f)
  tryCatch : ∀ {α : Type} {x : Act α} {f : PageFault → Act α}, P x → (∀ fault, P (f fault)) →
    P (EStateM.tryCatch x f)
  withSession : ∀ {b : BrowserPage} {body : Act Unit}, P b.detach → P body →
    P (withSession b body)
  read : ∀ {α : Type} {f : Stage → Act α}, (∀ calls log s, f (s.after calls log) = f s) →
    (∀ s, P (f s)) → P (get >>= f)
  hit : ∀ {c : PageCall}, ok c → P (Stage.hit c)
  visit : ∀ url : String, P (modify (Stage.visit url))
  tell : ∀ r : LogRecord, P (modify (Stage.tell r))

namespace PageLaw
open Stage
variable {ok : PageCall → Prop} {P : ∀ {α : Type}, Act α → Prop} (hP : PageLaw ok P)
include hP

/-- A call that answers with something on the page. -/
theorem hit_read {c : PageCall} (hc : ok c) {α : Type} {f : Stage → α}
    (hf : ∀ calls log s, f (s.after calls log) = f s) : P (do Stage.hit c; return f (← get)) :=
  hP.bind (hP.hit hc) fun _ =>
    hP.read (fun calls log s => by rw [hf]) fun _ => hP.pure _

/-- A call after which an error may be thrown, depending on the page. -/
theorem hit_check {c : PageCall} (hc : ok c) {p : Stage → Prop} [DecidablePred p]
    (hp : ∀ calls log s, p (s.after calls log) = p s) (fault : PageFault) :
    P (do Stage.hit c; let s ← get; if p s then MonadExcept.throw fault : Act Unit) := by
  refine hP.bind (hP.hit hc) fun _ => hP.read (fun calls log s => ?_) fun s => ?_
  · simp only [hp]
  · split
    · exact hP.throw _
    · exact hP.pure _

theorem handle (hok : ∀ {c : PageCall}, (c.method == "sleep") = false → ok c) :
    ∀ {α : Type} (op : PageOp α), P (Stage.handle.call op)
  | _, .goto .. => hP.bind (hP.hit (hok rfl)) fun _ => hP.visit _
  | _, .goBack .. | _, .goForward .. | _, .reload .. | _, .waitForNavigation .. | _, .click ..
  | _, .type .. | _, .select .. | _, .hover .. | _, .focus .. | _, .press ..
  | _, .waitForFunction .. | _, .setViewport .. => hP.hit (hok rfl)
  | _, .waitForSelector .. => hP.hit_check (hok rfl) (fun _ _ _ => rfl) _
  | _, .evaluate .. | _, .currentUrl | _, .title | _, .count .. | _, .isVisible .. =>
    hP.hit_read (hok rfl) fun _ _ _ => rfl
  | _, .textContent selector => by
    refine hP.bind (hP.hit (hok rfl)) fun _ => hP.read (fun _ _ _ => rfl) fun s => ?_
    cases s.matching selector <;> exact hP.pure _

theorem loadStateFor {α : Type} {name : String} {f : LoadState → Act α}
    (hf : P (f (.ofName name))) : P (loadStateFor name >>= f) := by
  unfold Walkthrough.loadStateFor
  split
  · rw [bind_assoc]
    exact hP.bind (hP.tell _) fun _ => hf
  · exact hf

theorem pollingFor {α : Type} {polling : Value} {f : Value → Act α}
    (hf : P (f (polledInBrowser polling))) : P (pollingFor polling >>= f) := by
  unfold Walkthrough.pollingFor
  unfold polledInBrowser at hf
  split at hf
  next hcan =>
    rw [if_pos hcan]
    exact hf
  next hcan =>
    rw [if_neg hcan, bind_assoc]
    exact hP.bind (hP.tell _) fun _ => hf

theorem tryOpenSession {b : BrowserPage} (ho : P b.openSession) : P (tryOpenSession b) := by
  unfold Walkthrough.tryOpenSession
  refine hP.bind (hP.tryCatch (hP.bind ho fun _ => hP.pure _) fun fault => ?_) fun answer => ?_
  · split
    · exact hP.bind (hP.tell _) fun _ => hP.pure _
    · exact hP.bind (hP.throw fault) fun _ => hP.pure _
  · cases answer <;> exact hP.pure _

theorem browserPage_setViewport {width height : Int} {scale : Number} {mobile touch : Bool}
    (hok : ∀ c ∈ (PageOp.setViewport width height scale mobile touch).browserCalls, ok c) :
    P (browserPage.setViewport width height scale mobile touch) := by
  simp only [PageOp.browserCalls, List.forall_mem_cons] at hok
  obtain ⟨hsize, hsession, hmetrics, htouch, hdetach, -⟩ := hok
  refine hP.bind (hP.hit hsize) fun _ => ?_
  split
  · exact hP.pure _
  refine hP.bind (hP.tryOpenSession (hP.hit hsession)) fun opened => ?_
  split
  · exact hP.withSession (hP.hit hdetach) (hP.bind (hP.hit hmetrics) fun _ => hP.hit htouch)
  · exact hP.pure _

/-- In a browser the law holds of an operation if it may make its calls. -/
theorem browserPage_handle : ∀ {α : Type} (op : PageOp α), (∀ c ∈ op.browserCalls, ok c) →
    P (browserPage.handle.call op)
  | _, .goto .., hok => hP.loadStateFor (hP.bind (hP.hit (hok _ (.head _))) fun _ => hP.visit _)
  | _, .goBack .., hok | _, .goForward .., hok | _, .reload .., hok
  | _, .waitForNavigation .., hok => hP.loadStateFor (hP.hit (hok _ (.head _)))
  | _, .click .., hok | _, .type .., hok | _, .select .., hok | _, .hover .., hok
  | _, .focus .., hok | _, .press .., hok => hP.hit (hok _ (.head _))
  | _, .waitForSelector .., hok => hP.hit_check (hok _ (.head _)) (fun _ _ _ => rfl) _
  | _, .waitForFunction .., hok => hP.pollingFor (hP.hit (hok _ (.head _)))
  | _, .evaluate .., hok => hP.hit_read (hok _ (.head _)) fun _ _ _ => rfl
  | _, .currentUrl, _ => hP.read (fun _ _ _ => rfl) fun _ => hP.pure _
  | _, .title, hok | _, .count .., hok => hP.hit_read (hok _ (.head _)) fun _ _ _ => rfl
  | _, .setViewport .., hok => hP.browserPage_setViewport hok
  | _, .isVisible .., hok =>
    hP.bind (hP.hit_read (hok _ (.head _)) fun _ _ _ => rfl) fun _ => hP.pure _
  | _, .textContent selector, hok => by
    refine hP.bind (hP.hit_read (hok _ (.head _)) fun _ _ _ => rfl) fun found => ?_
    cases found with
    | none => exact hP.pure _
    | some e =>
      exact hP.bind (hP.bind (hP.hit (hok _ (.tail _ (.head _)))) fun _ => hP.pure _)
        fun _ => hP.pure _

omit hP in
/-- From a page to the one that something leaves: what holds so of calls, of another address and of
log records, and from one page to another and on to a third, is a law. -/
theorem ofMoves {R : Stage → Stage → Prop} (hrefl : ∀ s, R s s)
    (htrans : ∀ {s t u}, R s t → R t u → R s u)
    (hhit : ∀ {c : PageCall}, ok c → ∀ s, R s (stageOf (Stage.hit c s)))
    (hvisit : ∀ url s, R s (s.visit url)) (htell : ∀ r s, R s (s.tell r)) :
    PageLaw ok fun x => ∀ s, R s (stageOf (x s)) where
  pure _ := hrefl
  throw _ := hrefl
  bind {_ _ x f} hx hf s := by
    have hfirst := hx s
    rcases bind_cases x f s with ⟨a, t, hs, hbind⟩ | ⟨fault, t, hs, hbind⟩
    · rw [hs] at hfirst
      rw [hbind]
      exact htrans hfirst (hf a t)
    · rw [hs] at hfirst
      rw [hbind]
      exact hfirst
  tryCatch {_ x f} hx hf s := by
    have hfirst := hx s
    delta EStateM.tryCatch
    dsimp only
    cases hs : x s with
    | ok a t =>
      rw [hs] at hfirst
      exact hfirst
    | error fault t =>
      rw [hs] at hfirst
      exact htrans hfirst (hf fault t)
  withSession {b body} hd hb s := by
    have hbody := hb s
    unfold Walkthrough.withSession
    cases hs : body s with
    | ok u t =>
      rw [hs] at hbody
      exact htrans hbody (hd t)
    | error fault t =>
      rw [hs] at hbody
      have hdetach := hd t
      dsimp only
      cases ht : b.detach t <;> rw [ht] at hdetach <;> exact htrans hbody hdetach
  read _ hf s := hf s s
  hit := hhit
  visit := hvisit
  tell := htell

end PageLaw

end Walkthrough
