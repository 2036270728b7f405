import Walkthrough.Proofs.Page.Trace

/-!
Sessions on a page in a browser. Setting the viewport opens one: which calls are made then, in which
order, and with which error that ends; the session is closed, once and last, whatever has failed in
it. No operation leaves one open.
-/
namespace Walkthrough

theorem tryOpenSession_eq (b : BrowserPage) (s : Stage) :
    tryOpenSession b s =
      match b.openSession s with
      | .ok _ t => .ok true t
      | .error f t =>
        if f.kind = .browser then
          .ok false (t.tell ⟨.warning, .page,
            "Device emulation flags ignored, CDP unavailable: " ++ f.message⟩)
        else .error f t := by
  change EStateM.bind (EStateM.tryCatch (EStateM.bind b.openSession _) _) _ s = _
  delta EStateM.tryCatch
  simp only [EStateM.bind]
  cases b.openSession s with
  | ok u t => rfl
  | error f t =>
    by_cases hf : f.kind = .browser
    · simp only [if_pos hf]
      rfl
    · simp only [if_neg hf]
      rfl

/-- A session is closed on the page as its use has left it; where that fails, this is the error, and
otherwise it is that of the use. -/
theorem withSession_ends (b : BrowserPage) (body : Act Unit) (s : Stage) :
    stageOf (withSession b body s) = stageOf (b.detach (stageOf (body s))) ∧
      faultOf? (withSession b body s) =
        (faultOf? (b.detach (stageOf (body s)))).or (faultOf? (body s)) := by
  unfold withSession
  cases body s with
  | ok u t =>
    dsimp only [stageOf]
    cases b.detach t <;> exact ⟨rfl, rfl⟩
  | error f t =>
    dsimp only [stageOf]
    cases b.detach t <;> exact ⟨rfl, rfl⟩

structure Viewport where
  width : Int
  height : Int
  scale : Number
  mobile : Bool
  touch : Bool

namespace Viewport

def set (v : Viewport) (b : BrowserPage) : Act Unit :=
  b.setViewport v.width v.height v.scale v.mobile v.touch

def IsPlain (v : Viewport) : Prop := v.scale.isOne = true ∧ v.mobile = false ∧ v.touch = false

instance (v : Viewport) : Decidable v.IsPlain :=
  inferInstanceAs (Decidable (v.scale.isOne = true ∧ v.mobile = false ∧ v.touch = false))

def sizing (v : Viewport) : BrowserCall := .setViewportSize v.width v.height

/-- The first command of a session: the metrics of the device. -/
def metrics (v : Viewport) : BrowserCall :=
  .send "Emulation.setDeviceMetricsOverride"
    [("width", .int v.width), ("height", .int v.height),
      ("deviceScaleFactor", .ofNumber v.scale), ("mobile", .bool v.mobile)]

/-- The second command of a session: whether the device can be touched. -/
def touching (v : Viewport) : BrowserCall :=
  .send "Emulation.setTouchEmulationEnabled" [("enabled", .bool v.touch)]

/-- What is sent in a session, and the error of that: after a first command that fails there is no
other. -/
inductive Sends (v : Viewport) : List BrowserEvent → Option PageFault → Prop
  | metrics (f : PageFault) : Sends v [.call v.metrics (some f)] (some f)
  | both (f? : Option PageFault) : Sends v [.call v.metrics none, .call v.touching f?] f?

/-- All that happens when a viewport is set, in this order, and the error with which it ends. -/
inductive Sets (v : Viewport) : List BrowserEvent → Option PageFault → Prop
  | unsized (f : PageFault) : Sets v [.call v.sizing (some f)] (some f)
  | plain (h : v.IsPlain) : Sets v [.call v.sizing none] none
  /-- The browser has no session to offer, and that is no error. -/
  | unavailable (h : ¬v.IsPlain) {f : PageFault} (hf : f.kind = .browser) :
    Sets v [.call v.sizing none, .call .openSession (some f)] none
  | unopened (h : ¬v.IsPlain) {f : PageFault} (hf : f.kind ≠ .browser) :
    Sets v [.call v.sizing none, .call .openSession (some f)] (some f)
  /-- The session is closed at the end, and an error of that comes first. -/
  | closed (h : ¬v.IsPlain) {es : List BrowserEvent} {f? : Option PageFault}
    (hsends : v.Sends es f?) (d? : Option PageFault) :
    Sets v ([.call v.sizing none, .call .openSession none] ++ es ++ [.call .detach d?]) (d?.or f?)

variable {v : Viewport} {b : BrowserPage} {s t : Stage}

theorem emulate_sends {es : List BrowserEvent} (h : Trace b s es t) :
    ∃ sends, v.Sends sends (faultOf? (emulate b v.width v.height v.scale v.mobile v.touch t)) ∧
      Trace b s (es ++ sends)
        (stageOf (emulate b v.width v.height v.scale v.mobile v.touch t)) := by
  unfold emulate
  rcases bind_cases (b.make v.metrics) (fun _ => b.make v.touching) t with
    ⟨⟨⟩, u, hmetrics, hbind⟩ | ⟨f, u, hmetrics, hbind⟩
  · refine ⟨[.call v.metrics none, .call v.touching (faultOf? (b.make v.touching u))], ?_, ?_⟩
    · exact hbind ▸ .both _
    · have hboth := (h.call_ok hmetrics).call v.touching
      rw [List.append_assoc] at hboth
      exact hbind ▸ hboth
  · exact ⟨[.call v.metrics (some f)], hbind ▸ .metrics f, hbind ▸ h.call_error hmetrics⟩

theorem set_eq (v : Viewport) (b : BrowserPage) (s : Stage) :
    v.set b s =
      match b.make v.sizing s with
      | .error f t => .error f t
      | .ok _ t =>
        if v.IsPlain then .ok () t
        else
          match b.openSession t with
          | .ok _ u => withSession b (emulate b v.width v.height v.scale v.mobile v.touch) u
          | .error f u =>
            if f.kind = .browser then .ok () (u.tell ⟨.warning, .page,
              "Device emulation flags ignored, CDP unavailable: " ++ f.message⟩)
            else .error f u := by
  change EStateM.bind (b.make v.sizing) _ s = _
  rw [EStateM.bind]
  cases b.make v.sizing s with
  | error f t => rfl
  | ok _ t =>
    have hplain : (v.scale.isOne && !v.mobile && !v.touch) = true ↔ v.IsPlain := by
      simp [IsPlain, and_assoc]
    dsimp only
    by_cases h : v.IsPlain
    · rw [if_pos h, if_pos (hplain.mpr h)]
      rfl
    · rw [if_neg h, if_neg (mt hplain.mp h)]
      change EStateM.bind (tryOpenSession b) _ t = _
      rw [EStateM.bind, tryOpenSession_eq]
      cases b.openSession t with
      | ok _ u => rfl
      | error f u =>
        dsimp only
        by_cases hf : f.kind = .browser
        · rw [if_pos hf, if_pos hf]
          rfl
        · rw [if_neg hf, if_neg hf]

/-- Whatever the calls on a page come to, so is its viewport set. -/
theorem exists_trace (v : Viewport) (b : BrowserPage) (s : Stage) :
    ∃ es, Trace b s es (stageOf (v.set b s)) ∧ v.Sets es (faultOf? (v.set b s)) := by
  have hbegin : Trace b s [] s := .refl
  rw [set_eq]
  cases hsize : b.make v.sizing s with
  | error f t => exact ⟨_, hbegin.call_error hsize, .unsized f⟩
  | ok _ t =>
    have hsized := hbegin.call_ok hsize
    dsimp only
    split
    next hplain => exact ⟨_, hsized, .plain hplain⟩
    next hplain =>
      cases hsession : b.openSession t with
      | error f u =>
        have hrefused := hsized.call_error (show b.make .openSession t = _ from hsession)
        dsimp only
        split
        next hf => exact ⟨_, hrefused.log _, .unavailable hplain hf⟩
        next hf => exact ⟨_, hrefused, .unopened hplain hf⟩
      | ok _ u =>
        have hopened := hsized.call_ok (show b.make .openSession t = _ from hsession)
        dsimp only
        obtain ⟨sends, hsends, hused⟩ := emulate_sends hopened
        obtain ⟨hstage, hfault⟩ :=
          withSession_ends b (emulate b v.width v.height v.scale v.mobile v.touch) u
        rw [hstage, hfault]
        exact ⟨_, hused.call .detach, .closed hplain hsends _⟩

/-- It is an error that a call has failed, unless the browser has no session to offer. -/
theorem Sets.ne_none_iff {es : List BrowserEvent} {f? : Option PageFault} (h : v.Sets es f?) :
    f? ≠ none ↔
      ∃ c f, .call c (some f) ∈ es ∧ (c = .openSession → f.kind ≠ .browser) := by
  cases h with
  | unsized f => exact iff_of_true nofun ⟨v.sizing, f, by simp, nofun⟩
  | plain _ => simp
  | unavailable _ hf => simp [hf]
  | @unopened _ f hf => exact iff_of_true nofun ⟨.openSession, f, by simp, fun _ => hf⟩
  | @closed _ _ sent? hsends d? =>
    cases d? with
    | some f => exact iff_of_true nofun ⟨.detach, f, by simp, nofun⟩
    | none =>
      cases hsends with
      | metrics f => exact iff_of_true nofun ⟨v.metrics, f, by simp, nofun⟩
      | both =>
        cases sent? with
        | some f => exact iff_of_true nofun ⟨v.touching, f, by simp, nofun⟩
        | none => simp

end Viewport

/-- Right after each session that was opened come its commands, and then it is closed. -/
def ClosesSessions (es : List BrowserEvent) : Prop :=
  ∀ before after, es = before ++ .call .openSession none :: after →
    ∃ sends d? rest, after = sends ++ .call .detach d? :: rest ∧
      ∀ e ∈ sends, ∃ command params f?, e = .call (.send command params) f?

namespace ClosesSessions
variable {es es' : List BrowserEvent}

theorem of_forall (h : ∀ e ∈ es, e ≠ .call .openSession none) : ClosesSessions es := by
  rintro before after rfl
  exact absurd rfl (h (.call .openSession none) (by simp))

theorem append (h : ClosesSessions es) (h' : ClosesSessions es') : ClosesSessions (es ++ es') := by
  intro before after hsplit
  rcases List.append_eq_append_iff.mp hsplit with ⟨init, rfl, hrest⟩ | ⟨tail, rfl, htail⟩
  · exact h' init after hrest
  · cases tail with
    | nil => exact h' [] after htail.symm
    | cons e tail =>
      obtain ⟨rfl, rfl⟩ := List.cons_eq_cons.mp htail
      obtain ⟨sends, d?, rest, rfl, hsends⟩ := h before tail rfl
      exact ⟨sends, d?, rest ++ es', by simp, hsends⟩

/-- A session with its commands, closed after them. -/
theorem session {sends : List BrowserEvent} (d? : Option PageFault)
    (hsends : ∀ e ∈ sends, ∃ command params f?, e = .call (.send command params) f?) :
    ClosesSessions (.call .openSession none :: (sends ++ [.call .detach d?])) := by
  intro before after hsplit
  cases before with
  | nil =>
    obtain ⟨-, rfl⟩ := List.cons_eq_cons.mp hsplit
    exact ⟨sends, d?, [], rfl, hsends⟩
  | cons e before =>
    -- among the commands and the closing there is no other session
    obtain ⟨-, hrest⟩ := List.cons_eq_cons.mp hsplit
    have hmem : .call .openSession none ∈ sends ++ [.call .detach d?] := by simp [hrest]
    rcases List.mem_append.mp hmem with hmem | hmem
    · obtain ⟨command, params, f?, h⟩ := hsends _ hmem
      cases h
    · cases List.mem_singleton.mp hmem

end ClosesSessions

theorem Viewport.Sets.closesSessions {v : Viewport} {es : List BrowserEvent}
    {f? : Option PageFault} (h : v.Sets es f?) : ClosesSessions es := by
  have hsize : ClosesSessions [.call v.sizing none] := .of_forall (by simp [sizing])
  cases h with
  | unsized f => exact .of_forall (by simp)
  | plain _ => exact hsize
  | unavailable _ _ => exact .of_forall (by simp [sizing])
  | unopened _ _ => exact .of_forall (by simp [sizing])
  | closed _ hsends d? =>
    refine hsize.append (.session d? ?_)
    cases hsends <;> simp [metrics, touching]

namespace BrowserPage
variable {b : BrowserPage} {α β : Type}

/-- What is done on a page of a browser leaves no session open. -/
def KeepsNoSession (b : BrowserPage) (x : Act α) : Prop :=
  ∀ s, ∃ es, Trace b s es (stageOf (x s)) ∧ ClosesSessions es

theorem keepsNoSession_pure (a : α) : b.KeepsNoSession (pure a : Act α) :=
  fun _ => ⟨[], .refl, .of_forall (by simp)⟩

theorem keepsNoSession_tell (r : LogRecord) :
    b.KeepsNoSession (modify (Stage.tell r) : Act Unit) :=
  fun _ => ⟨[], Trace.refl.log [r], .of_forall (by simp)⟩

theorem KeepsNoSession.bind {x : Act α} {f : α → Act β} (hx : b.KeepsNoSession x)
    (hf : ∀ a, b.KeepsNoSession (f a)) : b.KeepsNoSession (x >>= f) := by
  intro s
  obtain ⟨es, hes, hclosed⟩ := hx s
  rcases bind_cases x f s with ⟨a, t, hs, hbind⟩ | ⟨fault, t, hs, hbind⟩
  · rw [hs] at hes
    rw [hbind]
    obtain ⟨es', hes', hclosed'⟩ := hf a t
    exact ⟨es ++ es', hes.trans hes', hclosed.append hclosed'⟩
  · rw [hs] at hes
    rw [hbind]
    exact ⟨es, hes, hclosed⟩

theorem keepsNoSession_make (c : BrowserCall) (hc : c ≠ .openSession := by simp) :
    b.KeepsNoSession (b.make c) :=
  fun _ => ⟨_, Trace.refl.call c, .of_forall (by simp [hc])⟩

/-- A call with an answer. -/
theorem keepsNoSession_answer {x : Act α} (c : BrowserCall) (hx : b.make c = discard x)
    (hc : c ≠ .openSession := by simp) : b.KeepsNoSession x := by
  intro s
  rw [← stageOf_discard, ← hx]
  exact keepsNoSession_make c hc s

theorem keepsNoSession_loadStateFor (name : String) : b.KeepsNoSession (loadStateFor name) := by
  unfold loadStateFor
  split
  · exact (keepsNoSession_tell _).bind fun _ => keepsNoSession_pure _
  · exact keepsNoSession_pure _

theorem keepsNoSession_pollingFor (polling : Value) : b.KeepsNoSession (pollingFor polling) := by
  unfold pollingFor
  split
  · exact keepsNoSession_pure _
  · exact (keepsNoSession_tell _).bind fun _ => keepsNoSession_pure _

/-- Whatever the calls on a page of a browser come to, each operation closes the session that it
opens. -/
theorem handle_keepsNoSession (b : BrowserPage) {α : Type} (op : PageOp α) :
    b.KeepsNoSession (b.handle.call op) := by
  cases op with
  | goto url wait =>
    exact (keepsNoSession_loadStateFor _).bind fun state =>
      keepsNoSession_make (.goto url ⟨wait.timeout, state⟩)
  | goBack wait =>
    exact (keepsNoSession_loadStateFor _).bind fun state =>
      keepsNoSession_make (.goBack ⟨wait.timeout, state⟩)
  | goForward wait =>
    exact (keepsNoSession_loadStateFor _).bind fun state =>
      keepsNoSession_make (.goForward ⟨wait.timeout, state⟩)
  | reload wait =>
    exact (keepsNoSession_loadStateFor _).bind fun state =>
      keepsNoSession_make (.reload ⟨wait.timeout, state⟩)
  | waitForNavigation wait =>
    exact (keepsNoSession_loadStateFor _).bind fun state =>
      keepsNoSession_make (.expectNavigation ⟨wait.timeout, state⟩)
  | click selector button clickCount delay =>
    exact keepsNoSession_make (.click selector button clickCount delay)
  | type selector text delay => exact keepsNoSession_make (.pressSequentially selector text delay)
  | select selector values => exact keepsNoSession_make (.selectOption selector values)
  | hover selector => exact keepsNoSession_make (.hover selector)
  | focus selector => exact keepsNoSession_make (.focus selector)
  | press key delay => exact keepsNoSession_make (.pressKey key delay)
  | waitForSelector selector timeout visible hidden =>
    exact keepsNoSession_make (.waitForSelector selector timeout (.ofFlags visible hidden))
  | waitForFunction script timeout polling =>
    exact (keepsNoSession_pollingFor polling).bind fun polling =>
      keepsNoSession_make (.waitForFunction script timeout polling)
  | evaluate script arg =>
    exact keepsNoSession_answer (.evaluate script _) rfl
  | currentUrl => exact keepsNoSession_answer .url rfl
  | title => exact keepsNoSession_answer .title rfl
  | setViewport width height scale mobile touch =>
    intro s
    obtain ⟨es, hes, hsets⟩ := Viewport.exists_trace ⟨width, height, scale, mobile, touch⟩ b s
    exact ⟨es, hes, hsets.closesSessions⟩
  | count selector => exact keepsNoSession_answer (.count selector) rfl
  | isVisible selector =>
    have hshown : b.KeepsNoSession
        (b.evaluate PageScript.firstMatchVisible (some (.text selector))) :=
      keepsNoSession_answer (.evaluate PageScript.firstMatchVisible (some (.text selector))) rfl
    exact hshown.bind fun _ => keepsNoSession_pure _
  | textContent selector =>
    refine (keepsNoSession_answer (.querySelector selector) rfl).bind fun found => ?_
    cases found with
    | none => exact keepsNoSession_pure _
    | some e =>
      exact (keepsNoSession_answer (.elementText selector e) rfl).bind
        fun _ => keepsNoSession_pure _

end BrowserPage

end Walkthrough
