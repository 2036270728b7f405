import Walkthrough.Proofs.Run.Waiting
import Walkthrough.Proofs.Step.Timeout

/-!
A browser is only told what it knows: in a run on a page of a browser each call that waits is made
with a load state, a selector state and a way of polling that there are, and with the time that the
step waits, whatever the settings and the steps ask for.
-/
namespace Walkthrough

/-- What is done makes no calls but some, and these are noted after the others. -/
def Makes (ok : PageCall → Prop) {α : Type} (x : Act α) : Prop :=
  ∀ s, ∃ calls, (stageOf (x s)).calls = s.calls ++ calls ∧ ∀ c ∈ calls, ok c

theorem Makes.law {ok : PageCall → Prop} : PageLaw ok fun x => Makes ok x :=
  .ofMoves (R := fun s t => ∃ calls, t.calls = s.calls ++ calls ∧ ∀ c ∈ calls, ok c)
    (fun s => ⟨[], by simp⟩)
    (by
      rintro s t u ⟨calls, ht, hcalls⟩ ⟨calls', hu, hcalls'⟩
      refine ⟨calls ++ calls', by rw [hu, ht, List.append_assoc], fun c hc => ?_⟩
      exact (List.mem_append.mp hc).elim (hcalls c) (hcalls' c))
    (fun {c} hc s => ⟨[c], Stage.calls_hit c s, by simpa using hc⟩)
    (fun _ s => ⟨[], by simp [Stage.visit]⟩) fun _ s => ⟨[], by simp⟩

/-- The calls that an event can make on a page in a browser. -/
def Event.browserCalls : Event → List PageCall
  | call op _ => op.browserCalls
  | rest seconds _ => [.sleep seconds]

/-- On a page of a browser what is noted are calls that the events can make. -/
theorem Course.browserCalls {s t : Stage} {es : List Event}
    (h : Course Stage.browserPage.handle s es t) :
    ∃ calls, t.calls = s.calls ++ calls ∧ ∀ c ∈ calls, ∃ e ∈ es, c ∈ e.browserCalls := by
  induction h with
  | refl => exact ⟨[], by simp⟩
  | @call es t β _ op ih =>
    obtain ⟨calls, ht, hcalls⟩ := ih
    obtain ⟨calls', hu, hcalls'⟩ := Makes.law.browserPage_handle op (fun _ => id) t
    refine ⟨calls ++ calls', by rw [hu, ht, List.append_assoc], fun c hc => ?_⟩
    rcases List.mem_append.mp hc with hc | hc
    · obtain ⟨e, he, hmem⟩ := hcalls c hc
      exact ⟨e, List.mem_append_left _ he, hmem⟩
    · exact ⟨.call op t, by simp, hcalls' c hc⟩
  | @rest es t _ seconds ih =>
    obtain ⟨calls, ht, hcalls⟩ := ih
    refine ⟨calls ++ [.sleep seconds], ?_, fun c hc => ?_⟩
    · change t.calls ++ [PageCall.sleep seconds] = _
      rw [ht, List.append_assoc]
    rcases List.mem_append.mp hc with hc | hc
    · obtain ⟨e, he, hmem⟩ := hcalls c hc
      exact ⟨e, List.mem_append_left _ he, hmem⟩
    · exact ⟨.rest seconds t, by simp, hc⟩
  | log _ rs ih => exact ih

/-- The methods of a browser that wait for navigation. -/
def PageCall.navigationMethods : List String :=
  ["goto", "go_back", "go_forward", "reload", "expect_navigation"]

/-- The methods of a browser that wait. -/
def PageCall.waitingMethods : List String :=
  ["wait_for_selector", "wait_for_function"] ++ navigationMethods

def Step.AsksHidden (v : Value) : Prop :=
  ∃ a, Action.ofValue v = .ok a ∧ a.attributes.get? "hidden" = some (.bool true)

/-- A call for a step as a browser knows it: states and ways of polling that there are, and the time
that the step waits. -/
structure PageCall.IsLegalFor (v : Value) (c : PageCall) : Prop where
  waitUntil : c.method ∈ navigationMethods →
    ∃ state ∈ ["load", "domcontentloaded", "networkidle", "commit"],
      Entries.get? c.named "wait_until" = some (.text state)
  state : c.method = "wait_for_selector" → ∃ state ∈ ["attached", "visible", "hidden"],
    Entries.get? c.named "state" = some (.text state) ∧ (Step.AsksHidden v → state = "hidden")
  polling : c.method = "wait_for_function" → ∃ polling,
    Entries.get? c.named "polling" = some polling ∧
      (polling = .text "raf" ∨ ∃ n, polling = .ofNumber n)
  timeout : c.method ∈ waitingMethods → ∃ timeout, Step.WaitsFor v timeout ∧
    Entries.get? c.named "timeout" = some (.ofNumber timeout)

theorem LoadState.name_mem (state : LoadState) :
    state.name ∈ ["load", "domcontentloaded", "networkidle", "commit"] := by
  cases state <;> decide

theorem SelectorState.name_mem (state : SelectorState) :
    state.name ∈ ["attached", "visible", "hidden"] := by
  cases state <;> decide

namespace PageCall
variable {v : Value}

theorem isLegalFor_navigation {method : String} {args : List Value} {wait : NavigationWait}
    (hmethod : method ∈ navigationMethods) (htimeout : Step.WaitsFor v wait.timeout) :
    IsLegalFor v ⟨method, args, wait.inBrowser.named⟩ where
  waitUntil _ := ⟨_, (LoadState.ofName wait.waitUntil).name_mem, rfl⟩
  state h := absurd (show "wait_for_selector" ∈ navigationMethods from h ▸ hmethod) (by decide)
  polling h := absurd (show "wait_for_function" ∈ navigationMethods from h ▸ hmethod) (by decide)
  timeout _ := ⟨wait.timeout, htimeout, rfl⟩

theorem isLegalFor_of_all {calls : List PageCall}
    (h : (calls.all fun c => decide (c.method ∉ waitingMethods)) = true) :
    ∀ c ∈ calls, c.IsLegalFor v := by
  intro c hc
  have hmethod : c.method ∉ waitingMethods := of_decide_eq_true (List.all_eq_true.mp h c hc)
  constructor
  case waitUntil => exact fun h => absurd (List.mem_append_right _ h) hmethod
  case state => exact fun h => absurd (h ▸ hmethod) (by decide)
  case polling => exact fun h => absurd (h ▸ hmethod) (by decide)
  case timeout => exact fun h => absurd h hmethod

end PageCall

def PageOp.hidden? {α : Type} : PageOp α → Option (Option Bool)
  | .waitForSelector _ _ _ hidden => some hidden
  | _ => none

def PageOp.polling? {α : Type} : PageOp α → Option Value
  | .waitForFunction _ _ polling => some polling
  | _ => none

/-- An operation waits as its step does. -/
structure PageOp.WaitsAs (v : Value) {α : Type} (op : PageOp α) : Prop where
  timeout : ∀ timeout, op.timeout? = some timeout → Step.WaitsFor v timeout
  hidden : ∀ hidden, op.hidden? = some hidden → Step.AsksHidden v → hidden = some true
  polling : ∀ polling, op.polling? = some polling →
    (∃ mode, polling = .text mode) ∨ ∃ ms, polling = .float ms

namespace PageOp
variable {α : Type} {op : PageOp α} {v : Value}

theorem polledInBrowser_cases {polling : Value}
    (h : (∃ mode, polling = .text mode) ∨ ∃ ms, polling = .float ms) :
    polledInBrowser polling = .text "raf" ∨ ∃ n, polledInBrowser polling = .ofNumber n := by
  obtain ⟨mode, rfl⟩ | ⟨ms, rfl⟩ := h
  · refine .inl ?_
    by_cases hraf : mode = "raf"
    · rw [hraf]
      rfl
    · exact if_neg (by simpa [canPoll] using hraf)
  · exact .inr ⟨.float ms, rfl⟩

/-- Of an operation that waits as its step does, a browser knows the calls. -/
theorem WaitsAs.isLegalFor (h : op.WaitsAs v) : ∀ c ∈ op.browserCalls, c.IsLegalFor v := by
  cases op with
  | goto url wait =>
    exact List.forall_mem_singleton.mpr
      (PageCall.isLegalFor_navigation (by decide) (h.timeout _ rfl))
  | goBack wait | goForward wait | reload wait | waitForNavigation wait =>
    exact List.forall_mem_singleton.mpr
      (PageCall.isLegalFor_navigation (by decide) (h.timeout _ rfl))
  | waitForSelector selector timeout visible hidden =>
    refine List.forall_mem_singleton.mpr ?_
    constructor
    case waitUntil =>
      exact fun h =>
        absurd (show "wait_for_selector" ∈ PageCall.navigationMethods from h) (by decide)
    case state =>
      refine fun _ => ⟨_, (SelectorState.ofFlags visible hidden).name_mem, rfl, fun hasks => ?_⟩
      rw [h.hidden _ rfl hasks]
      rfl
    case polling =>
      exact fun h => absurd (show "wait_for_selector" = "wait_for_function" from h) (by decide)
    case timeout => exact fun _ => ⟨timeout, h.timeout _ rfl, rfl⟩
  | waitForFunction script timeout polling =>
    refine List.forall_mem_singleton.mpr ?_
    constructor
    case waitUntil =>
      exact fun h =>
        absurd (show "wait_for_function" ∈ PageCall.navigationMethods from h) (by decide)
    case state =>
      exact fun h => absurd (show "wait_for_function" = "wait_for_selector" from h) (by decide)
    case polling => exact fun _ => ⟨_, rfl, polledInBrowser_cases (h.polling _ rfl)⟩
    case timeout => exact fun _ => ⟨timeout, h.timeout _ rfl, rfl⟩
  | _ => exact PageCall.isLegalFor_of_all rfl

theorem WaitsAs.plain (htimeout : op.timeout? = none) (hhidden : op.hidden? = none)
    (hpolling : op.polling? = none) : op.WaitsAs v :=
  ⟨fun _ h => by simp [htimeout] at h, fun _ h => by simp [hhidden] at h,
    fun _ h => by simp [hpolling] at h⟩

theorem WaitsAs.of_actsOn (h : op.actsOn? ≠ none) : op.WaitsAs v := by
  cases op <;> first | exact .plain rfl rfl rfl | exact absurd rfl h

end PageOp

namespace Step
variable {v : Value} {a : Action}

/-- Only one type of action can ask for an element to be hidden. -/
theorem kind_of_asksHidden (ha : Action.ofValue v = .ok a) (h : AsksHidden v) :
    a.kind = .waitForSelector := by
  obtain ⟨a', ha', hhidden⟩ := h
  obtain rfl : a = a' := Except.ok.inj (ha.symm.trans ha')
  by_contra hkind
  have hkey : "hidden" ∉ a.attributes.keys := by
    have hkeys : a.attributes.keys = "label" :: "action" :: a.kind.fields.map Field.name := by
      rw [← Record.keys_values Field.name a.kind.fields a.fields]
      rfl
    rw [hkeys]
    generalize a.kind = kind at hkind
    cases kind <;> first | decide | exact absurd rfl hkind
  rw [Entries.get?_eq_none hkey] at hhidden
  cases hhidden

/-- An operation that is given the timeout of its step, and nothing to be hidden. -/
theorem waitsAs_of_timeout {α : Type} {op : PageOp α} {own : Option Float}
    (ha : Action.ofValue v = .ok a) (hown : a.attributes.get? "timeout" = some (.ofFloat? own))
    (hdefault : a.kind.timeoutKind.defaultTimeout?.isSome)
    (hop : op.timeout? = some (timeoutFor a.kind.timeoutKind own))
    (hkind : a.kind ≠ .waitForSelector)
    (hpolling : ∀ polling, op.polling? = some polling →
      (∃ mode, polling = .text mode) ∨ ∃ ms, polling = .float ms) : op.WaitsAs v where
  timeout timeout h := by
    obtain rfl := Option.some.inj (hop.symm.trans h)
    exact waitsFor_timeoutFor ha hown hdefault
  hidden _ _ hasks := absurd (kind_of_asksHidden ha hasks) hkind
  polling := hpolling

theorem pollingOf_cases (c : Settings) (polling : Option Polling) :
    (∃ mode, pollingOf c polling = .text mode) ∨ ∃ ms, pollingOf c polling = .float ms := by
  unfold pollingOf
  split
  · split
    · exact .inl ⟨_, rfl⟩
    · exact .inr ⟨_, rfl⟩
  · split <;> exact .inl ⟨_, rfl⟩
  · exact .inl ⟨_, rfl⟩

end Step

namespace Plan
open Step
variable [Pattern.Host] {v : Value}

theorem ofAction_waitsAs_of_actsOnElement (c : Settings) {a : Action}
    (ha : Action.ofValue v = .ok a) (hacts : a.kind.actsOnElement = true) :
    (ofAction c a).All (fun op => op.WaitsAs v) (fun _ => True) True := by
  obtain ⟨selector, own, β, op, hown, hop, hplan⟩ := exists_onceShown c hacts
  have hkind : a.kind ≠ .waitForSelector := by
    intro hkind
    simp [hkind, ActionKind.actsOnElement] at hacts
  rw [hplan]
  exact .onceShown (waitsAs_of_timeout ha hown (timeoutKind_isSome_of_actsOnElement hacts) rfl
    hkind nofun) (.of_actsOn (by simp [hop]))

/-- One case for each type of action: all that it does waits as the step does. -/
theorem ofAction_waitsAs (c : Settings) : ∀ {a : Action}, Action.ofValue v = .ok a →
    (ofAction c a).All (fun op => op.WaitsAs v) (fun _ => True) True
  | ⟨.click, _, _⟩, ha | ⟨.type, _, _⟩, ha | ⟨.clear, _, _⟩, ha | ⟨.select, _, _⟩, ha
  | ⟨.hover, _, _⟩, ha | ⟨.focus, _, _⟩, ha => ofAction_waitsAs_of_actsOnElement c ha rfl
  | ⟨.waitForSelector, _, (_, own, _, hidden, ())⟩, ha => .order {
      timeout := fun timeout h => by
        obtain rfl := Option.some.inj h
        exact waitsFor_timeoutFor ha (by cases own <;> rfl) rfl
      hidden := fun hidden' h ⟨a, ha', hhidden⟩ => by
        obtain rfl := Option.some.inj h
        obtain rfl := Except.ok.inj (ha.symm.trans ha')
        have hvalue : Value.ofBool? hidden = .bool true := by
          cases hidden <;> exact Option.some.inj hhidden
        cases hidden <;> cases hvalue
        rfl
      polling := nofun }
  | ⟨.waitForFunction, _, (_, own, polling, ())⟩, ha =>
    .order (waitsAs_of_timeout ha (by cases own <;> rfl) rfl rfl nofun fun polling' h =>
      Option.some.inj h ▸ pollingOf_cases c polling)
  | ⟨.waitForNavigation, _, (own, _, ())⟩, ha | ⟨.goto, _, (_, own, _, ())⟩, ha
  | ⟨.goBack, _, (own, _, ())⟩, ha | ⟨.goForward, _, (own, _, ())⟩, ha
  | ⟨.reload, _, (own, _, ())⟩, ha =>
    .order (waitsAs_of_timeout ha (by cases own <;> rfl) rfl rfl nofun nofun)
  | ⟨.press, _, (_, _, ())⟩, _ | ⟨.scrollToElement, _, (_, _, _, _, ())⟩, _
  | ⟨.setViewport, _, (_, _, _, _, _, ())⟩, _ => .order (.plain rfl rfl rfl)
  | ⟨.waitForTimeout, _, (_, ())⟩, _ => .paused trivial trivial
  | ⟨.scroll, _, (_, _, _, _, ())⟩, _ => by
    unfold ofAction
    dsimp only
    split <;> exact .order (.plain rfl rfl rfl)
  | ⟨.evaluate, _, (_, ())⟩, _ | ⟨.assert, _, (_, _, ())⟩, _ =>
    ⟨.plain rfl rfl rfl, fun _ => trivial⟩
  | ⟨.assertSelector, _, (_, _, _, _, ())⟩, _ =>
    .counted (.plain rfl rfl rfl) (.plain rfl rfl rfl) fun _ => trivial
  | ⟨.assertText, _, (_, _, _, _, _, ())⟩, _ =>
    ⟨.plain rfl rfl rfl, fun content => by cases content <;> trivial⟩
  | ⟨.assertUrl, _, (_, _, _, ())⟩, _ | ⟨.assertTitle, _, (_, _, _, ())⟩, _ =>
    .compared (.plain rfl rfl rfl) fun _ => trivial

end Plan

namespace Step
variable {v : Value}

/-- Of all that happens in a step, a browser knows the calls. -/
def IsLegal (v : Value) (es : List Event) : Prop :=
  ∀ e ∈ es, ∀ c ∈ e.browserCalls, c.IsLegalFor v

theorem run_isLegal [Pattern.Host] (page : PageHandle) (c : Settings) (v : Value) (s : Stage) :
    ∃ es, Course page s es (run page (.ok c) v s).2 ∧ IsLegal v es := by
  refine exists_course (by simp [IsLegal]) fun a ha => ?_
  refine Plan.forall_events (Plan.ofAction_waitsAs c ha) (fun op _ hop => hop.isLegalFor)
    (fun seconds _ => ?_) s
  exact PageCall.isLegalFor_of_all rfl

/-- The calls that a step makes in a browser, if it makes only those that a browser knows. -/
theorem IsLegal.exists_calls {s t : Stage} {es : List Event} (h : IsLegal v es)
    (hcourse : Course Stage.browserPage.handle s es t) :
    ∃ calls, t.calls = s.calls ++ calls ∧ ∀ c ∈ calls, c.IsLegalFor v := by
  obtain ⟨calls, ht, hcalls⟩ := hcourse.browserCalls
  refine ⟨calls, ht, fun c hc => ?_⟩
  obtain ⟨e, he, hmem⟩ := hcalls c hc
  exact h e he c hmem

end Step

namespace Run
variable {c : Settings} {o : RunOptions}

/-- The calls made from one page to another are, for one step after the other, such that a browser
knows them. -/
def CallsAreLegal (vs : List Value) (s t : Stage) : Prop :=
  ∃ groups, List.Forall₂ (fun v calls => ∀ c ∈ calls, PageCall.IsLegalFor v c) vs groups ∧
    t.calls = s.calls ++ groups.flatten

theorem callsAreLegal_of_course {vs : List Value} {groups : List (List Event)} {s t : Stage}
    (hsteps : List.Forall₂ Step.IsLegal vs groups)
    (hcourse : Course Stage.browserPage.handle s groups.flatten t) : CallsAreLegal vs s t := by
  induction hsteps generalizing s with
  | nil =>
    obtain ⟨calls, ht, hcalls⟩ := hcourse.browserCalls
    obtain rfl : calls = [] := List.eq_nil_iff_forall_not_mem.mpr fun c hc => by
      simpa using hcalls c hc
    exact ⟨[], .nil, ht⟩
  | cons hes _ ih =>
    obtain ⟨u, hfirst, hrest⟩ := hcourse.of_append
    obtain ⟨calls, hu, hcalls⟩ := hes.exists_calls hfirst
    obtain ⟨groups, hgroups, ht⟩ := ih hrest
    refine ⟨calls :: groups, .cons hcalls hgroups, ?_⟩
    rw [ht, hu, List.append_assoc, List.flatten_cons]

section
variable [Pattern.Host]

theorem sequence_callsAreLegal (v : Value) (s : Stage) :
    let page := Stage.browserPage.handle
    ∃ n, (∀ r, (sequence page c o v s).1 = .ok r → n = r.results.length) ∧
      CallsAreLegal ((v.steps?.getD []).take n) s (sequence page c o v s).2 := by
  obtain ⟨n, groups, hn, hgroups, hcourse⟩ :=
    @exists_sequence_course Stage.browserPage.handle c o _ _
      (Step.run_isLegal Stage.browserPage.handle c) v s
  exact ⟨n, hn, callsAreLegal_of_course hgroups hcourse⟩

/-- In a run on a page of a browser, by itself or for an instruction or a test, all calls are made
with options that the browser knows, whatever the steps and the settings ask for. As many steps are
performed as there are results, where the run comes to any. -/
theorem browser_calls_legal (c : Settings) (o : RunOptions) (s : Stage) :
    let page := Stage.browserPage.handle
    (∀ v, ∃ n, (∀ r, (sequence page c o v s).1 = .ok r → n = r.results.length) ∧
      CallsAreLegal ((v.steps?.getD []).take n) s (sequence page c o v s).2) ∧
    (∀ source, ∃ n, (∀ i, (Outcome.runInstruction page (.ok c) source s).1 = .ok i →
        n = i.run.elim 0 (·.results.length)) ∧
      CallsAreLegal (source.steps.take n) s
        (Outcome.runInstruction page (.ok c) source s).2) ∧
    ∀ source, ∃ n, (∀ t, (Outcome.runTest page (.ok c) source s).1 = .ok t →
        n = t.run.elim 0 (·.results.length)) ∧
      CallsAreLegal (source.steps.take n) s (Outcome.runTest page (.ok c) source s).2 := by
  intro page
  have hlog (rs : List LogRecord) : CallsAreLegal [] s { s with log := s.log ++ rs } :=
    ⟨[], .nil, by simp⟩
  refine ⟨fun v => sequence_callsAreLegal v s, fun source => ?_, fun source => ?_⟩
  · exact Outcome.runInstruction_performed (Q := fun vs t => CallsAreLegal vs s t) hlog
      fun o v => sequence_callsAreLegal v s
  · exact Outcome.runTest_performed (Q := fun vs t => CallsAreLegal vs s t) hlog
      fun o v => sequence_callsAreLegal v s

end

end Run

end Walkthrough
