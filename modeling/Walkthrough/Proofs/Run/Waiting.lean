import Walkthrough.Proofs.Run.Course
import Walkthrough.Proofs.Run.Sleeps
import Walkthrough.Proofs.Step.Containment

/-!
No element is acted on before it is shown: in whatever happens in a run, right before an operation
that acts on an element there is a wait until just that element is shown, which has succeeded.
-/
namespace Walkthrough

/-- The selector of the element that a call acts on, by what is noted of the call. -/
def PageCall.actsOn? (c : PageCall) : Option String :=
  if c.method ∈ ["click", "type", "select", "hover", "focus"] then c.target?
  else if c.method = "evaluate" then
    match c.args with
    | [.text script, arg] => PageScript.cleared? script arg
    | _ => none
  else none

theorem PageOp.noted_actsOn? {α : Type} (op : PageOp α) : op.noted.actsOn? = op.actsOn? := by
  cases op <;> rfl

namespace Event

/-- The selector of the element that is acted on. -/
def actsOn? : Event → Option String
  | call op _ => op.actsOn?
  | rest _ _ => none

theorem noted_actsOn? (e : Event) : e.noted.actsOn? = e.actsOn? := by
  cases e with
  | call op before => exact op.noted_actsOn?
  | rest seconds before => rfl

/-- A wait until the element of a selector is shown. -/
def awaitsShown (selector : String) (timeout : Number) (before : Stage) : Event :=
  .call (.waitForSelector selector timeout (some true) none) before

end Event

namespace Step

/-- The time that a step waits for its element: its own timeout as it is read, or else that of its
type. -/
def WaitsFor (v : Value) (timeout : Number) : Prop :=
  ∃ a own default, Action.ofValue v = .ok a ∧
    a.attributes.get? "timeout" = some (.ofFloat? own) ∧
    a.kind.timeoutKind.defaultTimeout? = some default ∧
    timeout = own.elim (.int default) .float

/-- What happens in a step: an element is acted on only right after it was waited for and shown. -/
def ActsOnceShown (page : PageHandle) (v : Value) (es : List Event) : Prop :=
  ∀ before e after selector, es = before ++ e :: after → e.actsOn? = some selector →
    ∃ init timeout t, before = init ++ [.awaitsShown selector timeout t] ∧
      (Event.awaitsShown selector timeout t).fault? page = none ∧ WaitsFor v timeout

end Step

namespace Plan
variable {page : PageHandle}

/-- To act on an element once it is shown: if the wait fails there is nothing else. -/
theorem actsOnceShown_events {v : Value} {selector : String} {timeout : Number} {β : Type}
    {op : PageOp β} (hop : op.actsOn? = some selector) (htimeout : Step.WaitsFor v timeout)
    (s : Stage) : Step.ActsOnceShown page v ((onceShown selector timeout op).events page s) := by
  intro before e after selector' hes he
  cases h : page.call (.waitForSelector selector timeout (some true) none) s with
  | error f t =>
    rw [onceShown, events_call_error h] at hes
    rcases List.cons_eq_append_iff.mp hes with ⟨-, heq⟩ | ⟨before', -, hnil⟩
    · cases heq
      cases he
    · cases before' <;> cases hnil
  | ok u t =>
    rw [onceShown, events_call_ok h, events_order] at hes
    rcases List.cons_eq_append_iff.mp hes with ⟨-, heq⟩ | ⟨before', rfl, htail⟩
    · cases heq
      cases he
    · rcases List.cons_eq_append_iff.mp htail with ⟨rfl, heq⟩ | ⟨before'', -, hnil⟩
      · cases heq
        obtain rfl : selector = selector' := Option.some.inj (hop.symm.trans he)
        exact ⟨[], timeout, s, rfl, by simp [Event.awaitsShown, Event.fault?, h], htimeout⟩
      · cases before'' <;> cases hnil

end Plan

namespace Step
variable {page : PageHandle} {c : Settings} {v : Value}

theorem waitsFor_timeoutFor {a : Action} {own : Option Float} (ha : Action.ofValue v = .ok a)
    (hown : a.attributes.get? "timeout" = some (.ofFloat? own))
    (hdefault : a.kind.timeoutKind.defaultTimeout?.isSome) :
    WaitsFor v (timeoutFor a.kind.timeoutKind own) := by
  obtain ⟨default, hdefault⟩ := Option.isSome_iff_exists.mp hdefault
  refine ⟨a, own, default, ha, hown, hdefault, ?_⟩
  cases own with
  | some x => rfl
  | none => rw [timeoutFor, hdefault]; rfl

theorem timeoutKind_isSome_of_actsOnElement {kind : ActionKind} (h : kind.actsOnElement = true) :
    kind.timeoutKind.defaultTimeout?.isSome := by
  cases kind <;> first | rfl | cases h

/-- One case for each type of action that acts on an element: what it does once that is shown. -/
theorem exists_onceShown [Pattern.Host] (c : Settings) {a : Action}
    (h : a.kind.actsOnElement = true) :
    ∃ (selector : String) (own : Option Float) (β : Type) (op : PageOp β),
      a.attributes.get? "timeout" = some (.ofFloat? own) ∧ op.actsOn? = some selector ∧
      Plan.ofAction c a = .onceShown selector (timeoutFor a.kind.timeoutKind own) op := by
  obtain ⟨kind, label, fields⟩ := a
  cases kind with
  | click =>
    obtain ⟨selector, own, -⟩ := fields
    exact ⟨selector, own, _, _, by cases own <;> rfl, rfl, rfl⟩
  | type =>
    obtain ⟨selector, text, own, -⟩ := fields
    exact ⟨selector, own, _, _, by cases own <;> rfl, rfl, rfl⟩
  | clear =>
    obtain ⟨selector, own, ⟨⟩⟩ := fields
    exact ⟨selector, own, _, .evaluate PageScript.clearValue (.text selector),
      by cases own <;> rfl, PageScript.cleared?_clearValue selector, rfl⟩
  | select =>
    obtain ⟨selector, choice, own, ⟨⟩⟩ := fields
    exact ⟨selector, own, _, _, by cases own <;> rfl, rfl, rfl⟩
  | hover =>
    obtain ⟨selector, own, ⟨⟩⟩ := fields
    exact ⟨selector, own, _, _, by cases own <;> rfl, rfl, rfl⟩
  | focus =>
    obtain ⟨selector, own, ⟨⟩⟩ := fields
    exact ⟨selector, own, _, _, by cases own <;> rfl, rfl, rfl⟩
  | _ => cases h

theorem actsOnceShown_ofAction [Pattern.Host] {a : Action} (ha : Action.ofValue v = .ok a)
    (s : Stage) :
    ActsOnceShown page v ((Plan.ofAction c a).events page s) := by
  by_cases hacts : a.kind.actsOnElement = true
  · obtain ⟨selector, own, β, op, hown, hop, hplan⟩ := exists_onceShown c hacts
    rw [hplan]
    exact Plan.actsOnceShown_events hop
      (waitsFor_timeoutFor ha hown (timeoutKind_isSome_of_actsOnElement hacts)) s
  · have hnone : ∀ e ∈ (Plan.ofAction c a).events page s, e.actsOn? = none :=
      Plan.forall_events (Plan.ofAction_all c a)
        (fun op _ hop => not_not.mp fun hsome => hacts (hop.acts hsome)) (fun _ _ => rfl) s
    intro before e after selector hes he
    rw [hnone e (by simp [hes])] at he
    cases he

/-- However a step is run, what happens in it is in this order. -/
theorem run_actsOnceShown [Pattern.Host] (page : PageHandle) (c : Settings) (v : Value)
    (s : Stage) :
    ∃ es, Course page s es (run page (.ok c) v s).2 ∧ ActsOnceShown page v es :=
  exists_course (by simp [ActsOnceShown]) fun _ ha => actsOnceShown_ofAction ha s

end Step

namespace Run
variable {page : PageHandle} {c : Settings} {o : RunOptions}

/-- What happens in a run of steps, from one page to another: for each of the steps what happens in
it, one after the other, so that each operation on an element, and each call of one that is noted,
has the wait for it right before it. -/
structure ActsOnceShown (page : PageHandle) (vs : List Value) (s t : Stage)
    (groups : List (List Event)) : Prop where
  course : Course page s groups.flatten t
  steps : List.Forall₂ (Step.ActsOnceShown page) vs groups
  acted : ∀ before e after selector, groups.flatten = before ++ e :: after →
    e.actsOn? = some selector →
      ∃ init timeout u, before = init ++ [.awaitsShown selector timeout u] ∧
        (Event.awaitsShown selector timeout u).fault? page = none ∧
        ∃ v ∈ vs, Step.WaitsFor v timeout
  noted : page.Notes → ∃ calls, t.calls = s.calls ++ calls ∧
    ∀ before call after selector, calls = before ++ call :: after →
      call.actsOn? = some selector → ∃ init timeout u,
        before = init ++ [(Event.awaitsShown selector timeout u).noted] ∧
        (Event.awaitsShown selector timeout u).fault? page = none ∧
        ∃ v ∈ vs, Step.WaitsFor v timeout

/-- What comes right before something in one of several lists comes right before it in all. -/
theorem acted_flatten {vs : List Value} {groups : List (List Event)}
    (h : List.Forall₂ (Step.ActsOnceShown page) vs groups) :
    ∀ before e after selector, groups.flatten = before ++ e :: after →
      e.actsOn? = some selector →
      ∃ init timeout u, before = init ++ [.awaitsShown selector timeout u] ∧
        (Event.awaitsShown selector timeout u).fault? page = none ∧
        ∃ v ∈ vs, Step.WaitsFor v timeout := by
  induction h with
  | nil => simp
  | @cons v es vs groups hes _ ih =>
    intro before e after selector hflat he
    have hlater {init : List Event} {after' : List Event}
        (hrest : groups.flatten = init ++ e :: after') (hbefore : before = es ++ init) :
        ∃ init timeout u, before = init ++ [.awaitsShown selector timeout u] ∧
          (Event.awaitsShown selector timeout u).fault? page = none ∧
          ∃ w ∈ v :: vs, Step.WaitsFor w timeout := by
      obtain ⟨init', timeout, u, rfl, hshown, w, hw, hwaits⟩ := ih _ _ _ _ hrest he
      exact ⟨es ++ init', timeout, u, by rw [hbefore, List.append_assoc], hshown, w,
        List.mem_cons_of_mem v hw, hwaits⟩
    rw [List.flatten_cons] at hflat
    rcases List.append_eq_append_iff.mp hflat with ⟨init, hbefore, hrest⟩ | ⟨tail, hsplit, htail⟩
    · exact hlater hrest hbefore
    · cases tail with
      | nil => exact @hlater [] after htail.symm (by simp [hsplit])
      | cons e' tail =>
        obtain ⟨rfl, -⟩ := List.cons_eq_cons.mp htail
        obtain ⟨init, timeout, u, hbefore, hshown, hwaits⟩ := hes _ _ _ _ hsplit he
        exact ⟨init, timeout, u, hbefore, hshown, v, List.mem_cons_self, hwaits⟩

theorem actsOnceShown_of_course {vs : List Value} {s t : Stage} {groups : List (List Event)}
    (hsteps : List.Forall₂ (Step.ActsOnceShown page) vs groups)
    (hcourse : Course page s groups.flatten t) : ActsOnceShown page vs s t groups where
  course := hcourse
  steps := hsteps
  acted := acted_flatten hsteps
  noted hpage := by
    refine ⟨_, hcourse.calls_eq hpage, fun before call after selector hcalls hacts => ?_⟩
    obtain ⟨before', rest, hflat, rfl, hrest⟩ := List.map_eq_append_iff.mp hcalls
    obtain ⟨e, after', rfl, rfl, rfl⟩ := List.map_eq_cons_iff.mp hrest
    rw [Event.noted_actsOn?] at hacts
    obtain ⟨init, timeout, u, rfl, hshown⟩ := acted_flatten hsteps _ _ _ _ hflat hacts
    exact ⟨init.map Event.noted, timeout, u, List.map_append, hshown⟩

section
variable [Pattern.Host]

theorem sequence_actsOnceShown (v : Value) (s : Stage) :
    ∃ n, (∀ r, (sequence page c o v s).1 = .ok r → n = r.results.length) ∧
      ∃ groups, ActsOnceShown page ((v.steps?.getD []).take n) s (sequence page c o v s).2
        groups := by
  obtain ⟨n, groups, hn, hgroups, hcourse⟩ :=
    @exists_sequence_course page c o _ _ (Step.run_actsOnceShown page c) v s
  exact ⟨n, hn, groups, actsOnceShown_of_course hgroups hcourse⟩

/-- In a run of any sequence, by itself or for an instruction or a test, an element is acted on only
right after a wait for it that has succeeded, however calls fail and whatever they change. As many
steps are performed as there are results, where the run comes to any. -/
theorem acts_once_shown (page : PageHandle) (c : Settings) (o : RunOptions) (s : Stage) :
    (∀ v, ∃ n, (∀ r, (sequence page c o v s).1 = .ok r → n = r.results.length) ∧
      ∃ groups, ActsOnceShown page ((v.steps?.getD []).take n) s (sequence page c o v s).2
        groups) ∧
    (∀ source, ∃ n, (∀ i, (Outcome.runInstruction page (.ok c) source s).1 = .ok i →
        n = i.run.elim 0 (·.results.length)) ∧
      ∃ groups, ActsOnceShown page (source.steps.take n) s
        (Outcome.runInstruction page (.ok c) source s).2 groups) ∧
    ∀ source, ∃ n, (∀ t, (Outcome.runTest page (.ok c) source s).1 = .ok t →
        n = t.run.elim 0 (·.results.length)) ∧
      ∃ groups, ActsOnceShown page (source.steps.take n) s
        (Outcome.runTest page (.ok c) source s).2 groups := by
  have hlog (rs : List LogRecord) :
      ∃ groups, ActsOnceShown page [] s { s with log := s.log ++ rs } groups :=
    ⟨[], actsOnceShown_of_course .nil (Course.refl.log rs)⟩
  refine ⟨fun v => sequence_actsOnceShown v s, fun source => ?_, fun source => ?_⟩
  · exact Outcome.runInstruction_performed
      (Q := fun vs t => ∃ groups, ActsOnceShown page vs s t groups) hlog
      fun o v => sequence_actsOnceShown v s
  · exact Outcome.runTest_performed
      (Q := fun vs t => ∃ groups, ActsOnceShown page vs s t groups) hlog
      fun o v => sequence_actsOnceShown v s

end

open scoped Walkthrough.Pattern.Host

/-- An element is clicked right after it was waited for, as long as a click waits. -/
theorem acts_once_shown_click :
    let click : Value := .object [("action", .text "click"), ("selector", .text "#a")]
    let v : Value := .object [("steps", .list [click])]
    let s := PageContent.opened ⟨"about:blank", "", [("#a", [⟨some "Hello", true⟩])], []⟩
    ∃ timeout u,
      (sequence Stage.handle .standard ⟨true, "Run"⟩ v s).2.calls =
        [(Event.awaitsShown "#a" timeout u).noted,
          ⟨"click", [.text "#a"],
            [("button", .text "left"), ("click_count", .int 1), ("delay", .int 0)]⟩] ∧
      (Event.awaitsShown "#a" timeout u).fault? Stage.handle = none ∧
      Step.WaitsFor click timeout := by
  intro click v s
  obtain ⟨n, -, groups, hgroups⟩ := (acts_once_shown Stage.handle .standard ⟨true, "Run"⟩ s).1 v
  obtain ⟨calls, hcalls, hacted⟩ := hgroups.noted Stage.handle_notes
  have hran : (sequence Stage.handle .standard ⟨true, "Run"⟩ v s).2.calls =
      [⟨"wait_for_selector", [.text "#a"],
        [("timeout", .int 5000), ("visible", .bool true), ("hidden", .null)]⟩,
        ⟨"click", [.text "#a"],
          [("button", .text "left"), ("click_count", .int 1), ("delay", .int 0)]⟩] := rfl
  rw [hran] at hcalls
  obtain ⟨init, timeout, u, hbefore, hshown, w, hw, hwaits⟩ :=
    hacted [_] _ [] "#a" hcalls.symm rfl
  obtain rfl : w = click := List.mem_singleton.mp (List.mem_of_mem_take hw)
  refine ⟨timeout, u, ?_, hshown, hwaits⟩
  cases init with
  | nil => rw [hran, List.head_eq_of_cons_eq hbefore]
  | cons _ init => cases init <;> cases hbefore

end Run

end Walkthrough
