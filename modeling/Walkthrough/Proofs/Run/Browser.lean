import Walkthrough.Proofs.Page.Content
import Walkthrough.Proofs.Run.Sleeps
import Walkthrough.Proofs.Step.Course

/-!
A run on a page without rules comes to the same in a browser: the same results but for how a wait
that is over is told, and the same page in the end.
-/
namespace Walkthrough
open Number.Binary64 (IsUnsigned isUnsigned_zero isUnsigned_of_pos)

namespace Stage

/-- Two pages without rules that show the same at the same time. -/
def Alike (s t : Stage) : Prop :=
  ∃ p clock, p.HasTexts ∧ IsUnsigned clock ∧ s.Shows p clock ∧ t.Shows p clock

namespace Alike
variable {s t : Stage}

theorem content_eq (h : s.Alike t) : s.content = t.content := by
  obtain ⟨p, clock, -, -, hs, ht⟩ := h
  rw [hs.content, ht.content]

theorem clock_eq (h : s.Alike t) : s.clock = t.clock := by
  obtain ⟨p, clock, -, -, hs, ht⟩ := h
  rw [hs.clock, ht.clock]

theorem since_eq (h : s.Alike t) {start start' : Float} (hstart : start = start') :
    s.since start = t.since start' := by
  rw [since, since, h.clock_eq, hstart]

theorem log (h : s.Alike t) (rs rs' : List LogRecord) :
    Alike { s with log := s.log ++ rs } { t with log := t.log ++ rs' } := by
  obtain ⟨p, clock, htexts, hclock, hs, ht⟩ := h
  exact ⟨p, clock, htexts, hclock, ⟨hs.content, hs.clock, hs.failures, hs.changes, hs.latency⟩,
    ⟨ht.content, ht.clock, ht.failures, ht.changes, ht.latency⟩⟩

theorem tell (h : s.Alike t) (r r' : LogRecord) : (s.tell r).Alike (t.tell r') := h.log [r] [r']

theorem rest (h : s.Alike t) (seconds : Float) : (s.rest seconds).Alike (t.rest seconds) := by
  obtain ⟨p, clock, htexts, hclock, hs, ht⟩ := h
  refine ⟨p, if 0.0 < seconds then clock + seconds else clock, htexts, ?_,
    ⟨hs.content, ?_, hs.failures, hs.changes, hs.latency⟩,
    ⟨ht.content, ?_, ht.failures, ht.changes, ht.latency⟩⟩
  · split
    next hpos => exact hclock.add (isUnsigned_of_pos hpos)
    · exact hclock
  · rw [Stage.rest, hs.clock]
  · rw [Stage.rest, ht.clock]

end Alike
end Stage

/-- Faults on both pages: the same, or those of a wait for a selector that is over. -/
inductive StepFault.AgreesWith : StepFault → StepFault → Prop
  | same (f : StepFault) : AgreesWith f f
  | expired (selector : String) (timeout : Number) :
    AgreesWith (.page (Stage.expiry selector timeout))
      (.page (Stage.browserExpiry selector timeout))

namespace Stage

theorem text_expiry (selector : String) (timeout : Number) :
    (expiry selector timeout).text = "Waiting for selector `" ++ selector ++ "` failed: timeout " ++
      timeout.text ++ "ms exceeded" :=
  if_neg (Text.append_ne_empty (Text.append_ne_empty (Text.append_ne_empty
    (Text.append_ne_empty (by decide) _) _) _) _)

theorem text_browserExpiry (selector : String) (timeout : Number) :
    (browserExpiry selector timeout).text = "Timeout " ++ timeout.text ++ "ms exceeded." :=
  if_neg (Text.append_ne_empty (Text.append_ne_empty (by decide) _) _)

end Stage

/-- What is done on both pages ends with the same answer, or with faults that agree. -/
inductive EndsAlike {α : Type} :
    EStateM.Result StepFault Stage α → EStateM.Result StepFault Stage α → Prop
  | answered {a : α} {s t : Stage} (h : s.Alike t) : EndsAlike (.ok a s) (.ok a t)
  | failed {f g : StepFault} {s t : Stage} (hf : f.AgreesWith g) (h : s.Alike t) :
    EndsAlike (.error f s) (.error g t)

theorem Plan.run_endsAlike {α : Type} {faults : StepFault → Prop} {rests : Prop} {p : Plan α}
    (hp : p.All (fun op => op.script? ≠ some PageScript.firstMatchVisible) faults rests)
    {s t : Stage} (h : s.Alike t) :
    EndsAlike (p.run Stage.handle s) (p.run Stage.browserPage.handle t) := by
  induction p generalizing s t with
  | done a => exact .answered h
  | fail fault => exact .failed (.same fault) h
  | rest seconds next ih => exact ih hp.2 (h.rest seconds)
  | call op next ih =>
    obtain ⟨p, clock, htexts, hclock, hs, ht⟩ := h
    have hleft := @Stage.handle_realizes p clock hclock _ op
    have hright := Stage.browserPage_handle_realizes hclock htexts op hp.1
    cases hop : p.respond op with
    | answer b p' =>
      rw [hop] at hleft hright
      obtain ⟨s', hs', hshows⟩ := hleft s hs
      obtain ⟨t', ht', hshows'⟩ := hright t ht
      rw [run_call_ok hs', run_call_ok ht']
      exact ih b (hp.2 b) ⟨p', clock, htexts.respond hop, hclock, hshows, hshows'⟩
    | expired selector timeout =>
      rw [hop] at hleft hright
      obtain ⟨s', hs', hshows⟩ := hleft s hs
      obtain ⟨t', ht', hshows'⟩ := hright t ht
      rw [run_call_error hs', run_call_error ht']
      exact .failed (.expired selector timeout) ⟨p, clock, htexts, hclock, hshows, hshows'⟩

/-- A step that evaluates a script of its own, as it is or as an assertion. -/
structure Value.Evaluates (v : Value) (script : String) : Prop where
  kind : v.actionKind? = some .evaluate ∨ v.actionKind? = some .assert
  field : v.field "script" = .text script

theorem Action.evaluates_of_ofValue {v : Value} {a : Action} (h : ofValue v = .ok a)
    {script : String} (hscript : a.script? = some script) : v.Evaluates script := by
  have hkind := actionKind?_of_ofValue h
  obtain ⟨es, rfl, hread⟩ := read_fields_of_ofValue h
  obtain ⟨kind, label, fields⟩ := a
  have hfield {s : String} (hs : (Field.need "script" .text).read es = .ok s) :
      (Value.object es).field "script" = .text s := by
    obtain ⟨w, hw, hconvert⟩ := Field.convert_of_read_need hs
    obtain rfl : (Value.object es).field "script" = w := Except.ok.inj hw
    exact asText_eq_ok (FieldKind.alone_eq_ok hconvert)
  cases kind with
  | evaluate =>
    cases hscript
    exact ⟨.inl hkind, hfield (Record.read_cons hread).1⟩
  | assert =>
    cases hscript
    exact ⟨.inr hkind, hfield (Record.read_cons hread).1⟩
  | _ => cases hscript

/-- Two results of a step that tell the same, but for a wait for a selector that was over in vain.
-/
structure StepResult.AgreesWith (r r' : StepResult) : Prop where
  success : r.success = r'.success
  action : r.action = r'.action
  duration : r.duration = r'.duration
  result : r.result = r'.result
  stepIndex : r.stepIndex = r'.stepIndex
  label : r.label = r'.label
  error : r.error = r'.error ∨ ∃ (selector : String) (timeout : Number),
    r.error = some ("Waiting for selector `" ++ selector ++ "` failed: timeout " ++ timeout.text ++
      "ms exceeded") ∧
    r'.error = some ("Timeout " ++ timeout.text ++ "ms exceeded.")

theorem StepResult.AgreesWith.placed {r r' : StepResult} (h : r.AgreesWith r') (index : Nat)
    (label : String) : (r.placed index label).AgreesWith (r'.placed index label) :=
  ⟨h.success, h.action, h.duration, h.result, rfl, rfl, h.error⟩

namespace Step
variable {c : Settings} {v : Value} {s t : Stage}

theorem attempt_endsAlike [Pattern.Host] (hv : ¬v.Evaluates PageScript.firstMatchVisible)
    (h : s.Alike t) :
    EndsAlike (attempt Stage.handle (.ok c) (Action.ofValue v) s)
      (attempt Stage.browserPage.handle (.ok c) (Action.ofValue v) t) := by
  cases ha : Action.ofValue v with
  | error f => exact .failed (.same _) h
  | ok a =>
    change EndsAlike (perform Stage.handle c a s) (perform Stage.browserPage.handle c a t)
    rw [Plan.perform_eq, Plan.perform_eq]
    refine Plan.run_endsAlike ((Plan.ofAction_all c a).mono (fun op hop hscript => ?_)
      (fun _ hf => hf) id) h
    rcases hop.script _ hscript with hne | hown
    · exact hne rfl
    · exact hv (Action.evaluates_of_ofValue ha hown)

theorem report_agrees {act act' : StepAct Value} (name : String) (hst : s.Alike t)
    (h : EndsAlike (act s) (act' t)) :
    (report name act s).1.AgreesWith (report name act' t).1 ∧
      (report name act s).2.Alike (report name act' t).2 := by
  unfold report
  generalize act s = r at h
  generalize act' t = r' at h
  cases h with
  | answered h =>
    dsimp only
    rw [h.since_eq hst.clock_eq]
    exact ⟨⟨rfl, rfl, rfl, rfl, rfl, rfl, .inl rfl⟩, h⟩
  | failed hf h =>
    dsimp only
    rw [h.since_eq hst.clock_eq]
    refine ⟨⟨rfl, rfl, rfl, rfl, rfl, rfl, ?_⟩, h.tell _ _⟩
    cases hf with
    | same f => exact .inl rfl
    | expired selector timeout =>
      exact .inr ⟨selector, timeout, congrArg some (Stage.text_expiry selector timeout),
        congrArg some (Stage.text_browserExpiry selector timeout)⟩

theorem run_agrees [Pattern.Host] (hv : ¬v.Evaluates PageScript.firstMatchVisible) (h : s.Alike t) :
    (run Stage.handle (.ok c) v s).1.AgreesWith (run Stage.browserPage.handle (.ok c) v t).1 ∧
      (run Stage.handle (.ok c) v s).2.Alike (run Stage.browserPage.handle (.ok c) v t).2 :=
  report_agrees (nameOf v) h (attempt_endsAlike hv h)

end Step

namespace Run
variable [Pattern.Host] {c : Settings} {o : RunOptions} {s t : Stage}

theorem performStep_agrees {v : Value} (hv : ¬v.Evaluates PageScript.firstMatchVisible)
    (index : Nat) (h : s.Alike t) :
    (performStep Stage.handle c o index v s).1.AgreesWith
        (performStep Stage.browserPage.handle c o index v t).1 ∧
      (performStep Stage.handle c o index v s).2.Alike
        (performStep Stage.browserPage.handle c o index v t).2 := by
  have hbegun : (tell o .info (beginning (labelText v index) (targetText v) v) s).Alike
      (tell o .info (beginning (labelText v index) (targetText v) v) t) := h.tell _ _
  obtain ⟨hresult, hpage⟩ := @Step.run_agrees c v _ _ _ hv hbegun
  unfold performStep
  dsimp only
  refine ⟨hresult.placed _ _, ?_⟩
  split <;> split <;> exact hpage.tell _ _

/-- Step by step the pages stay alike, so that both runs stop at the same step or go on. -/
theorem performSteps_agree {vs : List Value}
    (hvs : ∀ v ∈ vs, ¬v.Evaluates PageScript.firstMatchVisible) (index : Nat) (h : s.Alike t) :
    List.Forall₂ StepResult.AgreesWith (performSteps Stage.handle c o index vs s).1
        (performSteps Stage.browserPage.handle c o index vs t).1 ∧
      (performSteps Stage.handle c o index vs s).2.Alike
        (performSteps Stage.browserPage.handle c o index vs t).2 := by
  induction vs generalizing index s t with
  | nil => exact ⟨.nil, h⟩
  | cons v vs ih =>
    obtain ⟨hv, hvs⟩ := List.forall_mem_cons.mp hvs
    obtain ⟨hresult, hpage⟩ := @performStep_agrees _ c o _ _ v hv index h
    rw [performSteps, performSteps]
    dsimp only
    rw [hresult.success]
    split
    · exact ⟨.cons hresult .nil, hpage.tell _ _⟩
    · obtain ⟨hresults, hend⟩ := ih hvs (index + 1) hpage
      exact ⟨.cons hresult hresults, hend⟩

end Run

/-- Results of a run that tell the same, step by step and as a whole, and of which the assertions
have the same summary. -/
structure RunResult.AgreesWith (r r' : RunResult) : Prop where
  results : List.Forall₂ StepResult.AgreesWith r.results r'.results
  success : r.success = r'.success
  totalSteps : r.totalSteps = r'.totalSteps
  completedSteps : r.completedSteps = r'.completedSteps
  totalDuration : r.totalDuration = r'.totalDuration
  error : r.error = r'.error
  summary : AssertionSummary.ofResults r.results = .ofResults r'.results

namespace RunResult

/-- What is the same of results that agree is the same of all of them. -/
theorem map_eq_of_agrees {β : Type} {f : StepResult → β}
    (hf : ∀ r r' : StepResult, r.AgreesWith r' → f r = f r') {rs rs' : List StepResult}
    (h : List.Forall₂ StepResult.AgreesWith rs rs') : rs.map f = rs'.map f := by
  induction h with
  | nil => rfl
  | cons hr _ ih => rw [List.map_cons, List.map_cons, hf _ _ hr, ih]

theorem all_success_of_agrees {rs rs' : List StepResult}
    (h : List.Forall₂ StepResult.AgreesWith rs rs') :
    rs.all (·.success) = rs'.all (·.success) := by
  have hall (xs : List StepResult) : xs.all (·.success) = (xs.map (·.success)).all id := by
    rw [List.all_map]
    rfl
  rw [hall, hall, map_eq_of_agrees (fun _ _ hr => hr.success) h]

theorem agrees_ofSteps (total : Nat) {rs rs' : List StepResult}
    (h : List.Forall₂ StepResult.AgreesWith rs rs') :
    (ofSteps total (rs.all (·.success)) rs).AgreesWith
      (ofSteps total (rs'.all (·.success)) rs') where
  results := h
  success := all_success_of_agrees h
  totalSteps := rfl
  completedSteps := h.length_eq
  totalDuration := by
    have hsum (xs : List StepResult) : xs.foldl (fun sum r => sum + r.duration) 0 =
        (xs.map (·.duration)).foldl (· + ·) 0 := List.foldl_map.symm
    change rs.foldl _ 0 = rs'.foldl _ 0
    rw [hsum, hsum, map_eq_of_agrees (fun _ _ hr => hr.duration) h]
  error := rfl
  summary := by
    let record (r : StepResult) := AssertionRecord.of? r.action r.result r.label
    have hrecords (xs : List StepResult) :
        AssertionSummary.ofResults xs = ⟨(xs.map record).filterMap id⟩ := by
      rw [List.filterMap_map]
      rfl
    change AssertionSummary.ofResults rs = AssertionSummary.ofResults rs'
    rw [hrecords, hrecords, map_eq_of_agrees (fun r r' hr => ?_) h]
    change AssertionRecord.of? r.action r.result r.label = _
    rw [hr.action, hr.result, hr.label]

end RunResult

namespace Run

/-- Both runs come to results that agree, or both are broken off for the same. -/
inductive ComeToTheSame : Except Unwritable RunResult → Except Unwritable RunResult → Prop
  | result {r r' : RunResult} (h : r.AgreesWith r') : ComeToTheSame (.ok r) (.ok r')
  | brokenOff (f : Unwritable) : ComeToTheSame (.error f) (.error f)

theorem concluded_agrees (o : RunOptions) (vs : List Value) {rs rs' : List StepResult}
    (h : List.Forall₂ StepResult.AgreesWith rs rs') :
    ComeToTheSame (concluded o vs rs) (concluded o vs rs') := by
  have hbroken : breakOff? o vs rs = breakOff? o vs rs' := by
    unfold breakOff?
    rw [← List.not_all_eq_any_not, ← List.not_all_eq_any_not, RunResult.all_success_of_agrees h]
  unfold concluded
  rw [← hbroken]
  cases breakOff? o vs rs with
  | some f => exact .brokenOff f
  | none => exact .result (RunResult.agrees_ofSteps vs.length h)

section
variable [Pattern.Host] {c : Settings} {o : RunOptions}

theorem accepted_agrees {vs : List Value}
    (hvs : ∀ v ∈ vs, ¬v.Evaluates PageScript.firstMatchVisible) {s t : Stage} (h : s.Alike t) :
    ComeToTheSame (accepted Stage.handle c o vs s).1
        (accepted Stage.browserPage.handle c o vs t).1 ∧
      (accepted Stage.handle c o vs s).2.Alike (accepted Stage.browserPage.handle c o vs t).2 := by
  have hbegun : (begun o vs s).Alike (begun o vs t) := h.tell _ _
  obtain ⟨hresults, hpage⟩ := @performSteps_agree _ c o _ _ (vs.takeWhile Value.isAnnounced)
    (fun v hv => hvs v (List.takeWhile_subset _ hv)) 0 hbegun
  rw [accepted_eq, accepted_eq]
  exact ⟨concluded_agrees o vs hresults, hpage⟩

theorem sequence_agrees {v : Value}
    (hv : ∀ w ∈ v.steps?.getD [], ¬w.Evaluates PageScript.firstMatchVisible) {s t : Stage}
    (h : s.Alike t) :
    ComeToTheSame (sequence Stage.handle c o v s).1 (sequence Stage.browserPage.handle c o v t).1 ∧
      (sequence Stage.handle c o v s).2.Alike (sequence Stage.browserPage.handle c o v t).2 := by
  have hchecked := h.log (validationRecords v) (validationRecords v)
  unfold sequence
  cases validateSequence v with
  | error f => exact ⟨.brokenOff f, hchecked⟩
  | ok verdict =>
    dsimp only
    split
    · exact accepted_agrees hv hchecked
    · exact ⟨.result ⟨.nil, rfl, rfl, rfl, rfl, rfl, rfl⟩, hchecked.tell _ _⟩

/-- On a page without rules, all elements of which have a text, a sequence comes to the same whether
the page is walked through as it is or as a page of a browser, unless a step asks with the very
script that tells whether an element is shown. -/
theorem sequence_browser_agrees {p : PageContent} (hp : p.HasTexts) {v : Value}
    (hv : ∀ w ∈ v.steps?.getD [], ¬w.Evaluates PageScript.firstMatchVisible) (c : Settings)
    (o : RunOptions) :
    let r := sequence Stage.handle c o v p.opened
    let r' := sequence Stage.browserPage.handle c o v p.opened
    ComeToTheSame r.1 r'.1 ∧ r.2.content = r'.2.content ∧ r.2.clock = r'.2.clock := by
  have hshows : p.opened.Shows p 0.0 := ⟨rfl, rfl, rfl, rfl, rfl⟩
  obtain ⟨hresult, hpage⟩ := @sequence_agrees _ c o v hv _ _
    ⟨p, 0.0, hp, isUnsigned_zero, hshows, hshows⟩
  exact ⟨hresult, hpage.content_eq, hpage.clock_eq⟩

end

open scoped Walkthrough.Pattern.Host

/-- An element is there, and a click waits for another in vain: only what is told about that
differs. -/
theorem sequence_browser_agrees_expired :
    let p : PageContent := ⟨"about:blank", "", [("#a", [⟨some "Hello", true⟩])], []⟩
    let found : Value := .object [("action", .text "assertSelector"), ("selector", .text "#a"),
      ("visible", .bool true)]
    let click : Value := .object [("action", .text "click"), ("selector", .text "#b")]
    let v : Value := .object [("steps", .list [found, click])]
    p.HasTexts ∧ (∀ w ∈ v.steps?.getD [], ¬w.Evaluates PageScript.firstMatchVisible) ∧
      ∃ r r', (sequence Stage.handle .standard ⟨true, "Run"⟩ v p.opened).1 = .ok r ∧
        (sequence Stage.browserPage.handle .standard ⟨true, "Run"⟩ v p.opened).1 = .ok r' ∧
        r.AgreesWith r' ∧
        r.results.map (·.error) =
          [none, some "Waiting for selector `#b` failed: timeout 5000ms exceeded"] ∧
        r'.results.map (·.error) = [none, some "Timeout 5000ms exceeded."] := by
  intro p found click v
  have hp : p.HasTexts := by
    intro entry hentry e he
    obtain rfl := List.mem_singleton.mp hentry
    obtain rfl := List.mem_singleton.mp he
    exact Option.some_ne_none _
  have hv : ∀ w ∈ v.steps?.getD [], ¬w.Evaluates PageScript.firstMatchVisible := by
    intro w hw hevaluates
    have hkind := hevaluates.kind
    rcases List.mem_cons.mp hw with rfl | hw
    · revert hkind
      decide
    · obtain rfl := List.mem_singleton.mp hw
      revert hkind
      decide
  have hsame := (sequence_browser_agrees hp hv .standard ⟨true, "Run"⟩).1
  refine ⟨hp, hv, _, _, rfl, rfl, ?_, ?_, ?_⟩
  · cases hsame with
    | result h => exact h
  · decide +kernel
  · decide +kernel

end Run

end Walkthrough
