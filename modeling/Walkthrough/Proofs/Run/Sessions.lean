import Walkthrough.Outcome
import Walkthrough.Proofs.Page.Session
import Walkthrough.Proofs.Run.Course
import Walkthrough.Proofs.Step.Containment

/-!
No session is left open in a run on a page of a browser: after one that was opened come its
commands, and then it is closed before any other call is made.
-/
namespace Walkthrough

/-- What happens on a page of a browser leaves no session open. -/
theorem Course.exists_trace {b : BrowserPage} {s t : Stage} {es : List Event}
    (h : Course b.handle s es t) : ∃ ds, Trace b s ds t ∧ ClosesSessions ds := by
  induction h with
  | refl => exact ⟨[], .refl, .of_forall (by simp)⟩
  | @call _ t _ _ op ih =>
    obtain ⟨ds, hds, hclosed⟩ := ih
    obtain ⟨ds', hds', hclosed'⟩ := b.handle_keepsNoSession op t
    exact ⟨ds ++ ds', hds.trans hds', hclosed.append hclosed'⟩
  | rest _ seconds ih =>
    obtain ⟨ds, hds, hclosed⟩ := ih
    exact ⟨_, hds.rest seconds, hclosed.append (.of_forall (by simp))⟩
  | log _ rs ih =>
    obtain ⟨ds, hds, hclosed⟩ := ih
    exact ⟨ds, hds.log rs, hclosed⟩

theorem Run.exists_course [Pattern.Host] (page : PageHandle) (c : Settings) (o : RunOptions)
    (v : Value) (s : Stage) : ∃ es, Course page s es (sequence page c o v s).2 := by
  obtain ⟨n, groups, -, -, h⟩ := @exists_sequence_course page c o (fun _ _ => True) _
    (fun v s => Step.exists_course trivial fun _ _ => trivial) v s
  exact ⟨_, h⟩

namespace Outcome
variable [Pattern.Host] (page : PageHandle) (settings : Except SettingsFault Settings)
  (source : Source) (s : Stage)

theorem exists_course_runInstruction :
    ∃ es, Course page s es (runInstruction page settings source s).2 := by
  unfold runInstruction
  cases source.read with
  | error e => exact ⟨[], Course.refl.tell _⟩
  | ok v =>
    cases settings with
    | error f => exact ⟨[], .refl⟩
    | ok c => exact Run.exists_course page c _ v s

theorem exists_course_runTest : ∃ es, Course page s es (runTest page settings source s).2 := by
  unfold runTest
  cases source.read with
  | error e => exact ⟨[], Course.refl.tell _⟩
  | ok v =>
    cases settings with
    | error f => exact ⟨[], .refl⟩
    | ok c => exact Run.exists_course page c _ v s

end Outcome

namespace Run

/-- Whatever the calls on a page of a browser come to, setting the viewport makes them in a fixed
order, and a session that was opened in it is closed last; so no run leaves one open. What a page
that follows rules has noted are the calls and rests of the run. -/
theorem sessions_closed [Pattern.Host] (b : BrowserPage) (s : Stage) :
    (∀ v : Viewport, ∃ es, Trace b s es (stageOf (v.set b s)) ∧ v.Sets es (faultOf? (v.set b s)) ∧
      (faultOf? (v.set b s) ≠ none ↔
        ∃ c f, .call c (some f) ∈ es ∧ (c = .openSession → f.kind ≠ .browser))) ∧
    (∀ c o v, ∃ es, Trace b s es (sequence b.handle c o v s).2 ∧ ClosesSessions es) ∧
    (∀ settings source,
      (∃ es, Trace b s es (Outcome.runInstruction b.handle settings source s).2 ∧
        ClosesSessions es) ∧
      ∃ es, Trace b s es (Outcome.runTest b.handle settings source s).2 ∧ ClosesSessions es) ∧
    ∀ es t, Trace Stage.browserPage s es t →
      t.calls = s.calls ++ es.flatMap BrowserEvent.noted := by
  refine ⟨fun v => ?_, fun c o v => ?_, fun settings source => ⟨?_, ?_⟩, fun _ _ => Trace.calls_eq⟩
  · obtain ⟨es, hes, hsets⟩ := v.exists_trace b s
    exact ⟨es, hes, hsets, hsets.ne_none_iff⟩
  · obtain ⟨es, hes⟩ := exists_course b.handle c o v s
    exact hes.exists_trace
  · obtain ⟨es, hes⟩ := Outcome.exists_course_runInstruction b.handle settings source s
    exact hes.exists_trace
  · obtain ⟨es, hes⟩ := Outcome.exists_course_runTest b.handle settings source s
    exact hes.exists_trace

end Run

end Walkthrough
