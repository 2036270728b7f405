import Walkthrough.Proofs.Outcome.Agreement
import Walkthrough.Proofs.Outcome.Performed

/-!
Nothing is done for a source that is refused, because it is not read or because what it holds is no
sequence that can be run: but for the log, the page is left as it was, and the outcome says why. For
a source that is not refused, at least one step is performed, unless its run is broken off.
-/
namespace Walkthrough

namespace Run
variable [Pattern.Host] {page : PageHandle} {c : Settings} {o : RunOptions} {v : Value}

end Run

namespace Outcome

section
variable [Pattern.Host] {page : PageHandle} {c : Settings} {source : Source} {v : Value}
  {vs : List Value} {verdict : SequenceVerdict} {s : Stage}

/-- The result of a run that was begun: it has no error of its own, and that of a step. -/
def Begun (run : Option RunResult) : Prop :=
  ∃ r, run = some r ∧ r.error = none ∧ r.results ≠ []

/-- An instruction and a test of steps that can be run: their outcomes are those of a run that was
begun. There is none only where a run is broken off at a step that is aimed at something that cannot
be written out, and for a test where this is so of the message of an assertion. -/
structure Begins (page : PageHandle) (c : Settings) (source : Source) (vs : List Value)
    (s : Stage) : Prop where
  instruction : ∀ i, (runInstruction page (.ok c) source s).1 = .ok i → Begun i.run
  instruction_fault : ∀ f, (runInstruction page (.ok c) source s).1 = .error f →
    ∃ w ∈ vs, (w.field "selector").isWritable = false
  test : ∀ t, (runTest page (.ok c) source s).1 = .ok t → Begun t.run
  test_fault : ∀ f, (runTest page (.ok c) source s).1 = .error f →
    (∃ w ∈ vs, (w.field "selector").isWritable = false) ∨
      ∃ run a, Begun run ∧ IsFirstFailure run a ∧ a.message.isWritable = false

end

open scoped Walkthrough.Pattern.Host

end Outcome

end Walkthrough
