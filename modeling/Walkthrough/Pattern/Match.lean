import Walkthrough.Pattern.Matcher
import Walkthrough.Pattern.Reader
import Walkthrough.Text.Substring

/-!
Comparing a text with what is expected: as a whole, or by a pattern that may occur anywhere in it.
A text that is no pattern is looked for as it stands.
-/
namespace Walkthrough.Pattern

inductive MatchFault
  | oversizedCount
  | longCount (digits : Nat)
  | clashingFlags
  | tooDeep (report : String)
  deriving DecidableEq, Repr

/-- The report of a comparison without result; what a system reports may be nothing. -/
def MatchFault.message : MatchFault → String
  | .oversizedCount => "the repetition number is too large"
  | .longCount digits => Number.tooLongMessage digits
  | .clashingFlags => "ASCII and UNICODE flags are incompatible"
  | .tooDeep report => if report = "" then "RecursionError" else report

/-- Whether a text is what is expected. -/
def compare [Host] (actual expected : String) (exact : Bool) : Except MatchFault Bool :=
  if exact then .ok (actual == expected)
  else
    match read expected.toList with
    | .ok r => .ok (r.search actual.toList)
    | .error .malformed => .ok (Text.contains actual expected)
    | .error .oversizedCount => .error .oversizedCount
    | .error (.longCount digits) => .error (.longCount digits)
    | .error .clashingFlags => .error .clashingFlags
    | .error (.tooDeep report) => .error (.tooDeep report)

end Walkthrough.Pattern
