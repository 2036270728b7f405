import Walkthrough.Number.Integer
import Walkthrough.Number.Shortest

/-! Numbers that are either unbounded integers or doubles, compared exactly. -/
namespace Walkthrough

/-- An integer or a double; the two stay apart, so `1` and `1.0` differ. -/
inductive Number
  | int (n : Int)
  | float (x : Float)

namespace Number

instance : Coe Int Number := ⟨.int⟩

def lt : Number → Number → Bool
  | .int a, .int b => a < b
  | .int a, .float b => Binary64.intBelow a b
  | .float a, .int b => Binary64.belowInt a b
  | .float a, .float b => a < b

/-- The smaller of two numbers, the first one unless the second is below it. -/
def least (a b : Number) : Number :=
  if b.lt a then b else a

def toFloat : Number → Float
  | .int n => Binary64.ofInt n
  | .float x => x

def thousandth : Number → Float
  | .int n => Binary64.ofRatio (n < 0) n.natAbs 1000
  | .float x => x / 1000.0

def isOne : Number → Bool
  | .int n => n == 1
  | .float x => x == 1.0

def isNaN : Number → Bool
  | .int _ => false
  | .float x => x.isNaN

def text : Number → String
  | .int n => String.ofList (integerText n)
  | .float x => floatText x

end Number

end Walkthrough
