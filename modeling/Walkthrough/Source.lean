import Walkthrough.Json.Reader
import Walkthrough.Text.Utf8

/-! Where a sequence comes from: a value, a JSON text, or the octets of one. -/
namespace Walkthrough

inductive Source
  | value (v : Value)
  | octets (bs : List UInt8)

inductive SourceFault
  | encoding (fault : Text.Utf8.Fault)
  | json (text : List Char) (fault : Json.Fault)
  deriving DecidableEq, Repr

/-- The wording of an encoding fault: the octets and their positions, and the reason. -/
def Text.Utf8.Fault.message (f : Text.Utf8.Fault) : String :=
  let reason :=
    match f.reason with
    | .badStart => "invalid start byte"
    | .badContinuation => "invalid continuation byte"
    | .tooShort => "unexpected end of data"
  let place :=
    if f.count = 1 then
      s!"byte 0x{String.ofList (Text.hex 2 f.octet.toNat)} in position {f.start}"
    else s!"bytes in position {f.start}-{f.start + f.count - 1}"
  s!"'utf-8' codec can't decode {place}: {reason}"

def SourceFault.message (f : SourceFault) : String :=
  "Failed to parse action sequence: " ++
    match f with
    | .encoding e => e.message
    | .json text e => e.message text

def readText (cs : List Char) : Except SourceFault Value :=
  (Json.read cs).mapError (.json cs)

/-- Reads a source: octets and texts are decoded, any other value is taken as it is. -/
def Source.read : Source → Except SourceFault Value
  | .value (.text s) => readText s.toList
  | .value v => .ok v
  | .octets bs =>
    match Text.Utf8.decode bs with
    | .error e => .error (.encoding e)
    | .ok cs => readText cs

end Walkthrough
