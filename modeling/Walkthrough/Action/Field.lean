import Walkthrough.Number.Lenient
import Walkthrough.Value.Display

/-!
The fields of actions: what each kind of field holds, how a value becomes it, and why one may not.
A value is first prepared by its kind, which lets some through as others, and then converted.
-/
namespace Walkthrough

/-- What may be selected: one option or several. -/
inductive Choice
  | one (s : String)
  | many (ss : List String)
  deriving DecidableEq, Repr

/-- The options chosen, as a list. -/
def Choice.values : Choice → List String
  | .one s => [s]
  | .many ss => ss

/-- How a page function is polled: every so many milliseconds, or in a named mode. -/
inductive Polling
  | every (ms : Float)
  | mode (name : String)

inductive FieldKind
  /-- A text. -/
  | text
  /-- A text, or a number written out. -/
  | scalar
  /-- A number. -/
  | number
  /-- A positive number; anything else counts as not given. -/
  | limit
  /-- A number that is not negative; anything else counts as zero. -/
  | pause
  /-- An integer. -/
  | whole
  /-- A boolean. -/
  | flag
  /-- A text or a list of texts. -/
  | choice
  /-- A number or a text. -/
  | polling
  deriving DecidableEq, Repr

/-- What a field of the kind holds. -/
abbrev FieldKind.Carrier : FieldKind → Type
  | .text | .scalar => String
  | .number | .limit | .pause => Float
  | .whole => Int
  | .flag => Bool
  | .choice => Choice
  | .polling => Polling

inductive Refusal
  | missing
  | notText
  | notNumber
  | unreadableNumber
  | notWhole
  | fractional
  | unreadableWhole
  | oversizedWhole
  | notFinite
  | notFlag
  | unclearFlag
  | notList
  /-- The value cannot be written out as the text that the field takes it for. -/
  | unwritable (fault : Unwritable)
  deriving DecidableEq, Repr

def Refusal.message : Refusal → String
  | .missing => "Field required"
  | .notText => "Input should be a valid string"
  | .notNumber => "Input should be a valid number"
  | .unreadableNumber => "Input should be a valid number, unable to parse string as a number"
  | .notWhole => "Input should be a valid integer"
  | .fractional => "Input should be a valid integer, got a number with a fractional part"
  | .unreadableWhole => "Input should be a valid integer, unable to parse string as an integer"
  | .oversizedWhole => "Unable to parse input string as an integer, exceeded maximum size"
  | .notFinite => "Input should be a finite number"
  | .notFlag => "Input should be a valid boolean"
  | .unclearFlag => "Input should be a valid boolean, unable to interpret input"
  | .notList => "Input should be a valid list"
  | .unwritable f => "Value error, " ++ f.message

/-- A refusal and where it arose: the key, and the alternative when there are several. -/
structure FieldFault where
  path : List String
  refusal : Refusal
  deriving DecidableEq, Repr

def FieldFault.text (f : FieldFault) : String :=
  (if f.path.isEmpty then "action" else ".".intercalate f.path) ++ ": " ++ f.refusal.message

def boolFloat (b : Bool) : Float := if b then 1.0 else 0.0

/-- The bound of the integers of 64 bits. -/
def wholeBound : Int := 9223372036854775808

/-- The integer that a double is, if it lies strictly between the bounds of 64 bits. -/
def wholeOfFloat (x : Float) : Except Refusal Int :=
  if !Number.Binary64.isFinite x then .error .notFinite
  else if !Number.Binary64.isIntegral x then .error .fractional
  else
    let n := Number.Binary64.truncate x
    if -wholeBound < n ∧ n < wholeBound then .ok n else .error .oversizedWhole

def flagOfInt (n : Int) : Except Refusal Bool :=
  if n = 0 then .ok false else if n = 1 then .ok true else .error .unclearFlag

/-- The words for the booleans, in any case. -/
def flagOfText (s : String) : Except Refusal Bool :=
  let word := Number.lowerWord s.toList
  if ["0", "f", "n", "no", "off", "false"].contains word then .ok false
  else if ["1", "t", "y", "on", "yes", "true"].contains word then .ok true
  else .error .unclearFlag

def asText : Value → Except Refusal String
  | .text s => .ok s
  | _ => .error .notText

/-- A value as a double; an integer must be in range. -/
def asFloat : Value → Except Refusal Float
  | .float x => .ok x
  | .int n =>
    let x := Number.Binary64.ofInt n
    if Number.Binary64.isFinite x then .ok x else .error .notNumber
  | .bool b => .ok (boolFloat b)
  | .text s =>
    match Number.lenientFloat? s with
    | some x => .ok x
    | none => .error .unreadableNumber
  | _ => .error .notNumber

def asWhole : Value → Except Refusal Int
  | .int n => .ok n
  | .bool b => .ok (if b then 1 else 0)
  | .float x => wholeOfFloat x
  | .text s =>
    match Number.lenientInteger s with
    | .ok n => .ok n
    | .error (.tooLong _) => .error .oversizedWhole
    | .error .malformed => .error .unreadableWhole
  | _ => .error .notWhole

def asFlag : Value → Except Refusal Bool
  | .bool b => .ok b
  | .text s => flagOfText s
  | .int n => if -wholeBound ≤ n ∧ n < wholeBound then flagOfInt n else .error .notFlag
  | .float x =>
    match wholeOfFloat x with
    | .ok n => flagOfInt n
    | .error _ => .error .notFlag
  | _ => .error .notFlag

/-- The faults of a value that fits none of two alternatives. -/
def neither (first : String) (r : Refusal) (second : String) (r' : Refusal) : List FieldFault :=
  [⟨[first], r⟩, ⟨[second], r'⟩]

/-- A value as options to select. -/
def asChoice : Value → Except (List FieldFault) Choice
  | .text s => .ok (.one s)
  | .list items => .ok (.many (items.map Value.display))
  | _ => .error (neither "str" .notText "list[str]" .notList)

/-- A value as a way of polling: a text is a mode, whatever it reads. -/
def asPolling : Value → Except (List FieldFault) Polling
  | .text s => .ok (.mode s)
  | v =>
    match asFloat v with
    | .ok x => .ok (.every x)
    | .error r => .error (neither "float" r "str" .notText)

/-- A value as the text that it is written out as. -/
def asWritten (v : Value) : Except Refusal String :=
  v.write.mapError .unwritable

def writtenOut (v : Value) : Except Refusal Value :=
  match v.number? with
  | some _ => (asWritten v).map .text
  | none => .ok v

/-- The items of a list written out as texts, up to the first that cannot be. -/
def allWritten : List Value → Except Refusal (List String)
  | [] => .ok []
  | v :: vs =>
    match asWritten v, allWritten vs with
    | .ok s, .ok ss => .ok (s :: ss)
    | .error r, _ | .ok _, .error r => .error r

namespace FieldKind

/-- What a kind of field makes of a value before it is converted. -/
def prepare (k : FieldKind) (v : Value) : Except Refusal Value :=
  match k with
  | .scalar => writtenOut v
  | .limit =>
    match v.number? with
    | some n => .ok (if (Number.int 0).lt n || n.isNaN then v else .null)
    | none => .ok .null
  | .pause =>
    match v.number? with
    | some n => .ok (if n.lt (.int 0) then .int 0 else v)
    | none => .ok (.int 0)
  | .choice =>
    match v with
    | .list items => (allWritten items).map fun ss => .list (ss.map .text)
    | _ => writtenOut v
  | _ => .ok v

def alone {α : Type} : Except Refusal α → Except (List FieldFault) α
  | .ok a => .ok a
  | .error r => .error [⟨[], r⟩]

def convert : (k : FieldKind) → Value → Except (List FieldFault) k.Carrier
  | .text, v | .scalar, v => alone (asText v)
  | .number, v | .limit, v | .pause, v => alone (asFloat v)
  | .whole, v => alone (asWhole v)
  | .flag, v => alone (asFlag v)
  | .choice, v => asChoice v
  | .polling, v => asPolling v

/-- The value that stands for what a field holds. -/
def toValue : (k : FieldKind) → k.Carrier → Value
  | .text, s | .scalar, s => .text s
  | .number, x | .limit, x | .pause, x => .float x
  | .whole, n => .int n
  | .flag, b => .bool b
  | .choice, .one s => .text s
  | .choice, .many ss => .list (ss.map .text)
  | .polling, .every x => .float x
  | .polling, .mode s => .text s

end FieldKind

/-- A field: its plain name, the key it is written under, its kind and whether it must be there. -/
structure Field where
  name : String
  wire : String
  kind : FieldKind
  required : Bool
  deriving DecidableEq, Repr

namespace Field

/-- What a field holds; nothing is allowed for one that need not be there. -/
abbrev Carrier (f : Field) : Type :=
  match f.required with
  | true => f.kind.Carrier
  | false => Option f.kind.Carrier

/-- The key that gives a field its value, and the value: its own key first, then its plain name. -/
def find? (f : Field) (es : Entries) : Option (String × Value) :=
  match Entries.get? es f.wire with
  | some v => some (f.wire, v)
  | none => (Entries.get? es f.name).map (f.name, ·)

def under {α : Type} (key : String) : Except (List FieldFault) α → Except (List FieldFault) α
  | .ok a => .ok a
  | .error fs => .error (fs.map fun f => { f with path := key :: f.path })

/-- What a field that must be there holds in an object. -/
def readRequired (f : Field) (es : Entries) : Except (List FieldFault) f.kind.Carrier :=
  match f.find? es with
  | none => .error [⟨[f.wire], .missing⟩]
  | some (key, v) =>
    match f.kind.prepare v with
    | .error r => .error [⟨[key], r⟩]
    | .ok v => under key (f.kind.convert v)

/-- What a field that need not be there holds in an object; null counts as absent. -/
def readOptional (f : Field) (es : Entries) : Except (List FieldFault) (Option f.kind.Carrier) :=
  match f.find? es with
  | none => .ok none
  | some (key, v) =>
    match f.kind.prepare v with
    | .error r => .error [⟨[key], r⟩]
    | .ok .null => .ok none
    | .ok v => (under key (f.kind.convert v)).map some

def read (f : Field) (es : Entries) : Except (List FieldFault) f.Carrier :=
  match f with
  | ⟨name, wire, kind, true⟩ => readRequired ⟨name, wire, kind, true⟩ es
  | ⟨name, wire, kind, false⟩ => readOptional ⟨name, wire, kind, false⟩ es

/-- The value that stands for what a field holds, null for nothing. -/
def toValue (f : Field) (c : f.Carrier) : Value :=
  match f, c with
  | ⟨_, _, kind, true⟩, c => kind.toValue c
  | ⟨_, _, _, false⟩, none => .null
  | ⟨_, _, kind, false⟩, some c => kind.toValue c

end Field

/-- What the fields of a list hold, one after the other. -/
abbrev Record : List Field → Type
  | [] => Unit
  | f :: fs => f.Carrier × Record fs

/-- Two readings side by side; the faults of both are told. -/
def both {α β : Type} : Except (List FieldFault) α → Except (List FieldFault) β →
    Except (List FieldFault) (α × β)
  | .ok a, .ok b => .ok (a, b)
  | .ok _, .error e => .error e
  | .error e, .ok _ => .error e
  | .error e, .error e' => .error (e ++ e')

namespace Record

/-- Reads all fields; the faults of all of them are told. -/
def read : (fs : List Field) → Entries → Except (List FieldFault) (Record fs)
  | [], _ => .ok ()
  | f :: fs, es => both (f.read es) (read fs es)

/-- The values of the fields, each under the key that `key` picks. -/
def values (key : Field → String) : (fs : List Field) → Record fs → Entries
  | [], _ => []
  | f :: fs, (c, r) => (key f, f.toValue c) :: values key fs r

end Record

end Walkthrough
