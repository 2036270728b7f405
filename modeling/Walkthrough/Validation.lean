import Walkthrough.Log
import Walkthrough.Schema

/-!
Checking actions and sequences of them against the schemas, without a page. What keeps a step from
being performed is an error; what does not is a warning. A check is broken off where the title of a
step cannot be written out.
-/
namespace Walkthrough

inductive ActionError
  | notAnObject
  | noName
  | unknownType (name : String)
  | missingFields (name : String) (fields : List String)
  deriving DecidableEq, Repr

def ActionError.message : ActionError → String
  | .notAnObject => "Action must be an object"
  | .noName => "Action must have an \"action\" field"
  | .unknownType name =>
    "Unknown action type \"" ++ name ++ "\". Known actions: " ++ ", ".intercalate ActionKind.names
  | .missingFields name fields =>
    "Action \"" ++ name ++ "\" requires field(s): " ++ ", ".intercalate fields

inductive ActionWarning
  | unknownFields (name : String) (fields : List String)
  | oddTimeout
  | oddPause
  deriving DecidableEq, Repr

def ActionWarning.message : ActionWarning → String
  | .unknownFields name fields =>
    "Unknown field(s) for \"" ++ name ++ "\": " ++ ", ".intercalate fields
  | .oddTimeout => "timeout should be a positive number"
  | .oddPause => "ms should be a non-negative number"

def Value.isPositive (v : Value) : Bool :=
  match v.number? with
  | some n => (Number.int 0).lt n
  | none => false

def Value.isNonNegative (v : Value) : Bool :=
  match v.number? with
  | some n => !n.isNaN && !n.lt (.int 0)
  | none => false

/-- The required keys that an object lacks, or has with null or the empty text. -/
def missingFields (s : Schema) (es : Entries) : List String :=
  s.required.filter fun key => (Entries.getD es key).isBlank

def unknownFields (s : Schema) (es : Entries) : List String :=
  (Entries.keys es).filter fun key => !s.knownFields.contains key

/-- Whether a key is there with a value that does not pass a test. -/
def presentAndNot (es : Entries) (key : String) (test : Value → Bool) : Bool :=
  match Entries.get? es key with
  | some v => !test v
  | none => false

/-- What is odd about an object that names a known type of action and has its required keys. -/
def oddities (kind : ActionKind) (es : Entries) : List ActionWarning :=
  let unknown := unknownFields kind.schema es
  (if unknown.isEmpty then [] else [.unknownFields kind.name unknown]) ++
    (if presentAndNot es "timeout" Value.isPositive then [.oddTimeout] else []) ++
    (if presentAndNot es "ms" Value.isNonNegative then [.oddPause] else [])

/-- Checks an action: its warnings, or the error for which it is rejected. -/
def checkAction (v : Value) : Except ActionError (List ActionWarning) :=
  match v with
  | .object es =>
    match v.field "action" with
    | .text name =>
      if name = "" then .error .noName
      else
        match ActionKind.ofName? name with
        | none => .error (.unknownType name)
        | some kind =>
          let missing := missingFields kind.schema es
          if missing.isEmpty then .ok (oddities kind es) else .error (.missingFields name missing)
    | _ => .error .noName
  | _ => .error .notAnObject

/-- The name of a step without a label, counted from one. -/
def stepNumber (index : Int) : String :=
  "Step " ++ String.ofList (Number.integerText (index + 1))

/-- How a step is called in messages: its label in quotes, or else by its number. -/
def stepTitle (v : Value) (number : Except Unwritable String) : Except Unwritable String :=
  let label := v.field "label"
  if label.truthy then label.write.map fun s => "\"" ++ s ++ "\"" else number

structure ActionVerdict where
  error : Option String
  warnings : List String
  deriving DecidableEq, Repr

def ActionVerdict.valid (r : ActionVerdict) : Bool := r.error.isNone

/-- The object that stands for a verdict; what there is none of is left out. -/
def ActionVerdict.toEntries (r : ActionVerdict) : Entries :=
  ("valid", .bool r.valid) ::
    ((match r.error with
      | some e => [("error", .text e)]
      | none => []) ++
    if r.warnings.isEmpty then [] else [("warnings", .list (r.warnings.map .text))])

/-- The verdict on the action of a step that is called by a title. -/
def ActionVerdict.titled (title : String) (v : Value) : ActionVerdict :=
  match checkAction v with
  | .ok warnings => ⟨none, warnings.map fun w => title ++ ": " ++ w.message⟩
  | .error e => ⟨some (title ++ ": " ++ e.message), []⟩

/-- Checks an action as that of the step at an index, which may be any integer. -/
def validateAction (v : Value) (index : Int) : Except Unwritable ActionVerdict :=
  let number :=
    if (Value.int (index + 1)).isWritable then .ok (stepNumber index) else .error .tooGreat
  (stepTitle v number).map (ActionVerdict.titled · v)

/-- Checks the action of the step at a place in a sequence. Places have few digits. -/
def validateStep (v : Value) (index : Nat) : Except Unwritable ActionVerdict :=
  (stepTitle v (.ok (stepNumber index))).map (ActionVerdict.titled · v)

structure SequenceVerdict where
  errors : List String
  warnings : List String
  deriving DecidableEq, Repr

def SequenceVerdict.valid (r : SequenceVerdict) : Bool := r.errors.isEmpty

def SequenceVerdict.toEntries (r : SequenceVerdict) : Entries :=
  [("valid", .bool r.valid), ("errors", .list (r.errors.map .text)),
    ("warnings", .list (r.warnings.map .text))]

inductive SequenceError
  | notAnObject
  | noSteps
  | empty
  deriving DecidableEq, Repr

def SequenceError.message : SequenceError → String
  | .notAnObject => "Action sequence must be an object"
  | .noSteps => "Action sequence must have a \"steps\" array"
  | .empty => "Action sequence has no steps"

def Value.steps? (v : Value) : Option (List Value) :=
  match v.field "steps" with
  | .list steps => some steps
  | _ => none

/-- The steps of a value that has the shape of a sequence; there is at least one. -/
def sequenceSteps (v : Value) : Except SequenceError (List Value) :=
  match v with
  | .object _ =>
    match v.steps? with
    | none => .error .noSteps
    | some [] => .error .empty
    | some steps => .ok steps
  | _ => .error .notAnObject

/-- The verdicts on steps, the first of them having the given index. -/
def validateSteps (index : Nat) : List Value → Except Unwritable (List ActionVerdict)
  | [] => .ok []
  | v :: vs => do
    let r ← validateStep v index
    let rs ← validateSteps (index + 1) vs
    return r :: rs

/-- The verdict on a sequence whose steps got the given verdicts. -/
def SequenceVerdict.ofSteps (rs : List ActionVerdict) : SequenceVerdict :=
  ⟨rs.filterMap (·.error), rs.flatMap (·.warnings)⟩

def validateSequence (v : Value) : Except Unwritable SequenceVerdict :=
  match sequenceSteps v with
  | .error e => .ok ⟨[e.message], []⟩
  | .ok steps => (validateSteps 0 steps).map .ofSteps

/-- What is logged about the verdict on steps: a count, and each message. -/
def SequenceVerdict.records (r : SequenceVerdict) : List LogRecord :=
  if r.errors.isEmpty && r.warnings.isEmpty then []
  else
    ⟨.info, .validation,
        s!"Validation found {r.errors.length} error(s) and {r.warnings.length} warning(s)"⟩ ::
      (r.errors.map fun m => ⟨.error, .validation, "  ERROR: " ++ m⟩) ++
      r.warnings.map fun m => ⟨.warning, .validation, "  WARNING: " ++ m⟩

/-- What is logged about a sequence when it has been checked; nothing when it has no steps. -/
def validationRecords (v : Value) : List LogRecord :=
  match sequenceSteps v, validateSequence v with
  | .ok _, .ok r => r.records
  | _, _ => []

end Walkthrough
