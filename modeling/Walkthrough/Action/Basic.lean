import Walkthrough.Action.Field
import Walkthrough.Action.Kind

/-!
Typed actions: the fields of every type of action, reading an action from a value, and writing it
back as one.
-/
namespace Walkthrough

namespace Field

abbrev need (name : String) (kind : FieldKind) : Field := ⟨name, name, kind, true⟩

abbrev may (name : String) (kind : FieldKind) : Field := ⟨name, name, kind, false⟩

/-- A field that may be absent and is written under a key of its own. -/
abbrev mayAs (name wire : String) (kind : FieldKind) : Field := ⟨name, wire, kind, false⟩

end Field

open Walkthrough.Field in
abbrev ActionKind.fields : ActionKind → List Field
  | .click =>
    [need "selector" .text, may "timeout" .limit, may "button" .text,
      mayAs "click_count" "clickCount" .whole, may "delay" .number]
  | .type => [need "selector" .text, need "text" .scalar, may "timeout" .limit, may "delay" .number]
  | .clear => [need "selector" .text, may "timeout" .limit]
  | .select => [need "selector" .text, need "value" .choice, may "timeout" .limit]
  | .hover => [need "selector" .text, may "timeout" .limit]
  | .focus => [need "selector" .text, may "timeout" .limit]
  | .press => [need "key" .scalar, may "delay" .number]
  | .waitForSelector =>
    [need "selector" .text, may "timeout" .limit, may "visible" .flag, may "hidden" .flag]
  | .waitForNavigation => [may "timeout" .limit, mayAs "wait_until" "waitUntil" .text]
  | .waitForTimeout => [need "ms" .pause]
  | .waitForFunction => [need "script" .text, may "timeout" .limit, may "polling" .polling]
  | .goto => [need "url" .text, may "timeout" .limit, mayAs "wait_until" "waitUntil" .text]
  | .goBack => [may "timeout" .limit, mayAs "wait_until" "waitUntil" .text]
  | .goForward => [may "timeout" .limit, mayAs "wait_until" "waitUntil" .text]
  | .reload => [may "timeout" .limit, mayAs "wait_until" "waitUntil" .text]
  | .scroll => [may "selector" .text, may "x" .number, may "y" .number, may "behavior" .text]
  | .scrollToElement =>
    [need "selector" .text, may "block" .text, may "inline" .text, may "behavior" .text]
  | .evaluate => [need "script" .text]
  | .setViewport =>
    [need "width" .whole, need "height" .whole,
      mayAs "device_scale_factor" "deviceScaleFactor" .number, mayAs "is_mobile" "isMobile" .flag,
      mayAs "has_touch" "hasTouch" .flag]
  | .assert => [need "script" .text, may "message" .scalar]
  | .assertSelector =>
    [need "selector" .text, may "message" .scalar, may "visible" .flag, may "count" .whole]
  | .assertText =>
    [need "selector" .text, need "text" .scalar, may "message" .scalar, may "contains" .flag,
      may "exact" .flag]
  | .assertUrl => [need "pattern" .scalar, may "message" .scalar, may "exact" .flag]
  | .assertTitle => [need "pattern" .scalar, may "message" .scalar, may "exact" .flag]

/-- An action: its type, its label and what its fields hold. -/
structure Action where
  kind : ActionKind
  label : Option String
  fields : Record kind.fields

namespace Action

/-- The label in an object: its value written out, unless that is null or empty. -/
def readLabel (es : Entries) : Except (List FieldFault) (Option String) :=
  let v := Entries.getD es "label"
  if v.isBlank then .ok none
  else
    match asWritten v with
    | .ok s => .ok (some s)
    | .error r => .error [⟨["label"], r⟩]

/-- Reads an action of a type from the entries of an object. -/
def read (kind : ActionKind) (es : Entries) : Except (List FieldFault) Action :=
  (both (readLabel es) (Record.read kind.fields es)).map fun (label, fields) =>
    ⟨kind, label, fields⟩

def name (a : Action) : String := a.kind.name

def payload (a : Action) : Entries :=
  (("label", Value.ofText? a.label) :: ("action", .text a.name) ::
    Record.values Field.wire a.kind.fields a.fields).filter fun e => !e.2 matches .null

/-- Every field of an action by its plain name, null for one that holds nothing. -/
def attributes (a : Action) : Entries :=
  ("label", Value.ofText? a.label) :: ("action", .text a.name) ::
    Record.values Field.name a.kind.fields a.fields

def choices? : Action → Option (List String)
  | ⟨.select, _, (_, choice, _, ())⟩ => some choice.values
  | _ => none

end Action

inductive ActionFault
  /-- No known type of action is named; the value under `action` is kept. -/
  | unknown (name : Value)
  /-- No known type of action is named, and the value under `action` cannot be written out. -/
  | unwritable (fault : Unwritable)
  /-- Fields of the type named are wrong. -/
  | invalid (kind : ActionKind) (faults : List FieldFault)

def ActionFault.message : ActionFault → String
  | .unknown name => "Unknown action type: " ++ name.display
  | .unwritable f => f.message
  | .invalid kind faults =>
    "Invalid parameters for action \"" ++ kind.name ++ "\": " ++
      "; ".intercalate (faults.map FieldFault.text)

/-- The fault of naming no known type of action, which is told by writing the name out. -/
def ActionFault.ofName (name : Value) : ActionFault :=
  match name.write with
  | .ok _ => .unknown name
  | .error f => .unwritable f

/-- The name under `action`, if it is a text. -/
def Value.actionName? (v : Value) : Option String :=
  match v.field "action" with
  | .text s => some s
  | _ => none

def Value.actionKind? (v : Value) : Option ActionKind :=
  v.actionName?.bind ActionKind.ofName?

def Action.ofValue (v : Value) : Except ActionFault Action :=
  match v with
  | .object es =>
    match v.actionKind? with
    | none => .error (.ofName (v.field "action"))
    | some kind => (Action.read kind es).mapError (.invalid kind)
  | _ => .error (.ofName .null)

end Walkthrough
