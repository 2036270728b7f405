import Walkthrough.Step.Basic
import Walkthrough.Value.Pairs

/-! The assertions among the results of steps, counted by whether they passed. -/
namespace Walkthrough

/-- An assertion that came to a verdict. -/
structure AssertionRecord where
  action : String
  passed : Bool
  message : Value
  label : Value

def AssertionRecord.toEntries (r : AssertionRecord) : Entries :=
  [("action", .text r.action), ("passed", .bool r.passed), ("message", r.message),
    ("label", r.label)]

structure AssertionSummary where
  records : List AssertionRecord

namespace AssertionSummary

def total (s : AssertionSummary) : Nat := s.records.length

def passed (s : AssertionSummary) : Nat := (s.records.filter (·.passed)).length

def failed (s : AssertionSummary) : Nat := s.total - s.passed

def allPassed (s : AssertionSummary) : Bool := s.failed == 0

def firstFailure? (s : AssertionSummary) : Option AssertionRecord :=
  s.records.find? (!·.passed)

def toEntries (s : AssertionSummary) : Entries :=
  [("totalAssertions", .int s.total), ("passed", .int s.passed), ("failed", .int s.failed),
    ("allPassed", .bool s.allPassed),
    ("results", .list (s.records.map fun r => .object r.toEntries))]

end AssertionSummary

def isAssertion (name : String) : Bool :=
  "assert".toList.isPrefixOf name.toList

/-- The record of a step, if it is an assertion that came to a verdict. -/
def AssertionRecord.of? (action result label : Value) : Option AssertionRecord :=
  match action, result with
  | .text name, .object verdict =>
    if isAssertion name then
      some ⟨name, (Entries.getD verdict "passed").truthy, Entries.getD verdict "message", label⟩
    else none
  | _, _ => none

/-- A step's result as it is handed in: itself, or the object that stands for it. -/
inductive StepEntry
  | result (r : StepResult)
  | wire (v : Value)

inductive SummaryFault
  | notAnObject (type : String)
  | notIterable (type : String)
  deriving DecidableEq, Repr

def SummaryFault.message : SummaryFault → String
  | .notAnObject type => s!"'{type}' object has no attribute 'get'"
  | .notIterable type => s!"'{type}' object is not iterable"

def StepEntry.record? : StepEntry → Except SummaryFault (Option AssertionRecord)
  | .result r => .ok (AssertionRecord.of? r.action r.result r.label)
  | .wire (.object es) =>
    .ok (AssertionRecord.of? (Entries.getD es "action") (Entries.getD es "result")
      (Entries.getD es "label"))
  | .wire v => .error (.notAnObject v.typeName)

namespace AssertionSummary

/-- The summary of entries; one that is neither a result nor an object is a fault. -/
def ofEntries : List StepEntry → Except SummaryFault AssertionSummary
  | [] => .ok ⟨[]⟩
  | e :: es =>
    match e.record? with
    | .error f => .error f
    | .ok r? =>
      match ofEntries es with
      | .error f => .error f
      | .ok s => .ok ⟨r?.toList ++ s.records⟩

def ofResults (rs : List StepResult) : AssertionSummary :=
  ⟨rs.filterMap fun r => AssertionRecord.of? r.action r.result r.label⟩

/-- The summary of a value: its items, or its characters or keys, are the entries. -/
def ofValue (v : Value) : Except SummaryFault AssertionSummary :=
  match v.parts? with
  | none => .error (.notIterable v.typeName)
  | some parts => ofEntries (parts.map .wire)

end AssertionSummary

end Walkthrough
