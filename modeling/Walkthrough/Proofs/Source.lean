import Walkthrough.Outcome
import Walkthrough.Proofs.Json.Roundtrip
import Walkthrough.Proofs.Run.Steps
import Walkthrough.Proofs.Text.Utf8
import Walkthrough.Report

/-!
A sequence may be handed in as a value, as the text of that value, or as the octets of that text:
all three are the same sequence.
-/
namespace Walkthrough.Source

/-- Two sources that are read alike: the same report is made of them, and to run one of them is to
run the other. -/
structure Alike [Pattern.Host] (a b : Source) : Prop where
  read : a.read = b.read
  report : Report.ofSource a = Report.ofSource b
  instruction : ∀ page settings,
    Outcome.runInstruction page settings a = Outcome.runInstruction page settings b
  test : ∀ page settings, Outcome.runTest page settings a = Outcome.runTest page settings b

/-- Nothing is asked of a source but what is read from it. -/
theorem alike_of_read_eq [Pattern.Host] {a b : Source} (h : a.read = b.read) : Alike a b := by
  constructor
  · exact h
  · unfold Report.ofSource
    rw [h]
  · intro page settings
    funext s
    unfold Outcome.runInstruction
    rw [h]
  · intro page settings
    funext s
    unfold Outcome.runTest
    rw [h]

theorem read_of_not_text {v : Value} (h : ∀ s, v ≠ .text s) : (value v).read = .ok v := by
  cases v with
  | text s => exact absurd rfl (h s)
  | _ => rfl

/-- The octets of a text are read as the text. -/
theorem read_octets (cs : List Char) : (octets (Text.Utf8.encode cs)).read = readText cs := by
  rw [read, Text.Utf8.decode_encode]

theorem readText_print {v : Value} (h : Json.Writable Json.maxDepth v) :
    readText (Json.print v) = .ok v := by
  rw [readText, Json.read_print h]
  rfl

/-- A value that is no text itself may be handed in as it is, as its text or as the octets of that
text. Any text, whether it is one of JSON or not, may be handed in as its octets. -/
theorem forms_alike [Pattern.Host] :
    (∀ v, Json.Writable Json.maxDepth v → (∀ s, v ≠ .text s) →
      (value v).read = .ok v ∧
        Alike (value (.text (String.ofList (Json.print v)))) (value v) ∧
        Alike (octets (Text.Utf8.encode (Json.print v))) (value v)) ∧
      ∀ t : String, Alike (octets (Text.Utf8.encode t.toList)) (value (.text t)) := by
  refine ⟨fun v hv htext => ?_, fun t => alike_of_read_eq (read_octets t.toList)⟩
  have hvalue := read_of_not_text htext
  refine ⟨hvalue, alike_of_read_eq ?_, alike_of_read_eq ?_⟩
  · rw [hvalue, read, String.toList_ofList, readText_print hv]
  · rw [hvalue, read_octets, readText_print hv]

open scoped Walkthrough.Pattern.Host in
/-- A sequence of one step, with a text beyond ASCII and an integer beyond 64 bits. -/
theorem forms_alike_typing :
    let v : Value := .object [("steps", .list [.object [("action", .text "type"),
      ("selector", .text "#q"), ("text", .text "né 😀"), ("delay", .int 10000000000000000000000),
      ("label", .null)]])]
    Json.Writable Json.maxDepth v ∧ (value v).read = .ok v ∧
      Alike (octets (Text.Utf8.encode (Json.print v))) (value v) := by
  intro v
  have hv : Json.Writable Json.maxDepth v := by
    refine .object (by decide) (List.forall_mem_singleton.mpr ?_)
    refine .list (List.forall_mem_singleton.mpr ?_)
    refine .object (by decide) ?_
    simp only [List.forall_mem_cons]
    exact ⟨.text _, .text _, .text _, .int (by decide), .null, by simp⟩
  have hforms := forms_alike.1 v hv (by simp [v])
  exact ⟨hv, hforms.1, hforms.2.2⟩

end Walkthrough.Source
