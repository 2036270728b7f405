import Mathlib.Data.List.TakeWhile
import Walkthrough.Text.Blank

/-!
What trimming leaves of a text: the only text that has no blank at its ends and becomes the whole by
blanks around it. More blanks around the whole leave the same.
-/
namespace Walkthrough.Text
variable {p : Char → Bool} {cs before after core : List Char}

/-- What is left of some characters once those at both ends that satisfy `p` are taken away. -/
structure IsTrimOf (p : Char → Bool) (core cs : List Char) : Prop where
  around : ∃ before after, (∀ c ∈ before, p c = true) ∧ (∀ c ∈ after, p c = true) ∧
    cs = before ++ core ++ after
  head : ∀ c ∈ core.head?, p c = false
  last : ∀ c ∈ core.getLast?, p c = false

theorem eq_false_of_mem_head?_dropWhile {c : Char} (h : c ∈ (cs.dropWhile p).head?) :
    p c = false := by
  have hnot := List.head?_dropWhile_not p cs
  rw [Option.mem_def.mp h] at hnot
  exact hnot

theorem dropWhile_eq_self (h : ∀ c ∈ cs.head?, p c = false) : cs.dropWhile p = cs := by
  cases cs with
  | nil => rfl
  | cons c cs =>
    have hc : p c = false := h c rfl
    rw [List.dropWhile_cons_of_neg (by simp [hc])]

theorem isTrimOf_trimWith (p : Char → Bool) (cs : List Char) : IsTrimOf p (trimWith p cs) cs := by
  have hrest : cs.dropWhile p =
      trimWith p cs ++ ((cs.dropWhile p).reverse.takeWhile p).reverse := by
    rw [trimWith, ← List.reverse_append, List.takeWhile_append_dropWhile, List.reverse_reverse]
  refine ⟨⟨cs.takeWhile p, ((cs.dropWhile p).reverse.takeWhile p).reverse, ?_, ?_, ?_⟩, ?_, ?_⟩
  · exact fun c hc => List.mem_takeWhile_imp hc
  · exact fun c hc => List.mem_takeWhile_imp (List.mem_reverse.mp hc)
  · rw [List.append_assoc, ← hrest, List.takeWhile_append_dropWhile]
  · -- what is taken away at the end leaves the beginning as it is
    intro c hc
    have hhead : c ∈ (cs.dropWhile p).head? := by
      rw [hrest, List.head?_append, Option.mem_def.mp hc]
      rfl
    exact eq_false_of_mem_head?_dropWhile hhead
  · intro c hc
    rw [trimWith, List.getLast?_reverse] at hc
    exact eq_false_of_mem_head?_dropWhile hc

/-- Nothing else can be left. -/
theorem IsTrimOf.eq_trimWith (h : IsTrimOf p core cs) : core = trimWith p cs := by
  obtain ⟨⟨before, after, hbefore, hafter, rfl⟩, hhead, hlast⟩ := h
  rw [trimWith, List.append_assoc, List.dropWhile_append_of_pos hbefore]
  cases core with
  | nil => rw [List.nil_append, List.dropWhile_eq_nil_iff.mpr hafter]; rfl
  | cons c core =>
    have hbegin : ((c :: core) ++ after).dropWhile p = (c :: core) ++ after :=
      dropWhile_eq_self hhead
    have hend : (c :: core).reverse.dropWhile p = (c :: core).reverse := by
      apply dropWhile_eq_self
      rwa [List.head?_reverse]
    have hafter' : ∀ d ∈ after.reverse, p d = true := fun d hd => hafter d (List.mem_reverse.mp hd)
    rw [hbegin, List.reverse_append, List.dropWhile_append_of_pos hafter', hend,
      List.reverse_reverse]

theorem IsTrimOf.append (h : IsTrimOf p core cs) (hbefore : ∀ c ∈ before, p c = true)
    (hafter : ∀ c ∈ after, p c = true) : IsTrimOf p core (before ++ cs ++ after) := by
  obtain ⟨⟨before', after', hbefore', hafter', rfl⟩, hhead, hlast⟩ := h
  refine ⟨⟨before ++ before', after' ++ after, ?_, ?_, ?_⟩, hhead, hlast⟩
  · exact List.forall_mem_append.mpr ⟨hbefore, hbefore'⟩
  · exact List.forall_mem_append.mpr ⟨hafter', hafter⟩
  · simp only [List.append_assoc]

def AllBlank (s : String) : Prop := ∀ c ∈ s.toList, isBlank c = true

/-- What stands in a text between the blanks around it. -/
def IsCore (core text : String) : Prop := IsTrimOf isBlank core.toList text.toList

theorem isCore_iff {core text : String} : IsCore core text ↔ core = strip text := by
  rw [strip, ← String.toList_inj, String.toList_ofList]
  exact ⟨IsTrimOf.eq_trimWith, fun h => by rw [IsCore, h]; exact isTrimOf_trimWith _ _⟩

/-- Blanks around a text do not change what stands between them. -/
theorem strip_append {before after : String} (hbefore : AllBlank before) (hafter : AllBlank after)
    (text : String) : strip (before ++ text ++ after) = strip text := by
  have hcore : IsCore (strip text) text := isCore_iff.mpr rfl
  refine (isCore_iff.mp ?_).symm
  rw [IsCore, String.toList_append, String.toList_append]
  exact hcore.append hbefore hafter

end Walkthrough.Text
