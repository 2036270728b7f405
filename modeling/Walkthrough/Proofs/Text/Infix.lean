import Mathlib.Data.List.Infix
import Walkthrough.Text.Substring

/-!
Where a text occurs in one that is put together: it cannot begin where its first character is
missing, nor go across a character that it does not have.
-/
namespace Walkthrough.Text
variable {α : Type} {needle p q sep : List α} {c : α}

/-- Nothing occurs across a character that it does not have. -/
theorem infix_append_cons_iff (hne : needle ≠ []) (hc : c ∉ needle) :
    needle <:+: p ++ c :: q ↔ needle <:+: p ∨ needle <:+: q := by
  have hacross : ¬∃ l₁ l₂, l₁ ≠ [] ∧ l₂ ≠ [] ∧ needle = l₁ ++ l₂ ∧ l₁ <:+ p ∧ l₂ <+: c :: q := by
    rintro ⟨l₁, l₂, -, hne₂, rfl, -, hprefix⟩
    obtain rfl | ⟨l, rfl, -⟩ := List.prefix_cons_iff.mp hprefix
    · exact hne₂ rfl
    · exact hc (by simp)
  have hbegins : ¬needle <+: c :: q := by
    intro hprefix
    obtain rfl | ⟨l, rfl, -⟩ := List.prefix_cons_iff.mp hprefix
    · exact hne rfl
    · exact hc List.mem_cons_self
  rw [List.infix_append_iff_ne_nil, List.infix_cons_iff]
  simp only [hacross, hbegins, or_false, false_or]

/-- Nothing begins where its first character is missing. -/
theorem infix_append_iff_of_head (hp : c ∉ p) : c :: needle <:+: p ++ q ↔ c :: needle <:+: q := by
  induction p with
  | nil => rfl
  | cons d p ih =>
    rw [List.mem_cons, not_or] at hp
    have hbegins : ¬c :: needle <+: d :: (p ++ q) := fun h => hp.1 (List.cons_prefix_cons.mp h).1
    rw [List.cons_append, List.infix_cons_iff, ih hp.2]
    simp only [hbegins, false_or]

theorem cons_prefix_drop_iff {pos : Nat} :
    c :: needle <+: p.drop pos ↔ p[pos]? = some c ∧ needle <+: p.drop (pos + 1) := by
  rw [← List.head?_drop, ← List.tail_drop]
  cases p.drop pos with
  | nil => simp
  | cons d ds => simp [List.cons_prefix_cons, eq_comm]

/-- A text occurs in another if that goes on with it somewhere. -/
theorem exists_prefix_drop_iff : (∃ pos ≤ p.length, needle <+: p.drop pos) ↔ needle <:+: p := by
  rw [List.infix_iff_prefix_suffix]
  constructor
  · rintro ⟨pos, -, h⟩
    exact ⟨p.drop pos, h, List.drop_suffix pos p⟩
  · rintro ⟨t, h, hsuffix⟩
    rw [List.suffix_iff_eq_drop] at hsuffix
    exact ⟨p.length - t.length, Nat.sub_le _ _, hsuffix ▸ h⟩

theorem mem_intercalate {ls : List (List α)} (h : c ∈ sep.intercalate ls) :
    c ∈ sep ∨ ∃ l ∈ ls, c ∈ l := by
  induction ls with
  | nil => simp at h
  | cons l ls ih =>
    cases ls with
    | nil =>
      rw [List.intercalate_singleton] at h
      exact .inr ⟨l, List.mem_cons_self, h⟩
    | cons l' ls =>
      rw [List.intercalate_cons_cons, List.mem_append, List.mem_append] at h
      rcases h with (h | h) | h
      · exact .inr ⟨l, List.mem_cons_self, h⟩
      · exact .inl h
      · obtain hsep | ⟨k, hk, hmem⟩ := ih h
        · exact .inl hsep
        · exact .inr ⟨k, List.mem_cons_of_mem l hk, hmem⟩

/-- Texts that are joined end with the last of them. -/
theorem suffix_intercalate {ls : List (List α)} {l : List α} (h : l ∈ ls.getLast?) :
    l <:+ sep.intercalate ls := by
  induction ls with
  | nil => cases h
  | cons k ls ih =>
    cases ls with
    | nil =>
      obtain rfl : k = l := Option.some.inj h
      rw [List.intercalate_singleton]
    | cons k' ls =>
      rw [List.getLast?_cons_cons] at h
      rw [List.intercalate_cons_cons]
      exact (ih h).trans (List.suffix_append _ _)

theorem toList_suffix_append (s t : String) : t.toList <:+ (s ++ t).toList := by
  rw [String.toList_append]
  exact List.suffix_append _ _

theorem toList_suffix_intercalate (sep : String) {ss : List String} {s : String}
    (h : s ∈ ss.getLast?) : s.toList <:+ (sep.intercalate ss).toList := by
  rw [String.toList_intercalate]
  refine suffix_intercalate ?_
  rw [List.getLast?_map, Option.mem_def.mp h]
  rfl

/-- A text that ends with one ends with no other, unless one of these ends with the other. -/
theorem not_suffix_of_suffix (hq : q <:+ p) (hneedle : ¬needle <:+ q) (hrev : ¬q <:+ needle) :
    ¬needle <:+ p :=
  fun h => (List.suffix_or_suffix_of_suffix h hq).elim hneedle hrev

end Walkthrough.Text
