import Walkthrough.Value.Basic

/-!
Entries that are overwritten by others, and entries of which some are taken away: what is found
under a key afterwards.
-/
namespace Walkthrough.Entries
variable {es others : Entries} {key : String} {v : Value}

def last? (es : Entries) (key : String) : Option Value := get? es.reverse key

theorem getD_of_get? (h : es.get? key = some v) : es.getD key = v := by
  rw [getD, h, Option.getD_some]

theorem get?_of_getD (h : es.getD key = v) (hv : v ≠ .null) : es.get? key = some v := by
  unfold getD at h
  cases hget : es.get? key with
  | none =>
    rw [hget] at h
    exact absurd h.symm hv
  | some w =>
    rw [hget] at h
    exact congrArg some h

theorem get?_append (es others : Entries) (key : String) :
    get? (es ++ others) key = (es.get? key).or (others.get? key) := by
  unfold get?
  rw [List.find?_append]
  cases es.find? (·.1 == key) <;> rfl

theorem last?_cons (e : String × Value) (es : Entries) (key : String) :
    last? (e :: es) key = (es.last? key).or (if e.1 == key then some e.2 else none) := by
  unfold last?
  rw [List.reverse_cons, get?_append, get?_cons, get?_nil]

/-- Of the entries that overwrite others the last one under a key counts; the others keep what no
entry overwrites. -/
theorem get?_merge (es others : Entries) (key : String) :
    (es.merge others).get? key = (others.last? key).or (es.get? key) := by
  unfold merge
  induction others generalizing es with
  | nil => rfl
  | cons e others ih =>
    have hset : (es.set e.1 e.2).get? key =
        (if e.1 == key then some e.2 else none).or (es.get? key) := by
      rw [get?_set]
      split <;> rfl
    rw [List.foldl_cons, ih, hset, last?_cons, Option.or_assoc]

theorem get?_isSome_iff : (es.get? key).isSome = true ↔ key ∈ es.keys := by
  simp [get?, keys]

theorem mem_of_get? (h : es.get? key = some v) : (key, v) ∈ es := by
  obtain ⟨e, hfind, rfl⟩ := Option.map_eq_some_iff.mp h
  have hkey : e.1 = key := by simpa using List.find?_some hfind
  exact hkey ▸ List.mem_of_find?_eq_some hfind

theorem set_of_not_mem (h : key ∉ es.keys) (v : Value) : es.set key v = es ++ [(key, v)] := by
  induction es with
  | nil => rfl
  | cons e es ih =>
    rw [keys, List.map_cons, List.mem_cons, not_or] at h
    have hne : ¬(e.1 == key) = true := by simpa using Ne.symm h.1
    rw [set, if_neg hne, ih h.2, List.cons_append]

theorem keys_set_of_mem (h : key ∈ es.keys) (v : Value) : (es.set key v).keys = es.keys := by
  induction es with
  | nil => cases h
  | cons e es ih =>
    rw [set]
    by_cases heq : e.1 = key
    · simp [keys, heq]
    · have hmem : key ∈ keys es := by
        rw [keys, List.map_cons, List.mem_cons] at h
        exact h.resolve_left (Ne.symm heq)
      have hne : ¬(e.1 == key) = true := by simpa using heq
      rw [if_neg hne]
      exact congrArg (e.1 :: ·) (ih hmem)

theorem keys_set_nodup (h : es.keys.Nodup) (key : String) (v : Value) :
    (es.set key v).keys.Nodup := by
  by_cases hkey : key ∈ es.keys
  · rwa [keys_set_of_mem hkey]
  · rw [set_of_not_mem hkey, keys, List.map_append, List.nodup_append]
    refine ⟨h, by simp, ?_⟩
    intro k hk k' hk' heq
    obtain rfl : k' = key := by simpa using hk'
    exact hkey (heq ▸ hk)

theorem keys_merge_nodup (h : es.keys.Nodup) (others : Entries) : (es.merge others).keys.Nodup := by
  unfold merge
  induction others generalizing es with
  | nil => exact h
  | cons e others ih => exact ih (keys_set_nodup h e.1 e.2)

theorem eq_or_mem_of_mem_set {e : String × Value} (h : e ∈ es.set key v) :
    e = (key, v) ∨ e ∈ es := by
  induction es with
  | nil => exact .inl (List.mem_singleton.mp h)
  | cons e' es ih =>
    rw [set] at h
    split at h
    · rcases List.mem_cons.mp h with h | h
      · exact .inl h
      · exact .inr (List.mem_cons_of_mem _ h)
    · rcases List.mem_cons.mp h with rfl | h
      · exact .inr List.mem_cons_self
      · exact (ih h).imp_right (List.mem_cons_of_mem _)

theorem not_mem_keys_of_nodup {es es' : Entries} {e : String × Value}
    (h : (keys (es ++ e :: es')).Nodup) : e.1 ∉ es.keys := by
  simp only [keys, List.map_append, List.map_cons, List.nodup_append] at h
  intro hmem
  exact h.2.2 e.1 hmem e.1 List.mem_cons_self rfl

/-- Where no key is given twice, what is given last is what is given. -/
theorem last?_eq_get? (h : es.keys.Nodup) (key : String) : es.last? key = es.get? key := by
  induction es with
  | nil => rfl
  | cons e es ih =>
    rw [keys, List.map_cons, List.nodup_cons] at h
    rw [last?_cons, get?_cons, ih h.2]
    by_cases heq : (e.1 == key) = true
    · have hnone : get? es key = none := by
        rw [← Option.not_isSome_iff_eq_none, get?_isSome_iff, ← eq_of_beq heq]
        exact h.1
      rw [hnone, Option.none_or]
    · simp [heq]

def without (es : Entries) (removed : List String) : Entries :=
  es.filter fun e => !removed.contains e.1

theorem get?_without (es : Entries) (removed : List String) (key : String) :
    (es.without removed).get? key = if key ∈ removed then none else es.get? key := by
  unfold without
  induction es with
  | nil => simp [get?_nil]
  | cons e es ih =>
    by_cases he : e.1 ∈ removed
    · rw [List.filter_cons_of_neg (by simpa using he), ih, get?_cons]
      by_cases heq : e.1 = key
      · simp [← heq, he]
      · simp [heq]
    · rw [List.filter_cons_of_pos (by simpa using he), get?_cons, get?_cons, ih]
      by_cases heq : e.1 = key
      · simp [← heq, he]
      · simp [heq]

end Walkthrough.Entries
