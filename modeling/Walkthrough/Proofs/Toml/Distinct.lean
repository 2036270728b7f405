import Walkthrough.Proofs.Value.Entries
import Walkthrough.Toml.Document
import Walkthrough.Value.Display

/-!
A document that is read gives no key twice: the entries of each of its tables stand under keys of
their own, at any depth. Every way of changing a draft keeps it so.
-/
namespace Walkthrough

/-- No object in a value, at any depth, has two entries under one key. -/
inductive Value.Distinct : Value → Prop
  | null : Distinct .null
  | bool (b : Bool) : Distinct (.bool b)
  | int (n : Int) : Distinct (.int n)
  | float (x : Float) : Distinct (.float x)
  | text (s : String) : Distinct (.text s)
  | moment (m : Moment) : Distinct (.moment m)
  | list {vs : List Value} (items : ∀ v ∈ vs, Distinct v) : Distinct (.list vs)
  | object {es : Entries} (keys : es.keys.Nodup) (values : ∀ e ∈ es, Distinct e.2) :
      Distinct (.object es)

/-- The entries stand under keys of their own, and so do those of the objects among their values. -/
structure Entries.Distinct (es : Entries) : Prop where
  keys : es.keys.Nodup
  values : ∀ e ∈ es, e.2.Distinct

namespace Value.Distinct

theorem entries {es : Entries} (h : (Value.object es).Distinct) : es.Distinct := by
  cases h with
  | object keys values => exact ⟨keys, values⟩

theorem of_mem {vs : List Value} {v : Value} (h : (Value.list vs).Distinct) (hv : v ∈ vs) :
    v.Distinct := by
  cases h with
  | list items => exact items v hv

end Value.Distinct

namespace Entries.Distinct
variable {es : Entries} {key : String} {v : Value}

theorem nil : Entries.Distinct [] := ⟨List.nodup_nil, fun _ he => nomatch he⟩

theorem object (h : es.Distinct) : (Value.object es).Distinct := .object h.keys h.values

theorem of_get? (h : es.Distinct) (hget : es.get? key = some v) : v.Distinct :=
  h.values _ (mem_of_get? hget)

theorem set (h : es.Distinct) (hv : v.Distinct) : (es.set key v).Distinct where
  keys := keys_set_nodup h.keys key v
  values e he := by
    rcases eq_or_mem_of_mem_set he with rfl | he
    · exact hv
    · exact h.values e he

end Entries.Distinct

namespace Toml
open Entries (Distinct)

def KeepsDistinct (f : Entries → Except Clash Entries) : Prop :=
  ∀ {es es' : Entries}, es.Distinct → f es = .ok es' → es'.Distinct

section Changes
variable {key : String} {v : Value} {path : Path} {f : Entries → Except Clash Entries}

theorem keepsDistinct_ok : KeepsDistinct .ok := by
  intro es es' hes h
  exact Except.ok.inj h ▸ hes

theorem keepsDistinct_addEntry (hv : v.Distinct) : KeepsDistinct (addEntry key v) := by
  intro es es' hes h
  unfold addEntry at h
  split at h
  · cases h
  · exact Except.ok.inj h ▸ hes.set hv

theorem keepsDistinct_addTable : KeepsDistinct (addTable key) := by
  have hempty : (Value.object []).Distinct := Distinct.nil.object
  intro es es' hes h
  unfold addTable at h
  split at h
  next =>
    exact Except.ok.inj h ▸ hes.set (.list (by simpa using hempty))
  next items hget =>
    have hitems : ∀ v ∈ items, v.Distinct := fun v hv => (hes.of_get? hget).of_mem hv
    refine Except.ok.inj h ▸ hes.set (.list fun v hv => ?_)
    rcases List.mem_append.mp hv with hv | hv
    · exact hitems v hv
    · exact List.mem_singleton.mp hv ▸ hempty
  next => cases h

/-- What is done to the table at a path changes the tables on the way only at the keys of the path.
-/
theorem keepsDistinct_modifyAt (intoArrays : Bool) (hf : KeepsDistinct f) (path : Path) :
    KeepsDistinct (modifyAt intoArrays f path) := by
  induction path with
  | nil => exact hf
  | cons key path ih =>
    intro es es' hes h
    simp only [modifyAt] at h
    split at h
    next =>
      obtain ⟨t, ht, rfl⟩ := map_eq_ok_iff.mp h
      exact hes.set (ih .nil ht).object
    next inner hget =>
      obtain ⟨t, ht, rfl⟩ := map_eq_ok_iff.mp h
      exact hes.set (ih (hes.of_get? hget).entries ht).object
    next items hget =>
      have hitems : ∀ v ∈ items, v.Distinct := fun v hv => (hes.of_get? hget).of_mem hv
      split at h
      next inner hlast =>
        obtain ⟨t, ht, rfl⟩ := map_eq_ok_iff.mp h
        have hinner := (hitems _ (List.mem_of_getLast? hlast)).entries
        refine hes.set (.list fun v hv => ?_)
        rcases List.mem_append.mp hv with hv | hv
        · exact hitems v (List.dropLast_subset _ hv)
        · exact List.mem_singleton.mp hv ▸ (ih hinner ht).object
      next => cases h
    next => cases h

end Changes

section Readers
variable {fuel : Nat} {cs rest : List Char} {v : Value}

theorem distinct_takeDecimal? (h : takeDecimal? cs = some (.ok (v, rest))) : v.Distinct := by
  unfold takeDecimal? at h
  grind [Value.Distinct]

theorem distinct_takeSpecial? (h : takeSpecial? cs = some (v, rest)) : v.Distinct := by
  unfold takeSpecial? at h
  grind [Value.Distinct]

theorem distinct_readMomentOrNumber (h : readMomentOrNumber cs = .ok (v, rest)) : v.Distinct := by
  unfold readMomentOrNumber at h
  split at h
  next =>
    split at h
    · cases h
      exact .moment _
    · cases h
  next =>
    split at h
    next =>
      cases h
      exact .moment _
    next =>
      split at h
      next =>
        cases h
        exact .int _
      next =>
        split at h
        next r hr =>
          subst h
          exact distinct_takeDecimal? hr
        next =>
          split at h
          next r hr =>
            cases h
            exact distinct_takeSpecial? hr
          next => cases h

theorem distinct_readScalar (h : readScalar cs = .ok (v, rest)) : v.Distinct := by
  unfold readScalar at h
  split at h
  next r hr =>
    obtain ⟨⟨s, rest'⟩, -, heq⟩ := map_eq_ok_iff.mp h
    cases heq
    exact .text _
  next =>
    split at h
    · cases h
      exact .bool true
    · cases h
      exact .bool false
    · exact distinct_readMomentOrNumber h

/-- What the readers of values, items, inline tables and pairs read within some fuel gives no key
twice. -/
structure ReadsDistinct (fuel : Nat) : Prop where
  value {cs rest : List Char} {v : Value} : readValue fuel cs = .ok (v, rest) → v.Distinct
  items {acc : List Value} {cs rest : List Char} {v : Value} : (∀ item ∈ acc, item.Distinct) →
    readItems fuel acc cs = .ok (v, rest) → v.Distinct
  inline {fixed : List Path} {acc : Entries} {cs rest : List Char} {v : Value} : acc.Distinct →
    readInline fuel fixed acc cs = .ok (v, rest) → v.Distinct
  pair {cs rest : List Char} {path : Path} {v : Value} :
    readPair fuel cs = .ok (path, v, rest) → v.Distinct

/-- By induction on the fuel, for all four readers at once: they call each other with less. -/
theorem readsDistinct (fuel : Nat) : ReadsDistinct fuel := by
  induction fuel with
  | zero =>
    constructor
    · intro cs rest v h
      cases h
    · intro acc cs rest v _ h
      cases h
    · intro fixed acc cs rest v _ h
      cases h
    · intro cs rest path v h
      cases h
  | succ fuel ih =>
    constructor
    · intro cs rest v h
      unfold readValue at h
      split at h
      · split at h
        · cases h
        · exact ih.items (List.forall_mem_nil _) h
      · split at h
        · cases h
          exact Distinct.nil.object
        · exact ih.inline .nil h
      · exact distinct_readScalar h
    · intro acc cs rest v hacc h
      have hlist {items : List Value} (hitems : ∀ item ∈ items, item.Distinct) :
          (Value.list items.reverse).Distinct :=
        .list fun item hitem => hitems item (List.mem_reverse.mp hitem)
      unfold readItems at h
      split at h
      · cases h
      · cases h
        exact hlist hacc
      next fuel' heq _ =>
        obtain rfl : fuel = fuel' := Nat.succ.inj heq
        split at h
        · cases h
        next v' rest' hvalue =>
          have hacc' : ∀ item ∈ v' :: _, item.Distinct :=
            List.forall_mem_cons.mpr ⟨ih.value hvalue, hacc⟩
          split at h
          · cases h
          · cases h
            exact hlist hacc'
          · split at h
            · cases h
            · exact ih.items hacc' h
          · cases h
    · intro fixed acc cs rest v hacc h
      rw [readInline] at h
      split at h
      · cases h
      next key v' rest' hpair =>
        have hentry : KeepsDistinct (addEntry (key.getLastD "") v') :=
          keepsDistinct_addEntry (ih.pair hpair)
        split at h
        · cases h
        · dsimp only at h
          split at h
          · cases h
          · cases h
          next acc' hacc' =>
            have hdistinct := keepsDistinct_modifyAt false hentry key.dropLast hacc hacc'
            split at h
            · cases h
              exact hdistinct.object
            · exact ih.inline hdistinct h
            · cases h
    · intro cs rest path v h
      rw [readPair] at h
      split at h
      · cases h
      · split at h
        · cases h
        next hvalue =>
          cases h
          exact ih.value hvalue
      · cases h

end Readers

namespace Draft
variable {d d' : Draft} {path : Path}

theorem distinct_openTable (hd : d.root.Distinct) (h : d.openTable path = .ok d') :
    d'.root.Distinct := by
  unfold openTable at h
  split at h
  · cases h
  · split at h
    next hroot =>
      cases h
      exact keepsDistinct_modifyAt true keepsDistinct_ok path hd hroot
    next => cases h

theorem distinct_openItem (hd : d.root.Distinct) (h : d.openItem path = .ok d') :
    d'.root.Distinct := by
  unfold openItem at h
  split at h
  · cases h
  · split at h
    next hroot =>
      cases h
      exact keepsDistinct_modifyAt true keepsDistinct_addTable path.dropLast hd hroot
    next => cases h

theorem distinct_addPair {v : Value} (hd : d.root.Distinct) (hv : v.Distinct)
    (h : d.addPair path v = .ok d') : d'.root.Distinct := by
  unfold addPair at h
  dsimp only at h
  split at h
  · cases h
  · split at h
    · cases h
    · split at h
      next hroot =>
        cases h
        exact keepsDistinct_modifyAt true (keepsDistinct_addEntry hv) _ hd hroot
      next => cases h

end Draft

section Statements
variable {fuel : Nat} {d d' : Draft} {cs rest : List Char} {root : Entries}

theorem distinct_readHeader (hd : d.root.Distinct) (h : readHeader d cs = .ok (d', rest)) :
    d'.root.Distinct := by
  unfold readHeader at h
  dsimp only at h
  split at h
  · split at h
    · cases h
    · split at h
      · cases h
      next hopened =>
        split at h
        · cases h
          exact Draft.distinct_openItem hd hopened
        · cases h
  · split at h
    · cases h
    · split at h
      · cases h
      next hopened =>
        split at h
        · cases h
          exact Draft.distinct_openTable hd hopened
        · cases h

theorem distinct_readStatement (hd : d.root.Distinct) (h : readStatement d cs = .ok (d', rest)) :
    d'.root.Distinct := by
  unfold readStatement at h
  split at h
  · cases h
    exact hd
  · split at h
    · split at h
      · cases h
      next hpair =>
        split at h
        · cases h
        next hadded =>
          cases h
          exact Draft.distinct_addPair hd ((readsDistinct _).pair hpair) hadded
    · have hsettled : d.settle.root.Distinct := hd
      split at h
      · exact distinct_readHeader hsettled h
      · split at h
        · cases h
          exact hd
        · cases h

/-- Each statement keeps a draft without a key given twice. -/
theorem distinct_readStatements (hd : d.root.Distinct) (h : readStatements fuel d cs = .ok root) :
    root.Distinct := by
  induction fuel generalizing d cs with
  | zero => cases h
  | succ fuel ih =>
    rw [readStatements] at h
    split at h
    · cases h
    next hstatement =>
      have hd' := distinct_readStatement hd hstatement
      split at h
      · cases h
      · cases h
        exact hd'
      · exact ih hd' h
      · cases h

/-- A document that is read gives no key twice. -/
theorem distinct_read (h : read cs = .ok root) : root.Distinct := by
  unfold read at h
  dsimp only at h
  cases hread : readStatements ((unixLines cs).length + 1) .empty (unixLines cs) with
  | ok root' =>
    rw [hread] at h
    cases h
    exact distinct_readStatements .nil hread
  | error slip =>
    rw [hread] at h
    cases h

end Statements

end Toml

end Walkthrough
