import Walkthrough.Proofs.Toml.Distinct
import Walkthrough.Proofs.Toml.Hexadecimal
import Walkthrough.Settings

/-!
Where settings come from, each by itself: the last variable that sets its key, else the entry of the
document's table, else the standard settings. Nothing else matters, and settings are refused only
for a value that counts.
-/
namespace Walkthrough.Settings
variable {document : Option String} {table : Entries} {env : List (String × String)}
  {name key : String}

/-- A variable sets the key that its name ends in, in any case, after the prefix. -/
theorem variableKey?_eq_some_iff :
    variableKey? name = some key ↔
      ∃ rest : String, name = variablePrefix ++ rest ∧ Number.lowerWord rest.toList = key := by
  unfold variableKey?
  constructor
  · intro h
    split at h
    next hstart =>
      obtain ⟨rest, hrest⟩ := List.isPrefixOf_iff_prefix.mp hstart
      have hdrop : name.toList.drop variablePrefix.length = rest := by
        rw [← hrest, ← String.length_toList, List.drop_left]
      refine ⟨String.ofList rest, String.toList_injective ?_, ?_⟩
      · rw [String.toList_append, String.toList_ofList, hrest]
      · rw [String.toList_ofList, ← hdrop]
        exact Option.some.inj h
    next => cases h
  · rintro ⟨rest, rfl, rfl⟩
    have hstart : variablePrefix.toList.isPrefixOf (variablePrefix ++ rest).toList = true := by
      rw [String.toList_append, List.isPrefixOf_iff_prefix]
      exact List.prefix_append _ _
    rw [if_pos hstart, String.toList_append, ← String.length_toList, List.drop_left]

def lastText? (env : List (String × String)) (key : String) : Option String :=
  (env.filter fun x => variableKey? x.1 == some key).getLast?.map (·.2)

theorem lastText?_cons (x : String × String) (env : List (String × String)) (key : String) :
    lastText? (x :: env) key =
      (lastText? env key).or (if variableKey? x.1 == some key then some x.2 else none) := by
  unfold lastText?
  rw [List.filter_cons]
  split
  · rw [List.getLast?_cons]
    cases (env.filter fun x => variableKey? x.1 == some key).getLast? <;> rfl
  · rw [Option.or_none]

theorem get?_ofEnvironment (env : List (String × String)) (key : String) :
    (ofEnvironment env).get? key = (lastText? env key).map .text := by
  unfold ofEnvironment
  rw [Entries.get?_merge, Entries.get?_nil, Option.or_none]
  induction env with
  | nil => rfl
  | cons x env ih =>
    rw [lastText?_cons, List.filterMap_cons]
    cases hkey : variableKey? x.1 with
    | none => simp [hkey, ih]
    | some k =>
      simp only [hkey, Option.map_some, Entries.last?_cons, ih]
      by_cases hk : k = key
      · simp [hk]
      · simp [hk]

def selected (env : List (String × String)) (table : Entries) (key : String) : Value :=
  match lastText? env key with
  | some text => .text text
  | none => (table.get? key).getD (standard.toEntries.getD key)

/-- The settings that a document holds: the entries of its `engine` table, none if it has no such
table or if there is no document. -/
inductive HasTable : Option String → Entries → Prop
  | noDocument : HasTable none []
  | noTable {text : String} {root : Entries} (read : Toml.read text.toList = .ok root)
      (engine : root.get? "engine" = none) : HasTable (some text) []
  | table {text : String} {root es : Entries} (read : Toml.read text.toList = .ok root)
      (engine : root.get? "engine" = some (.object es)) : HasTable (some text) es

theorem HasTable.of_read {text : String}
    (h : Toml.read text.toList = .ok [("engine", .object table)]) : HasTable (some text) table := by
  refine .table h ?_
  rw [Entries.get?_cons, if_pos (beq_self_eq_true "engine")]

theorem HasTable.keys_nodup (h : HasTable document table) : table.keys.Nodup := by
  cases h with
  | noDocument => exact List.nodup_nil
  | noTable => exact List.nodup_nil
  | table read engine => exact ((Toml.distinct_read read).of_get? engine).entries.keys

/-- Settings are made of the document's entries, overwritten by those of the environment. -/
theorem HasTable.load_eq (h : HasTable document table) (env : List (String × String)) :
    ∃ es, load document env = ofEntries es ∧ es.keys.Nodup ∧
      ∀ key, es.get? key = ((lastText? env key).map .text).or (table.get? key) := by
  have hnil : Entries.keys [] = [] := rfl
  have henv : (ofEnvironment env).keys.Nodup :=
    Entries.keys_merge_nodup (hnil ▸ List.nodup_nil) _
  have hmerge (es : Entries) (key : String) : (es.merge (ofEnvironment env)).get? key =
      ((lastText? env key).map .text).or (es.get? key) := by
    rw [Entries.get?_merge, Entries.last?_eq_get? henv, get?_ofEnvironment]
  have hnodup : (table.merge (ofEnvironment env)).keys.Nodup :=
    Entries.keys_merge_nodup h.keys_nodup _
  cases h with
  | noDocument =>
    refine ⟨ofEnvironment env, rfl, henv, fun key => ?_⟩
    rw [get?_ofEnvironment, Entries.get?_nil, Option.or_none]
  | noTable read engine =>
    refine ⟨_, ?_, hnodup, hmerge _⟩
    simp only [load, ofDocument, read, engine]
  | table read engine =>
    refine ⟨_, ?_, hnodup, hmerge _⟩
    simp only [load, ofDocument, read, engine]

/-- Over the standard settings, they hold for each key the value that counts. -/
theorem HasTable.load_eq_selected (h : HasTable document table) (env : List (String × String)) :
    ∃ es, load document env = ofEntries es ∧
      ∀ key, (standard.toEntries.merge es).getD key = selected env table key := by
  obtain ⟨es, hload, hnodup, hget⟩ := h.load_eq env
  refine ⟨es, hload, fun key => ?_⟩
  rw [Entries.getD, Entries.get?_merge, Entries.last?_eq_get? hnodup, hget, selected]
  cases lastText? env key with
  | some text => rfl
  | none => cases table.get? key <;> rfl

/-- The settings hold what the values that count for their keys are converted to. -/
structure Converts (value : String → Value) (c : Settings) : Prop where
  maxWaitMs : readPause (value "max_wait_ms") = .ok c.maxWaitMs
  waitUntil : c.waitUntil = (value "default_wait_until").display
  polling : c.polling = (value "default_polling").display
  stopOnError : c.stopOnError = readSwitch (value "stop_on_error")
  logPrefix : c.logPrefix = (value "log_prefix").display

/-- Every setting is converted, unless the value of a text holds too great an integer. -/
theorem ofEntries_cases (es : Entries) {value : String → Value}
    (hvalue : ∀ key, (standard.toEntries.merge es).getD key = value key) :
    (∃ c, ofEntries es = .ok c ∧ Converts value c ∧
        ∀ key ∈ textKeys, (value key).isWritable = true) ∨
      (∃ fault, ofEntries es = .error fault ∧ readPause (value "max_wait_ms") = .error fault) ∨
      (ofEntries es = .error .unwritableText ∧
        ∃ key ∈ textKeys, (value key).isWritable = false) := by
  unfold ofEntries
  dsimp only
  simp only [hvalue]
  cases hpause : readPause (value "max_wait_ms") with
  | error fault => exact .inr (.inl ⟨fault, rfl, rfl⟩)
  | ok maxWaitMs =>
    by_cases hwritable : textKeys.all (fun key => (value key).isWritable) = true
    · exact .inl ⟨_, if_pos hwritable, ⟨hpause, rfl, rfl, rfl, rfl⟩, List.all_eq_true.mp hwritable⟩
    · refine .inr (.inr ⟨if_neg hwritable, ?_⟩)
      simpa [List.all_eq_true] using hwritable

theorem textKeys_subset (c : Settings) : textKeys ⊆ c.toEntries.keys := by
  have hkeys : c.toEntries.keys = standard.toEntries.keys := rfl
  rw [hkeys]
  decide

end Walkthrough.Settings
