import Walkthrough.Proofs.Number.Integer
import Walkthrough.Proofs.Settings.Precedence

/-!
Settings that are written to an environment: for every document, and whatever other variables there
are, they are read back from it as they were.
-/
namespace Walkthrough.Settings
variable {document : Option String} {table : Entries} {env : List (String × String)} {c : Settings}

/-- The variable that sets a key: its name is in capitals, its text that of the value. -/
def exportEntry (e : String × Value) : String × String :=
  (variablePrefix ++ String.ofList (e.1.toList.map Char.toUpper), e.2.display)

def exported (c : Settings) : List (String × String) := c.toEntries.map exportEntry

/-- Whether the name of a variable begins like those of settings. -/
def isVariable (x : String × String) : Bool := variablePrefix.toList.isPrefixOf x.1.toList

/-- An environment holds settings if it has their variables, in any order, and of other variables
only such as set nothing. -/
def Holds (env : List (String × String)) (c : Settings) : Prop :=
  (env.filter isVariable).Perm c.exported

instance (env : List (String × String)) (c : Settings) : Decidable (Holds env c) :=
  inferInstanceAs (Decidable ((env.filter isVariable).Perm c.exported))

/-- The name of a variable gives its key back, as no key has a capital. -/
theorem variableKey?_exportEntry {e : String × Value} (he : e ∈ c.toEntries) :
    variableKey? (exportEntry e).1 = some e.1 := by
  have hlower : ∀ key ∈ c.toEntries.keys,
      Number.lowerWord (key.toList.map Char.toUpper) = key := by
    intro key hkey
    have hkeys : c.toEntries.keys = standard.toEntries.keys := rfl
    have hstandard : ∀ key ∈ standard.toEntries.keys,
        Number.lowerWord (key.toList.map Char.toUpper) = key := by decide
    exact hstandard key (hkeys ▸ hkey)
  refine variableKey?_eq_some_iff.mpr ⟨_, rfl, ?_⟩
  rw [String.toList_ofList]
  exact hlower e.1 (List.mem_map_of_mem he)

theorem filter_exported {e : String × Value} (he : e ∈ c.toEntries) :
    c.exported.filter (fun x => variableKey? x.1 == some e.1) = [exportEntry e] := by
  have hsame : ∀ e' ∈ c.toEntries,
      ((fun x => variableKey? x.1 == some e.1) ∘ exportEntry) e' = (e'.1 == e.1) := by
    intro e' he'
    simp [variableKey?_exportEntry he']
  have hfilter : c.toEntries.filter (fun e' => e'.1 == e.1) = [e] := by
    simp only [toEntries, List.mem_cons, List.not_mem_nil, or_false] at he
    rcases he with rfl | rfl | rfl | rfl | rfl <;> rfl
  rw [exported, List.filter_map, List.filter_congr hsame, hfilter]
  rfl

/-- Each variable of the settings alone sets its key. -/
theorem Holds.lastText?_eq (h : Holds env c) {e : String × Value} (he : e ∈ c.toEntries) :
    lastText? env e.1 = some e.2.display := by
  have hfilter : env.filter (fun x => variableKey? x.1 == some e.1) =
      (env.filter isVariable).filter (fun x => variableKey? x.1 == some e.1) := by
    rw [List.filter_filter]
    refine List.filter_congr fun x _ => ?_
    unfold isVariable variableKey?
    split <;> simp_all
  have hperm := h.filter (fun x => variableKey? x.1 == some e.1)
  rw [← hfilter, filter_exported he, List.perm_singleton] at hperm
  rw [lastText?, hperm]
  rfl

theorem Holds.selected_eq (h : Holds env c) (table : Entries) :
    ∀ e ∈ c.toEntries, selected env table e.1 = .text e.2.display := by
  intro e he
  rw [selected, h.lastText?_eq he]

theorem readPause_display {n : Int} (h : (Nat.toDigits 10 n.natAbs).length ≤ Number.maxDigits) :
    readPause (.text (Value.int n).display) = .ok n := by
  have htext : (Value.int n).display = String.ofList (Number.integerText n) := rfl
  rw [readPause, htext, String.toList_ofList, Number.readInteger_integerText h]

theorem readSwitch_display (b : Bool) : readSwitch (.text (Value.bool b).display) = b := by
  cases b <;> decide

theorem Converts.eq {value : String → Value} {c' : Settings} (h : Converts value c)
    (h' : Converts value c') : c = c' := by
  have hpause : c.maxWaitMs = c'.maxWaitMs := Except.ok.inj (h.maxWaitMs.symm.trans h'.maxWaitMs)
  cases c
  cases c'
  rw [mk.injEq]
  exact ⟨hpause, h.waitUntil.trans h'.waitUntil.symm, h.polling.trans h'.polling.symm,
    h.stopOnError.trans h'.stopOnError.symm, h.logPrefix.trans h'.logPrefix.symm⟩

/-- Settings are what the texts of their variables are converted to. -/
theorem Holds.converts (h : Holds env c) (table : Entries)
    (hdigits : (Nat.toDigits 10 c.maxWaitMs.natAbs).length ≤ Number.maxDigits) :
    Converts (selected env table) c := by
  have hselected := h.selected_eq table
  simp only [toEntries, List.forall_mem_cons] at hselected
  obtain ⟨hpause, hwaitUntil, hpolling, hstop, hlog, -⟩ := hselected
  exact {
    maxWaitMs := by rw [hpause, readPause_display hdigits]
    waitUntil := by rw [hwaitUntil]; rfl
    polling := by rw [hpolling]; rfl
    stopOnError := by rw [hstop, readSwitch_display]
    logPrefix := by rw [hlog]; rfl }

/-- Settings that an environment holds are read from it as they were, whatever the document's table
has for them. -/
theorem load_exported (h : Holds env c) (htable : HasTable document table)
    (hdigits : (Nat.toDigits 10 c.maxWaitMs.natAbs).length ≤ Number.maxDigits) :
    load document env = .ok c := by
  obtain ⟨es, hload, hvalue⟩ := htable.load_eq_selected env
  have hconverts := h.converts table hdigits
  rw [hload]
  rcases ofEntries_cases es hvalue with
    ⟨c', hc', hconverts', -⟩ | ⟨fault, -, hpause⟩ | ⟨-, key, hkey, hunwritable⟩
  · rw [hc', hconverts'.eq hconverts]
  · rw [hconverts.maxWaitMs] at hpause
    cases hpause
  · have hmem : key ∈ c.toEntries.keys := textKeys_subset c hkey
    obtain ⟨e, he, rfl⟩ := List.mem_map.mp hmem
    rw [h.selected_eq table e he] at hunwritable
    cases hunwritable

/-- Settings with a negative pause and an empty text, among other variables, over a document that
cannot be read by itself. -/
theorem load_exported_negative :
    let document := "[engine]\nmax_wait_ms = 'soon'\n"
    let c : Settings := ⟨-20, " Load ", "", false, "Tests"⟩
    let env := [("ACTION_ENGINE_STOP_ON_ERROR", "False"), ("PATH", "/bin"),
      ("ACTION_ENGINE_DEFAULT_POLLING", ""), ("ACTION_ENGINE_MAX_WAIT_MS", "-20"),
      ("ACTION_ENGINE_LOG_PREFIX", "Tests"), ("ACTION_ENGINE", "yes"),
      ("ACTION_ENGINE_DEFAULT_WAIT_UNTIL", " Load ")]
    Holds env c ∧ HasTable (some document) [("max_wait_ms", .text "soon")] ∧
      load (some document) env = .ok c := by
  intro document c env
  have hholds : Holds env c := by decide +kernel
  have hread : Toml.read document.toList =
      .ok [("engine", .object [("max_wait_ms", .text "soon")])] := by
    have hdocument : document.toList = "[engine]\n".toList ++ "max_wait_ms = 'soon'\n".toList := by
      decide +kernel
    have hpause : Toml.readStatement (.engine []) (Toml.skipSpace "max_wait_ms = 'soon'\n".toList) =
        .ok (.engine [("max_wait_ms", .text "soon")], ['\n']) :=
      Toml.readStatement_scalar (by decide) rfl rfl rfl rfl
    rw [hdocument]
    refine Toml.read_engine (by decide) 1 (by decide) fun _ => ?_
    rw [Toml.readStatements_line hpause rfl, Toml.readStatements_end rfl rfl]
    rfl
  have htable : HasTable (some document) [("max_wait_ms", .text "soon")] := .of_read hread
  exact ⟨hholds, htable, load_exported hholds htable (by decide)⟩

end Walkthrough.Settings
