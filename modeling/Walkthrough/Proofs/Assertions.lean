import Mathlib.Data.List.Forall2
import Walkthrough.Assertions

/-!
The summary of results, which are handed in as they are or as objects: it has one record for each
entry that is an assertion with a verdict, in order, whatever stands between these, and its figures
are those of its records.
-/
namespace Walkthrough

theorem isAssertion_iff {name : String} :
    isAssertion name = true ↔ "assert".toList <+: name.toList :=
  List.isPrefixOf_iff_prefix

theorem AssertionRecord.of?_eq_some_iff {action result label : Value} {r : AssertionRecord} :
    of? action result label = some r ↔ ∃ name verdict, action = .text name ∧
      result = .object verdict ∧ "assert".toList <+: name.toList ∧
      r = ⟨name, (Entries.getD verdict "passed").truthy, Entries.getD verdict "message",
        label⟩ := by
  unfold of?
  split
  next name verdict =>
    constructor
    · intro h
      split at h
      next hname =>
        exact ⟨name, verdict, rfl, rfl, isAssertion_iff.mp hname, (Option.some.inj h).symm⟩
      · cases h
    · rintro ⟨_, _, ⟨⟩, ⟨⟩, hname, rfl⟩
      rw [if_pos (isAssertion_iff.mpr hname)]
  next hnot =>
    refine iff_of_false nofun ?_
    rintro ⟨name, verdict, rfl, rfl, -⟩
    exact hnot name verdict rfl rfl

theorem AssertionRecord.of?_eq_none_iff {action result label : Value} :
    of? action result label = none ↔
      (∀ name, action = .text name → ¬"assert".toList <+: name.toList) ∨
        ∀ verdict, result ≠ .object verdict := by
  rw [← not_iff_not, ← ne_eq, Option.ne_none_iff_exists']
  simp only [of?_eq_some_iff]
  push Not
  constructor
  · rintro ⟨r, name, verdict, haction, hresult, hname, -⟩
    exact ⟨⟨name, haction, hname⟩, verdict, hresult⟩
  · rintro ⟨⟨name, haction, hname⟩, verdict, hresult⟩
    exact ⟨_, name, verdict, haction, hresult, hname, rfl⟩

namespace StepResult
variable {key k : String} {v : Value} {es : Entries}

theorem get?_entry_append_of_ne (h : key ≠ k) : Entries.get? (entry key v ++ es) k = es.get? k := by
  cases v <;> simp [entry, Entries.get?_cons, h]

theorem getD_entry_append_self (h : es.get? key = none) :
    Entries.getD (entry key v ++ es) key = v := by
  cases v <;> simp [entry, Entries.getD, Entries.get?_cons, h]

/-- In the object that stands for a result, its number comes after its action, and is passed
over. -/
theorem getD_toEntries (r : StepResult) (haction : key ≠ "action") (hindex : key ≠ "stepIndex") :
    Entries.getD r.toEntries key =
      Entries.getD (entry "label" r.label ++ ([("success", .bool r.success),
        ("duration", .int r.duration)] ++ (entry "result" r.result ++
          (entry "error" (.ofText? r.error) ++ [])))) key := by
  unfold toEntries Entries.getD
  cases r.stepIndex <;>
    simp [Entries.get?_cons, haction.symm, hindex.symm]

theorem getD_toEntries_result (r : StepResult) : Entries.getD r.toEntries "result" = r.result := by
  rw [getD_toEntries r (by decide) (by decide), Entries.getD, get?_entry_append_of_ne (by decide)]
  exact getD_entry_append_self (get?_entry_append_of_ne (by decide))

theorem getD_toEntries_label (r : StepResult) : Entries.getD r.toEntries "label" = r.label := by
  rw [getD_toEntries r (by decide) (by decide)]
  refine getD_entry_append_self ?_
  exact (get?_entry_append_of_ne (by decide)).trans (get?_entry_append_of_ne (by decide))

end StepResult

namespace StepEntry

/-- What an entry gives: an action, a result and a label, as they are or under the keys of an
object, null for what is not there. -/
inductive Gives : StepEntry → (action result label : Value) → Prop
  | result (r : StepResult) : Gives (.result r) r.action r.result r.label
  | wire (es : Entries) :
    Gives (.wire (.object es)) (Entries.getD es "action") (Entries.getD es "result")
      (Entries.getD es "label")

/-- An entry stands for a result. -/
def IsFormOf (e : StepEntry) (r : StepResult) : Prop := e.Gives r.action r.result r.label

/-- An entry is an assertion that came to a verdict, with such a record. -/
structure HasRecord (e : StepEntry) (r : AssertionRecord) (verdict : Entries) : Prop where
  gives : e.Gives (.text r.action) (.object verdict) r.label
  action : "assert".toList <+: r.action.toList
  passed : r.passed = (Entries.getD verdict "passed").truthy
  message : r.message = Entries.getD verdict "message"

/-- An entry is no assertion, or has no verdict. -/
def IsIgnored (e : StepEntry) : Prop :=
  ∃ action result label, e.Gives action result label ∧
    ((∀ name, action = .text name → ¬"assert".toList <+: name.toList) ∨
      ∀ verdict, result ≠ .object verdict)

variable {e : StepEntry} {r : AssertionRecord} {action result label : Value}

/-- The object that stands for a result gives what the result does. -/
theorem isFormOf_toEntries (r : StepResult) : IsFormOf (.wire (.object r.toEntries)) r := by
  have hgives : Gives (.wire (.object r.toEntries)) r.action _ _ := .wire r.toEntries
  rwa [StepResult.getD_toEntries_result, StepResult.getD_toEntries_label] at hgives

theorem record?_of_gives (h : e.Gives action result label) :
    e.record? = .ok (AssertionRecord.of? action result label) := by
  cases h <;> rfl

theorem exists_gives_of_record? {r? : Option AssertionRecord} (h : e.record? = .ok r?) :
    ∃ action result label, e.Gives action result label ∧
      r? = AssertionRecord.of? action result label := by
  unfold record? at h
  split at h
  next r => exact ⟨_, _, _, .result r, (Except.ok.inj h).symm⟩
  next es => exact ⟨_, _, _, .wire es, (Except.ok.inj h).symm⟩
  · cases h

theorem record?_eq_some_iff : e.record? = .ok (some r) ↔ ∃ verdict, e.HasRecord r verdict := by
  constructor
  · intro h
    obtain ⟨action, result, label, hgives, hof⟩ := exists_gives_of_record? h
    obtain ⟨name, verdict, rfl, rfl, hname, rfl⟩ := AssertionRecord.of?_eq_some_iff.mp hof.symm
    exact ⟨verdict, hgives, hname, rfl, rfl⟩
  · rintro ⟨verdict, hgives, hname, hpassed, hmessage⟩
    rw [record?_of_gives hgives, AssertionRecord.of?_eq_some_iff.mpr]
    exact ⟨r.action, verdict, rfl, rfl, hname, by rw [← hpassed, ← hmessage]⟩

theorem record?_eq_none_iff : e.record? = .ok none ↔ e.IsIgnored := by
  constructor
  · intro h
    obtain ⟨action, result, label, hgives, hof⟩ := exists_gives_of_record? h
    exact ⟨action, result, label, hgives, AssertionRecord.of?_eq_none_iff.mp hof.symm⟩
  · rintro ⟨action, result, label, hgives, hignored⟩
    rw [record?_of_gives hgives, AssertionRecord.of?_eq_none_iff.mpr hignored]

/-- The same entries, with others between them that are ignored. -/
inductive IsSpread : List StepEntry → List StepEntry → Prop
  | nil : IsSpread [] []
  | keep {es fs : List StepEntry} (e : StepEntry) (h : IsSpread es fs) :
    IsSpread (e :: es) (e :: fs)
  | ignored {es fs : List StepEntry} {e : StepEntry} (he : e.IsIgnored) (h : IsSpread es fs) :
    IsSpread es (e :: fs)

end StepEntry

namespace AssertionSummary
variable {e : StepEntry} {es fs : List StepEntry} {s : AssertionSummary}

/-- The records of entries, in order: one for each that is an assertion with a verdict. -/
inductive Lists : List StepEntry → List AssertionRecord → Prop
  | nil : Lists [] []
  | record {e : StepEntry} {es : List StepEntry} {r : AssertionRecord} {verdict : Entries}
    {rs : List AssertionRecord} (he : e.HasRecord r verdict) (h : Lists es rs) :
    Lists (e :: es) (r :: rs)
  | ignored {e : StepEntry} {es : List StepEntry} {rs : List AssertionRecord} (he : e.IsIgnored)
    (h : Lists es rs) : Lists (e :: es) rs

/-- The figures of a summary are those of its records. -/
structure AddsUp (s : AssertionSummary) : Prop where
  total : s.total = s.records.length
  passed_add_failed : s.passed + s.failed = s.total
  allPassed_iff : s.allPassed = true ↔ s.failed = 0
  failed_eq_zero_iff : s.failed = 0 ↔ s.firstFailure? = none
  firstFailure_iff : ∀ r, s.firstFailure? = some r ↔ ∃ before after,
    s.records = before ++ r :: after ∧ r.passed = false ∧ ∀ a ∈ before, a.passed = true

theorem ofEntries_cons (e : StepEntry) (es : List StepEntry) :
    ofEntries (e :: es) = do
      let r? ← e.record?
      let s ← ofEntries es
      return ⟨r?.toList ++ s.records⟩ := by
  rw [ofEntries]
  cases e.record? with
  | error f => rfl
  | ok r? =>
    cases ofEntries es <;> rfl

theorem ofEntries_append (es fs : List StepEntry) :
    ofEntries (es ++ fs) = do
      let s ← ofEntries es
      let t ← ofEntries fs
      return ⟨s.records ++ t.records⟩ := by
  induction es with
  | nil =>
    cases hfs : ofEntries fs <;> simp [ofEntries, bind, Except.bind, hfs, pure, Except.pure]
  | cons e es ih =>
    rw [List.cons_append, ofEntries_cons, ofEntries_cons, ih]
    simp [bind_assoc]

theorem ofEntries_of_isSpread (h : StepEntry.IsSpread es fs) : ofEntries fs = ofEntries es := by
  induction h with
  | nil => rfl
  | keep e _ ih => rw [ofEntries_cons, ofEntries_cons, ih]
  | @ignored es fs e he _ ih =>
    rw [ofEntries_cons, StepEntry.record?_eq_none_iff.mpr he, ← ih]
    cases ofEntries fs <;> rfl

/-- The summary of entries lists their records, and there is none where one of them is neither a
result nor an object. -/
theorem ofEntries_eq_ok_iff : ofEntries es = .ok s ↔ Lists es s.records := by
  constructor
  · intro h
    induction es generalizing s with
    | nil =>
      obtain rfl : s = ⟨[]⟩ := (Except.ok.inj h).symm
      exact .nil
    | cons e es ih =>
      rw [ofEntries] at h
      split at h
      · cases h
      next r? hrecord =>
        split at h
        · cases h
        next t ht =>
          obtain rfl := Except.ok.inj h
          cases r? with
          | none => exact .ignored (StepEntry.record?_eq_none_iff.mp hrecord) (ih ht)
          | some r =>
            obtain ⟨verdict, hr⟩ := StepEntry.record?_eq_some_iff.mp hrecord
            exact .record hr (ih ht)
  · intro h
    obtain ⟨records⟩ := s
    dsimp only at h
    induction h with
    | nil => rfl
    | record he _ ih => rw [ofEntries_cons, StepEntry.record?_eq_some_iff.mpr ⟨_, he⟩, ih]; rfl
    | ignored he _ ih => rw [ofEntries_cons, StepEntry.record?_eq_none_iff.mpr he, ih]; rfl

theorem ofEntries_of_forms {rs : List StepResult} (h : List.Forall₂ StepEntry.IsFormOf es rs) :
    ofEntries es = .ok (ofResults rs) := by
  induction h with
  | nil => rfl
  | @cons e r es rs he _ ih =>
    rw [ofEntries_cons, StepEntry.record?_of_gives he, ih]
    simp only [ofResults, List.filterMap_cons]
    cases AssertionRecord.of? r.action r.result r.label <;> rfl

theorem failed_eq_zero_iff (s : AssertionSummary) :
    s.failed = 0 ↔ ∀ r ∈ s.records, r.passed = true := by
  rw [failed, Nat.sub_eq_zero_iff_le, total, passed, ← List.countP_eq_length_filter]
  exact ⟨fun h => List.countP_eq_length.mp (Nat.le_antisymm List.countP_le_length h),
    fun h => Nat.le_of_eq (List.countP_eq_length.mpr h).symm⟩

theorem addsUp (s : AssertionSummary) : s.AddsUp where
  total := rfl
  passed_add_failed := Nat.add_sub_cancel' (List.length_filter_le _ _)
  allPassed_iff := by rw [allPassed, beq_iff_eq]
  failed_eq_zero_iff := by
    rw [failed_eq_zero_iff, firstFailure?, List.find?_eq_none]
    simp
  firstFailure_iff r := by
    rw [firstFailure?, List.find?_eq_some_iff_append]
    constructor
    · rintro ⟨hr, before, after, hsplit, hbefore⟩
      exact ⟨before, after, hsplit, by simpa using hr, by simpa using hbefore⟩
    · rintro ⟨before, after, hsplit, hr, hbefore⟩
      exact ⟨by simpa using hr, before, after, hsplit, by simpa using hbefore⟩

/-- Results are summed up alike in every form, by themselves and as objects; what is ignored may
stand anywhere between them, the summary of a concatenation is that of its parts one after the
other, and its figures are those of the records that the entries have. -/
theorem ofEntries_alike :
    (∀ r : StepResult, StepEntry.IsFormOf (.result r) r ∧
      StepEntry.IsFormOf (.wire (.object r.toEntries)) r) ∧
    (∀ (es : List StepEntry) (rs : List StepResult), List.Forall₂ StepEntry.IsFormOf es rs →
      ofEntries es = .ok (ofResults rs)) ∧
    (∀ es fs, StepEntry.IsSpread es fs → ofEntries fs = ofEntries es) ∧
    (∀ es fs, ofEntries (es ++ fs) = do
      let s ← ofEntries es
      let t ← ofEntries fs
      return ⟨s.records ++ t.records⟩) ∧
    (∀ es s, ofEntries es = .ok s ↔ Lists es s.records) ∧
    ∀ s : AssertionSummary, s.AddsUp :=
  ⟨fun r => ⟨.result r, StepEntry.isFormOf_toEntries r⟩, fun _ _ => ofEntries_of_forms,
    fun _ _ => ofEntries_of_isSpread, ofEntries_append, fun _ _ => ofEntries_eq_ok_iff, addsUp⟩

/-- A verdict that passes by a zero, once as an object and once as it is, around a click. -/
theorem ofEntries_alike_mixed :
    let click : StepResult := ⟨true, .text "click", 3, .null, none, some 1, .text "Step 1"⟩
    let check : StepResult :=
      ⟨true, .text "assertText", 2, .object [("passed", .int 0)], none, none, .null⟩
    let wire : StepEntry := .wire (.object check.toEntries)
    List.Forall₂ StepEntry.IsFormOf [wire, .result click, .result check] [check, click, check] ∧
      ofEntries [wire, .result click, .result check] = .ok (ofResults [check, click, check]) ∧
      StepEntry.IsSpread [wire, .result check] [wire, .result click, .result check] ∧
      ofEntries [wire, .result click, .result check] = ofEntries [wire, .result check] ∧
      Lists [wire, .result check] (ofResults [check, check]).records ∧
      (ofResults [check, click, check]).failed = 2 := by
  intro click check wire
  obtain ⟨hform, hforms, hspread, -, hlists, -⟩ := ofEntries_alike
  have hclick : StepEntry.IsIgnored (.result click) :=
    ⟨_, _, _, .result click, .inr nofun⟩
  have hall : List.Forall₂ StepEntry.IsFormOf [wire, .result click, .result check]
      [check, click, check] :=
    .cons (hform check).2 (.cons (hform click).1 (.cons (hform check).1 .nil))
  have hwithin : StepEntry.IsSpread [wire, .result check] [wire, .result click, .result check] :=
    .keep wire (.ignored hclick (.keep _ .nil))
  exact ⟨hall, hforms _ _ hall, hwithin, hspread _ _ hwithin, (hlists _ _).mp rfl, rfl⟩

end AssertionSummary

end Walkthrough
