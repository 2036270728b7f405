import Walkthrough.Proofs.Action.Reading
import Walkthrough.Proofs.Step.Course
import Walkthrough.Proofs.Text.Trim

/-!
What comes of an assertion about the text of an element that the page has told: a verdict on what
stands between the blanks around the text. More blanks change nothing about it, and where it has
passed, an assertion that asks for no more passes too.
-/
namespace Walkthrough

theorem Verdict.passed_ite (p : Prop) [Decidable p] (yes no : String) :
    (if p then (⟨true, yes⟩ : Verdict) else ⟨false, no⟩).passed = true ↔ p := by
  by_cases h : p
  · rw [if_pos h]
    exact iff_of_true rfl h
  · rw [if_neg h]
    exact iff_of_false Bool.false_ne_true h

structure TextCheck where
  selector : String
  expected : String
  message : Option String
  contains : Option Bool
  /-- Whether the text has to be the expected one itself. -/
  strict : Option Bool

namespace TextCheck
variable {q q' : TextCheck} {core content : String}

def toAction (q : TextCheck) (label : Option String) : Action :=
  ⟨.assertText, label, (q.selector, q.expected, q.message, q.contains, q.strict, ())⟩

/-- What stands between blanks is as expected: it is the expected text, or holds it. -/
def Holds (q : TextCheck) (core : String) : Prop :=
  if q.strict = some true then core = q.expected else q.expected.toList <:+: core.toList

/-- The first assertion asks for no more than the second does, about the same element. -/
structure AsksNoMore (q' q : TextCheck) : Prop where
  selector : q'.selector = q.selector
  strict : q'.strict ≠ some true
  expected : q'.expected.toList <:+: q.expected.toList

theorem Holds.of_asksNoMore (h : q.Holds core) (hless : q'.AsksNoMore q) : q'.Holds core := by
  have hheld : q.expected.toList <:+: core.toList := by
    unfold Holds at h
    split at h
    · rw [h]
    · exact h
  rw [Holds, if_neg hless.strict]
  exact hless.expected.trans hheld

def verdict (q : TextCheck) (content : String) : Verdict :=
  .ofText content q.expected (q.strict.getD false)

theorem passed_verdict_iff : (q.verdict content).passed = true ↔ q.Holds (Text.strip content) := by
  unfold verdict Verdict.ofText Holds
  by_cases hstrict : q.strict = some true
  · rw [if_pos (getD_eq_true_iff.mpr hstrict), if_pos hstrict]
    exact Verdict.passed_ite ..
  · rw [if_neg (mt getD_eq_true_iff.mp hstrict), if_neg hstrict, ← Text.occursIn_iff]
    exact Verdict.passed_ite ..

theorem verdict_append {before after : String} (hbefore : Text.AllBlank before)
    (hafter : Text.AllBlank after) :
    q.verdict (before ++ content ++ after) = q.verdict content := by
  unfold verdict Verdict.ofText
  rw [Text.strip_append hbefore hafter]

end TextCheck

namespace Field
variable {es : Entries}

/-- A flag is what it is given as: null or nothing for none. -/
theorem read_flag {name : String} {b : Option Bool} (h : es.getD name = .ofBool? b) :
    (may name .flag).read es = .ok b := by
  unfold Entries.getD at h
  cases hget : es.get? name with
  | none =>
    rw [hget] at h
    cases b with
    | none => simp only [read, readOptional, find?, hget, Option.map_none]
    | some b => cases h
  | some v =>
    rw [hget] at h
    obtain rfl : v = .ofBool? b := h
    simp only [read, readOptional, find?, hget]
    cases b <;> rfl

theorem read_scalar {name s : String} (h : es.get? name = some (.text s)) :
    (need name .scalar).read es = .ok s := by
  simp only [read, readRequired, find?, h]
  rfl

end Field

namespace TextCheck
variable {q : TextCheck} {label : Option String} {es es' : Entries}

/-- An object gives all that an assertion asks for. -/
structure IsReadFrom (q : TextCheck) (label : Option String) (es : Entries) : Prop where
  action : es.get? "action" = some (.text ActionKind.assertText.name)
  label : Action.readLabel es = .ok label
  selector : (Field.need "selector" .text).read es = .ok q.selector
  expected : (Field.need "text" .scalar).read es = .ok q.expected
  message : (Field.may "message" .scalar).read es = .ok q.message
  contains : (Field.may "contains" .flag).read es = .ok q.contains
  strict : (Field.may "exact" .flag).read es = .ok q.strict

theorem ofValue_eq_toAction_iff :
    Action.ofValue (.object es) = .ok (q.toAction label) ↔ q.IsReadFrom label es := by
  rw [Action.ofValue_eq_ok_iff]
  constructor
  · rintro ⟨haction, hread⟩
    obtain ⟨label, fields, hlabel, hfields, heq⟩ := Action.read_eq_ok hread
    obtain ⟨selector, expected, message, contains, strict, ⟨⟩⟩ := fields
    cases heq
    obtain ⟨hselector, hfields⟩ := Record.read_cons hfields
    obtain ⟨hexpected, hfields⟩ := Record.read_cons hfields
    obtain ⟨hmessage, hfields⟩ := Record.read_cons hfields
    obtain ⟨hcontains, hfields⟩ := Record.read_cons hfields
    obtain ⟨hstrict, -⟩ := Record.read_cons hfields
    exact ⟨haction, hlabel, hselector, hexpected, hmessage, hcontains, hstrict⟩
  · rintro ⟨haction, hlabel, hselector, hexpected, hmessage, hcontains, hstrict⟩
    refine ⟨haction, ?_⟩
    simp only [Action.read, toAction, ActionKind.fields, Record.read, hlabel, hselector, hexpected,
      hmessage, hcontains, hstrict]
    rfl

/-- With other values under `text` and `exact` the assertion is the same but for what these give. -/
theorem IsReadFrom.changed (h : q.IsReadFrom label es)
    (hsame : ∀ key, key ≠ "text" → key ≠ "exact" → es'.get? key = es.get? key) {expected : String}
    (hexpected : (Field.need "text" .scalar).read es' = .ok expected) {strict : Option Bool}
    (hstrict : (Field.may "exact" .flag).read es' = .ok strict) :
    ({ q with expected, strict } : TextCheck).IsReadFrom label es' where
  action := (hsame _ (by decide) (by decide)).trans h.action
  label := (Action.readLabel_congr (hsame _ (by decide) (by decide))).trans h.label
  selector := (Field.read_of_get?_eq rfl (hsame _ (by decide) (by decide))).trans h.selector
  expected := hexpected
  message := (Field.read_of_get?_eq rfl (hsame _ (by decide) (by decide))).trans h.message
  contains := (Field.read_of_get?_eq rfl (hsame _ (by decide) (by decide))).trans h.contains
  strict := hstrict

end TextCheck

/-- A step has succeeded, and what it gives is a verdict. -/
structure StepResult.HasVerdict (r : StepResult) (v : Verdict) : Prop where
  success : r.success = true
  error : r.error = none
  result : r.result = v.toValue

namespace Step

section
variable [Pattern.Host] {page : PageHandle} {s t : Stage} {es : Entries} {q q' : TextCheck}
  {label : Option String} {content : String}

/-- An object is read as an action that comes to a verdict on a page, whether it is run as it is
written or as it is read. -/
structure Concludes (page : PageHandle) (c : Settings) (s : Stage) (es : Entries) (a : Action)
    (v : Verdict) : Prop where
  reading : Action.ofValue (.object es) = .ok a
  ofObject : (run page (.ok c) (.object es) s).1.HasVerdict v
  ofAction : (runAction page (.ok c) a s).1.HasVerdict v

theorem concludes_verdict (ha : Action.ofValue (.object es) = .ok (q.toAction label))
    (htold : page.call (.textContent q.selector) s = .ok (some content) t) (c : Settings) :
    Concludes page c s es (q.toAction label) (q.verdict content) := by
  have hperform : attempt page (.ok c) (.ok (q.toAction label)) s =
      .ok (q.verdict content).toValue t := by
    change perform page c (q.toAction label) s = _
    rw [Plan.perform_eq]
    exact Plan.run_call_ok htold
  have hread : (runAction page (.ok c) (q.toAction label) s).1.HasVerdict (q.verdict content) := by
    unfold runAction report
    rw [hperform]
    exact ⟨rfl, rfl, rfl⟩
  refine ⟨ha, ?_, hread⟩
  rw [run_eq_runAction ha]
  exact hread

/-- Where an assertion has passed, one that asks for no more passes. -/
theorem exists_concludes_of_asksNoMore
    (htold : page.call (.textContent q.selector) s = .ok (some content) t)
    (hpassed : (q.verdict content).passed = true) (hless : q'.AsksNoMore q)
    (ha : Action.ofValue (.object es) = .ok (q'.toAction label)) (c : Settings) :
    ∃ v, v.passed = true ∧ Concludes page c s es (q'.toAction label) v := by
  have hholds : q'.Holds (Text.strip content) :=
    (TextCheck.passed_verdict_iff.mp hpassed).of_asksNoMore hless
  rw [← hless.selector] at htold
  exact ⟨_, TextCheck.passed_verdict_iff.mpr hholds, concludes_verdict ha htold c⟩

/-- An assertion about the text of an element that the page has told comes to a verdict on what
stands between the blanks around the text, and more blanks make no other verdict of it. If it asks
for the very text and has passed, it passes too where the text has only to hold what is expected;
and if it asks for that alone and has passed, it passes too for any part of what is expected. -/
theorem verdict_kept (ha : Action.ofValue (.object es) = .ok (q.toAction label))
    (htold : page.call (.textContent q.selector) s = .ok (some content) t) (c : Settings) :
    ∃ (core : String) (v : Verdict), Text.IsCore core content ∧
      (v.passed = true ↔ q.Holds core) ∧ Concludes page c s es (q.toAction label) v ∧
      (∀ before after, Text.AllBlank before → Text.AllBlank after →
        ∀ (page' : PageHandle) (c' : Settings) (s' t' : Stage),
          page'.call (.textContent q.selector) s' = .ok (some (before ++ content ++ after)) t' →
          Concludes page' c' s' es (q.toAction label) v) ∧
      (q.strict = some true → v.passed = true → ∀ (strict : Option Bool) (es' : Entries),
        strict ≠ some true → (∀ key ≠ "exact", es'.get? key = es.get? key) →
        es'.getD "exact" = .ofBool? strict →
        ∃ v', v'.passed = true ∧
          Concludes page c s es' (TextCheck.toAction { q with strict } label) v') ∧
      (q.strict ≠ some true → v.passed = true → ∀ (expected : String) (es' : Entries),
        expected.toList <:+: q.expected.toList → (∀ key ≠ "text", es'.get? key = es.get? key) →
        es'.get? "text" = some (.text expected) →
        ∃ v', v'.passed = true ∧
          Concludes page c s es' (TextCheck.toAction { q with expected } label) v') := by
  have hfields := TextCheck.ofValue_eq_toAction_iff.mp ha
  refine ⟨Text.strip content, q.verdict content, Text.isCore_iff.mpr rfl,
    TextCheck.passed_verdict_iff, concludes_verdict ha htold c, ?_, ?_, ?_⟩
  · intro before after hbefore hafter page' c' s' t' htold'
    rw [← TextCheck.verdict_append hbefore hafter]
    exact concludes_verdict ha htold' c'
  · intro _ hpassed strict es' hstrict hsame hgiven
    have hexpected : (Field.need "text" .scalar).read es' = .ok q.expected :=
      (Field.read_of_get?_eq rfl (hsame _ (by decide))).trans hfields.expected
    have hfields' : TextCheck.IsReadFrom { q with strict } label es' :=
      hfields.changed (fun key _ hkey => hsame key hkey) hexpected (Field.read_flag hgiven)
    have hless : TextCheck.AsksNoMore { q with strict } q := ⟨rfl, hstrict, List.infix_rfl⟩
    exact exists_concludes_of_asksNoMore htold hpassed hless
      (TextCheck.ofValue_eq_toAction_iff.mpr hfields') c
  · intro hstrict hpassed expected es' hpart hsame hgiven
    have hexact : (Field.may "exact" .flag).read es' = .ok q.strict :=
      (Field.read_of_get?_eq rfl (hsame _ (by decide))).trans hfields.strict
    have hfields' : TextCheck.IsReadFrom { q with expected } label es' :=
      hfields.changed (fun key hkey _ => hsame key hkey) (Field.read_scalar hgiven) hexact
    have hless : TextCheck.AsksNoMore { q with expected } q := ⟨rfl, hstrict, hpart⟩
    exact exists_concludes_of_asksNoMore htold hpassed hless
      (TextCheck.ofValue_eq_toAction_iff.mpr hfields') c

end

open scoped Walkthrough.Pattern.Host

/-- An amount between blanks of several kinds is the expected number, which is given as a number; it
holds this number, and also a part of it. -/
theorem verdict_kept_amount :
    let es : Entries := [("action", .text "assertText"), ("selector", .text "#total"),
      ("text", .int 420), ("exact", .text "yes")]
    let es' := es.without ["exact"]
    let q : TextCheck := ⟨"#total", "420", none, none, some true⟩
    let content := "\u00a0 420\n"
    let page (text : String) :=
      PageContent.opened ⟨"about:blank", "", [("#total", [⟨some text, true⟩])], []⟩
    Action.ofValue (.object es) = .ok (q.toAction none) ∧
      (∃ t, Stage.handle.call (.textContent "#total") (page content) = .ok (some content) t) ∧
      Text.AllBlank "\u2003" ∧ Text.AllBlank "\x1f\t" ∧
      ∃ v, v.passed = true ∧
        Concludes Stage.handle .standard (page content) es (q.toAction none) v ∧
        Concludes Stage.handle .standard (page ("\u2003" ++ content ++ "\x1f\t")) es
          (q.toAction none) v ∧
        (∃ v', v'.passed = true ∧ Concludes Stage.handle .standard (page content) es'
          (TextCheck.toAction { q with strict := none } none) v') ∧
        ∃ v', v'.passed = true ∧
          Concludes Stage.handle .standard (page content) (es'.set "text" (.text "2"))
            (TextCheck.toAction { q with strict := none, expected := "2" } none) v' := by
  intro es es' q content page
  have hwritten : asWritten (.int 420) = .ok "420" := by
    rw [asWritten, Value.write_of_isWritable (by decide +kernel)]
    rfl
  have hread (es : Entries) (h : es.get? "text" = some (.int 420)) :
      (Field.need "text" .scalar).read es = .ok "420" := by
    simp only [Field.read, Field.readRequired, Field.find?, h, FieldKind.prepare, writtenOut,
      Value.number?, hwritten]
    rfl
  have ha : Action.ofValue (.object es) = .ok (q.toAction none) :=
    TextCheck.ofValue_eq_toAction_iff.mpr ⟨rfl, rfl, rfl, hread es rfl, rfl, rfl, rfl⟩
  have ha' : Action.ofValue (.object es') =
      .ok (TextCheck.toAction { q with strict := none } none) :=
    TextCheck.ofValue_eq_toAction_iff.mpr ⟨rfl, rfl, rfl, hread es' rfl, rfl, rfl, rfl⟩
  have htold (text : String) : Stage.handle.call (.textContent "#total") (page text) =
      .ok (some text) ((page text).enter ⟨"text_content", [.text "#total"], []⟩) := rfl
  have hbefore : Text.AllBlank "\u2003" := List.all_eq_true.mp (by decide +kernel)
  have hafter : Text.AllBlank "\x1f\t" := List.all_eq_true.mp (by decide +kernel)
  have hstrip : Text.strip content = "420" := by decide +kernel
  obtain ⟨core, v, hcore, hpassed, hconcludes, hmore, hless, -⟩ :=
    verdict_kept ha (htold content) .standard
  obtain ⟨core', v', hcore', hpassed', -, -, -, hpart⟩ :=
    verdict_kept ha' (htold content) .standard
  rw [Text.isCore_iff, hstrip] at hcore hcore'
  subst hcore hcore'
  have hv : v.passed = true := hpassed.mpr rfl
  have hv' : v'.passed = true := hpassed'.mpr List.infix_rfl
  have hlax : (none : Option Bool) ≠ some true := by decide
  refine ⟨ha, ⟨_, htold content⟩, hbefore, hafter, v, hv, hconcludes, ?_, ?_, ?_⟩
  · exact hmore _ _ hbefore hafter Stage.handle .standard _ _ (htold _)
  · refine hless rfl hv none es' hlax (fun key hkey => ?_) rfl
    rw [Entries.get?_without, if_neg (by simpa using hkey)]
  · refine hpart hlax hv' "2" _ ⟨['4'], ['0'], by decide +kernel⟩ (fun key hkey => ?_) rfl
    rw [Entries.get?_set, if_neg (by simpa using hkey.symm)]

end Step

end Walkthrough
