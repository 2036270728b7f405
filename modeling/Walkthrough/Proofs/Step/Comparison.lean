import Walkthrough.Proofs.Action.Reading
import Walkthrough.Proofs.Pattern.Faults
import Walkthrough.Proofs.Step.Course

/-!
What comes of an assertion about the address or the title, once the page has told it. What is
malformed as a pattern is looked for as it stands, and this is a verdict as any other. Four faults
of a pattern are not, and the step fails by them: a count that is too great, a number that is too
long to be read, switches that clash, and groups that the system finds nested too deeply.
-/
namespace Walkthrough

structure Comparison where
  what : String
  op : PageOp String
  pattern : String
  message : Option String
  /-- Whether the text has to be the pattern itself. -/
  strict : Option Bool

def Action.comparison? : Action → Option Comparison
  | ⟨.assertUrl, _, (pattern, message, strict, ())⟩ =>
    some ⟨"URL", .currentUrl, pattern, message, strict⟩
  | ⟨.assertTitle, _, (pattern, message, strict, ())⟩ =>
    some ⟨"Title", .title, pattern, message, strict⟩
  | _ => none

def Pattern.MatchFault.cause : MatchFault → Fault
  | .oversizedCount => .oversizedCount
  | .longCount digits => .longCount digits
  | .clashingFlags => .clashingFlags
  | .tooDeep report => .tooDeep report

namespace Comparison

/-- A text is as expected: it is the pattern itself, or the pattern occurs in it; what is no pattern
occurs as it stands. -/
def Holds [Pattern.Host] (q : Comparison) (actual : String) : Prop :=
  if q.strict = some true then actual = q.pattern
  else
    match Pattern.read q.pattern.toList with
    | .ok r => r.search actual.toList = true
    | .error _ => q.pattern.toList <:+: actual.toList

/-- The pattern has a fault for which the comparison has no verdict. -/
def IsRefused [Pattern.Host] (q : Comparison) (f : Pattern.MatchFault) : Prop :=
  q.strict ≠ some true ∧ Pattern.read q.pattern.toList = .error f.cause

/-- A comparison has a verdict, unless its pattern is refused. -/
theorem compare_cases [Pattern.Host] (q : Comparison) (actual : String) :
    (∃ matched, Pattern.compare actual q.pattern (q.strict.getD false) = .ok matched ∧
      (matched = true ↔ q.Holds actual) ∧ ∀ f, ¬q.IsRefused f) ∨
    ∃ f, Pattern.compare actual q.pattern (q.strict.getD false) = .error f ∧ q.IsRefused f := by
  by_cases hstrict : q.strict = some true
  · refine .inl ⟨actual == q.pattern, ?_, ?_, fun f hf => hf.1 hstrict⟩
    · rw [Pattern.compare, if_pos (getD_eq_true_iff.mpr hstrict)]
    · rw [Holds, if_pos hstrict, beq_iff_eq]
  · unfold Pattern.compare Holds IsRefused
    rw [if_neg (mt getD_eq_true_iff.mp hstrict), if_neg hstrict]
    cases hread : Pattern.read q.pattern.toList with
    | ok r => exact .inl ⟨_, rfl, Iff.rfl, fun f hf => nomatch hf.2⟩
    | error e =>
      cases e with
      | malformed =>
        refine .inl ⟨_, rfl, Text.occursIn_iff _ _, fun f hf => ?_⟩
        cases f <;> cases hf.2
      | oversizedCount => exact .inr ⟨.oversizedCount, rfl, hstrict, rfl⟩
      | longCount n => exact .inr ⟨.longCount n, rfl, hstrict, rfl⟩
      | clashingFlags => exact .inr ⟨.clashingFlags, rfl, hstrict, rfl⟩
      | tooDeep report => exact .inr ⟨.tooDeep report, rfl, hstrict, rfl⟩

/-- What comes of a comparison with what the page has told. -/
structure Decides [Pattern.Host] (q : Comparison) (actual : String) (r : StepResult) : Prop where
  /-- Unless the pattern is refused there is a verdict, and it is right. -/
  verdict : (∀ f, ¬q.IsRefused f) → r.success = true ∧ r.error = none ∧
    ∃ v : Verdict, r.result = v.toValue ∧ (v.passed = true ↔ q.Holds actual) ∧
      v = .ofMatch q.what actual q.pattern q.message v.passed
  /-- A pattern that is refused holds what it is refused for. -/
  failure : ∀ f, q.IsRefused f → r.success = false ∧ r.result = .null ∧
    r.error = some f.message ∧ f.cause.IsOf q.pattern.toList

end Comparison

theorem Verdict.passed_ofMatch (what actual pattern : String) (message : Option String)
    (matched : Bool) : (ofMatch what actual pattern message matched).passed = matched := by
  cases matched <;> rfl

/-- The plan of an assertion about the address or the title is its comparison. -/
theorem Plan.ofAction_of_comparison? [Pattern.Host] {a : Action} {q : Comparison}
    (h : a.comparison? = some q) (c : Settings) :
    ofAction c a = compared q.what q.op q.pattern q.message q.strict := by
  unfold Action.comparison? at h
  split at h
  · cases h
    rfl
  · cases h
    rfl
  · cases h

namespace Step

section
variable [Pattern.Host] {page : PageHandle} {q : Comparison} {actual : String} {s t : Stage}

theorem report_compared (name : String) (hread : page.call q.op s = .ok actual t) :
    q.Decides actual (report name
      ((Plan.compared q.what q.op q.pattern q.message q.strict).run page) s).1 := by
  have hrun : (Plan.compared q.what q.op q.pattern q.message q.strict).run page s = _ :=
    Plan.run_call_ok hread
  unfold report
  rw [hrun]
  obtain ⟨matched, hcompare, hholds, hnone⟩ | ⟨f, hcompare, hrefused⟩ := q.compare_cases actual
  · rw [hcompare]
    refine ⟨fun _ => ⟨rfl, rfl, _, rfl, ?_, ?_⟩, fun f hf => (hnone f hf).elim⟩
    · rwa [Verdict.passed_ofMatch]
    · rw [Verdict.passed_ofMatch]
  · rw [hcompare]
    refine ⟨fun hnone => (hnone f hrefused).elim, fun g hg => ?_⟩
    have hcause : f.cause = g.cause := Except.error.inj (hrefused.2.symm.trans hg.2)
    obtain rfl : f = g := by
      cases f <;> cases g <;> cases hcause <;> rfl
    exact ⟨rfl, rfl, rfl, Pattern.isOf_of_read_error hrefused.2⟩

/-- An assertion about the address or the title that the page has told comes to a right verdict,
unless it compares by a pattern that is refused: then it fails, and says so. -/
theorem run_decides {v : Value} {a : Action} (ha : Action.ofValue v = .ok a)
    (hq : a.comparison? = some q) (hread : page.call q.op s = .ok actual t) (c : Settings) :
    q.Decides actual (run page (.ok c) v s).1 ∧
      q.Decides actual (runAction page (.ok c) a s).1 := by
  have hdecides : q.Decides actual (runAction page (.ok c) a s).1 := by
    have hperform : attempt page (.ok c) (.ok a) =
        (Plan.compared q.what q.op q.pattern q.message q.strict).run page := by
      rw [← Plan.ofAction_of_comparison? hq c]
      exact Plan.perform_eq page c a
    unfold runAction
    rw [hperform]
    exact report_compared a.name hread
  rw [run_eq_runAction ha]
  exact ⟨hdecides, hdecides⟩

end

open scoped Walkthrough.Pattern.Host

/-- A bracket that nothing closes: what is no pattern is looked for as it stands, and is there. -/
theorem run_decides_bracket :
    let v : Value := .object [("action", .text "assertUrl"), ("pattern", .text "/find(all")]
    let a : Action := ⟨.assertUrl, none, ("/find(all", none, none, ())⟩
    let q : Comparison := ⟨"URL", .currentUrl, "/find(all", none, none⟩
    let s := PageContent.opened ⟨"https://x/find(all)", "", [], []⟩
    let r := (run Stage.handle (.ok .standard) v s).1
    Action.ofValue v = .ok a ∧ a.comparison? = some q ∧
      (∃ t, Stage.handle.call q.op s = .ok "https://x/find(all)" t) ∧
      Pattern.read q.pattern.toList = .error .malformed ∧ q.Decides "https://x/find(all)" r ∧
      r.success = true ∧ r.error = none ∧
      ∃ v : Verdict, r.result = v.toValue ∧ v.passed = true := by
  intro v a q s r
  have hread : Pattern.read q.pattern.toList = .error .malformed := by
    have hfault : (match Pattern.read q.pattern.toList with
        | .ok _ => false
        | .error f => f == .malformed) = true := by decide +kernel
    split at hfault
    · cases hfault
    next f hf => rw [hf, eq_of_beq hfault]
  have hkept : ∀ f, ¬q.IsRefused f := by
    rintro f ⟨-, hf⟩
    rw [hread] at hf
    cases f <;> cases hf
  have hholds : q.Holds "https://x/find(all)" := by
    rw [Comparison.Holds, if_neg (by decide), hread, ← Text.occursIn_iff]
    decide +kernel
  have hdecides : q.Decides "https://x/find(all)" r :=
    (run_decides (v := v) (a := a) (t := s.enter ⟨"current_url", [], []⟩) rfl rfl rfl .standard).1
  obtain ⟨hsuccess, herror, verdict, hresult, hpassed, -⟩ := hdecides.verdict hkept
  exact ⟨rfl, rfl, ⟨_, rfl⟩, hread, hdecides, hsuccess, herror, verdict, hresult,
    hpassed.mpr hholds⟩

/-- The page has told its address, and yet there is no verdict on it: a count is too great, and the
step fails instead of looking for the text as it stands. -/
theorem no_verdict_for_great_count :
    let v : Value :=
      .object [("action", .text "assertUrl"), ("pattern", .text "a\x7b99999999999\x7d")]
    let a : Action := ⟨.assertUrl, none, ("a\x7b99999999999\x7d", none, none, ())⟩
    let q : Comparison := ⟨"URL", .currentUrl, "a\x7b99999999999\x7d", none, none⟩
    let s := PageContent.opened ⟨"https://x/a", "", [], []⟩
    let r := (run Stage.handle (.ok .standard) v s).1
    Action.ofValue v = .ok a ∧ a.comparison? = some q ∧
      (∃ t, Stage.handle.call q.op s = .ok "https://x/a" t) ∧
      Pattern.read q.pattern.toList = .error .oversizedCount ∧ r.success = false ∧
      r.result = .null ∧ r.error = some "the repetition number is too large" :=
  ⟨rfl, rfl, ⟨_, rfl⟩, rfl, rfl, rfl, rfl⟩

end Step

end Walkthrough
