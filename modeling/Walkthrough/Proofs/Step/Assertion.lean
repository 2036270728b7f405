import Walkthrough.Assertions
import Walkthrough.Proofs.Step.Result
import Walkthrough.Proofs.Value.Entries

/-!
An assertion that is performed to its end has come to a verdict, whatever the page answered: it
gives an object that says whether it passed.
-/
namespace Walkthrough

/-- An object that says whether something passed. -/
def Value.IsVerdict (v : Value) : Prop :=
  ∃ es passed, v = .object es ∧ Entries.get? es "passed" = some (.bool passed)

def Value.namesAssertion : Value → Bool
  | .text name => isAssertion name
  | _ => false

theorem Verdict.toValue_isVerdict (v : Verdict) : v.toValue.IsVerdict :=
  ⟨_, v.passed, rfl, rfl⟩

/-- What a script returns is passed on only if it is a verdict itself. -/
theorem Verdict.ofScript_isVerdict (value : Value) (message : Option String) :
    (ofScript value message).IsVerdict := by
  unfold ofScript
  split
  · exact toValue_isVerdict _
  · rename_i es
    split
    · rename_i b hb
      exact ⟨es, b, rfl, Entries.get?_of_getD hb nofun⟩
    · exact toValue_isVerdict _
  · exact toValue_isVerdict _

theorem Action.kind_of_read {kind : ActionKind} {es : Entries} {a : Action}
    (h : read kind es = .ok a) : a.kind = kind := by
  obtain ⟨⟨label, fields⟩, -, rfl⟩ := map_eq_ok_iff.mp h
  rfl

/-- An action goes by the name that it was read under. -/
theorem Action.actionName?_of_ofValue {v : Value} {a : Action} (h : ofValue v = .ok a) :
    v.actionName? = some a.name := by
  cases v with
  | object es =>
    unfold ofValue at h
    cases hkind : (Value.object es).actionKind? with
    | none => simp [hkind] at h
    | some kind =>
      obtain ⟨name, hname, hlookup⟩ := Option.bind_eq_some_iff.mp hkind
      have hread : read kind es = .ok a := by
        simp only [hkind] at h
        cases hr : read kind es with
        | error fs =>
          rw [hr] at h
          cases h
        | ok b =>
          rw [hr] at h
          exact congrArg Except.ok (Except.ok.inj h)
      rw [hname, Action.name, kind_of_read hread, ActionKind.name_of_ofName? hlookup]
  | _ => cases h

namespace StepAct
variable {α β : Type} {P : α → Prop}

/-- What is answered, if the act does not fail, satisfies a condition. -/
def Answers (P : α → Prop) (x : StepAct α) : Prop :=
  ∀ s a s', x s = .ok a s' → P a

namespace Answers

theorem pure {a : α} (h : P a) : Answers P (Pure.pure a) := by
  intro s b s' hb
  cases hb
  exact h

theorem throw (f : StepFault) : Answers P (MonadExcept.throw f) := by
  intro s b s' hb
  cases hb

theorem bind (x : StepAct β) {f : β → StepAct α} (h : ∀ b, Answers P (f b)) :
    Answers P (x >>= f) := by
  intro s a s' ha
  rcases bind_cases x f s with ⟨b, t, -, hbind⟩ | ⟨e, t, -, hbind⟩
  · rw [hbind] at ha
    exact h b t a s' ha
  · rw [hbind] at ha
    cases ha

end Answers
end StepAct

namespace Step
open StepAct (Answers)

theorem judge_answers [Pattern.Host] (what actual pattern : String) (message : Option String)
    (strict : Option Bool) :
    Answers Value.IsVerdict (judge what actual pattern message strict) := by
  unfold judge
  split
  · exact .pure (Verdict.toValue_isVerdict _)
  · exact .throw _

theorem give_answers (v : Except Unwritable Verdict) : Answers Value.IsVerdict (give v) := by
  cases v with
  | ok v => exact .pure v.toValue_isVerdict
  | error f => exact .throw _

theorem judgeSelector_answers (page : PageHandle) (selector : String) (message : Option String)
    (visible : Option Bool) (expected : Option Int) :
    Answers Value.IsVerdict (judgeSelector page selector message visible expected) := by
  refine .bind _ fun count => ?_
  cases expected with
  | some n => exact give_answers _
  | none =>
    dsimp only
    split
    · split <;> exact .bind _ fun shown => .pure (Verdict.toValue_isVerdict _)
    · exact give_answers _

theorem perform_answers [Pattern.Host] (page : PageHandle) (s : Settings) {a : Action}
    (h : isAssertion a.name = true) : Answers Value.IsVerdict (perform page s a) := by
  obtain ⟨kind, label, fields⟩ := a
  replace h : isAssertion kind.name = true := h
  cases kind with
  | assert =>
    obtain ⟨script, message, ⟨⟩⟩ := fields
    exact .bind _ fun value => .pure (Verdict.ofScript_isVerdict value message)
  | assertSelector =>
    obtain ⟨selector, message, visible, count, ⟨⟩⟩ := fields
    exact judgeSelector_answers page selector message visible count
  | assertText =>
    obtain ⟨selector, text, message, contains, strict, ⟨⟩⟩ := fields
    refine .bind _ fun content => ?_
    cases content with
    | none => exact .pure (Verdict.toValue_isVerdict _)
    | some content => exact .pure (Verdict.toValue_isVerdict _)
  | assertUrl =>
    obtain ⟨pattern, message, strict, ⟨⟩⟩ := fields
    exact .bind _ fun url => judge_answers "URL" url pattern message strict
  | assertTitle =>
    obtain ⟨pattern, message, strict, ⟨⟩⟩ := fields
    exact .bind _ fun title => judge_answers "Title" title pattern message strict
  | _ => cases h

theorem attempt_answers [Pattern.Host] (page : PageHandle)
    (settings : Except SettingsFault Settings) {v : Value}
    (h : isAssertion (nameOf v) = true) :
    Answers Value.IsVerdict (attempt page settings (Action.ofValue v)) := by
  cases ha : Action.ofValue v with
  | error f => exact .throw _
  | ok a =>
    cases settings with
    | error f => exact .throw _
    | ok s =>
      have hname : nameOf v = a.name := by rw [nameOf, Action.actionName?_of_ofValue ha]; rfl
      exact perform_answers page s (hname ▸ h)

theorem run_isVerdict [Pattern.Host] {page : PageHandle}
    {settings : Except SettingsFault Settings} {v : Value} {s : Stage}
    (hs : (run page settings v s).1.success = true)
    (hn : (run page settings v s).1.action.namesAssertion = true) :
    (run page settings v s).1.result.IsVerdict := by
  obtain ⟨s', hend⟩ := report_success hs
  unfold run at hn
  rw [report_action] at hn
  exact attempt_answers page settings hn _ _ _ hend

end Step

end Walkthrough
