import Walkthrough.Proofs.Report
import Walkthrough.Proofs.Text.Infix

/-!
When the message of a report ends with the known types of action: that is decided by a phrase in the
errors, which is there if a step names an unknown type, or if the label of a rejected step has it.
-/
namespace Walkthrough

/-- The value is an object that names a type of action, but none that is known. -/
def Value.NamesUnknownType (v : Value) : Prop :=
  ∃ es name, v = .object es ∧ v.field "action" = .text name ∧ name ≠ "" ∧
    ActionKind.ofName? name = none

def ActionError.phrase : List Char := "Unknown action type".toList

/-- The value is no action that can be performed, and its label has the phrase that tells an unknown
type. -/
def Value.IsMislabelled (v : Value) : Prop :=
  (¬∃ kind : ActionKind, kind.Admits v) ∧ (v.field "label").truthy = true ∧
    ActionError.phrase <:+: (v.field "label").display.toList

namespace ActionError

/-- Why a value is rejected, by what it has and lacks. -/
inductive IsAbout (v : Value) : ActionError → Prop
  | notAnObject : IsAbout v .notAnObject
  | noName : IsAbout v .noName
  | unknownType {name : String} (h : v.NamesUnknownType) : IsAbout v (.unknownType name)
  | missingFields {kind : ActionKind} {fields : List String} (hne : fields ≠ [])
    (hfields : ∀ f ∈ fields, f ∈ kind.schema.required) : IsAbout v (.missingFields kind.name fields)

end ActionError

theorem checkAction_isAbout {v : Value} {e : ActionError} (h : checkAction v = .error e) :
    e.IsAbout v := by
  unfold checkAction at h
  split at h
  next es =>
    split at h
    next name hname =>
      split at h
      · cases h
        exact .noName
      next hne =>
        split at h
        next hkind =>
          cases h
          exact .unknownType ⟨es, name, rfl, hname, hne, hkind⟩
        next kind hkind =>
          dsimp only at h
          split at h
          · cases h
          next hmissing =>
            cases h
            rw [← ActionKind.name_of_ofName? hkind]
            exact .missingFields (by simpa using hmissing) fun f hf => List.mem_of_mem_filter hf
    · cases h
      exact .noName
  · cases h
    exact .notAnObject

theorem Value.NamesUnknownType.checkAction {v : Value} (h : v.NamesUnknownType) :
    ∃ name, checkAction v = .error (.unknownType name) := by
  obtain ⟨es, name, rfl, hname, hne, hkind⟩ := h
  exact ⟨name, by simp only [Walkthrough.checkAction, hname, if_neg hne, hkind]⟩

namespace ActionError
open Text

theorem phrase_eq : phrase = 'U' :: "nknown action type".toList := by decide

theorem phrase_infix_append_iff {p q : List Char} (hp : 'U' ∉ p) :
    phrase <:+: p ++ q ↔ phrase <:+: q := by
  rw [phrase_eq]
  exact infix_append_iff_of_head hp

theorem phrase_infix_quote_iff {p q : List Char} :
    phrase <:+: p ++ '"' :: q ↔ phrase <:+: p ∨ phrase <:+: q :=
  infix_append_cons_iff (by decide) (by decide)

theorem not_holds_phrase {p : List Char} (hp : 'U' ∉ p) : ¬phrase <:+: p :=
  fun h => hp (h.subset (by decide))

/-- Of the messages with which values are rejected, only that about an unknown type has the
phrase. -/
theorem IsAbout.phrase_infix_iff {v : Value} {e : ActionError} (h : e.IsAbout v) :
    phrase <:+: e.message.toList ↔ ∃ name, e = .unknownType name := by
  cases h with
  | notAnObject => exact iff_of_false (not_holds_phrase (by decide +kernel)) nofun
  | noName => exact iff_of_false (not_holds_phrase (by decide +kernel)) nofun
  | @unknownType name h =>
    have hbegin : phrase <+: "Unknown action type \"".toList := by decide
    have hmessage : "Unknown action type \"".toList <+:
        (ActionError.unknownType name).message.toList := by
      change _ <+: (_ ++ name ++ _ ++ _ : String).toList
      rw [String.toList_append, String.toList_append, String.toList_append, List.append_assoc,
        List.append_assoc]
      exact List.prefix_append _ _
    exact iff_of_true (hbegin.trans hmessage).isInfix ⟨name, rfl⟩
  | @missingFields kind fields hne hfields =>
    refine iff_of_false ?_ nofun
    have hname : ¬phrase <:+: kind.name.toList := by cases kind <;> decide
    have hrequired : ∀ f ∈ kind.schema.required, 'U' ∉ f.toList := by cases kind <;> decide
    have hlist : 'U' ∉ " requires field(s): ".toList ++ (", ".intercalate fields).toList := by
      rw [List.mem_append, String.toList_intercalate]
      rintro (hU | hU)
      · exact absurd hU (by decide)
      · obtain hsep | ⟨l, hl, hmem⟩ := mem_intercalate hU
        · exact absurd hsep (by decide)
        · obtain ⟨f, hf, rfl⟩ := List.mem_map.mp hl
          exact hrequired f (hfields f hf) hmem
    have hmessage : (ActionError.missingFields kind.name fields).message.toList =
        "Action ".toList ++ '"' :: (kind.name.toList ++ '"' ::
          (" requires field(s): ".toList ++ (", ".intercalate fields).toList)) := by
      change (_ ++ kind.name ++ _ ++ _ : String).toList = _
      rw [String.toList_append, String.toList_append, String.toList_append, List.append_assoc,
        List.append_assoc]
      rfl
    rw [hmessage, phrase_infix_quote_iff, phrase_infix_quote_iff]
    rintro (hwithin | hwithin | hwithin)
    · exact not_holds_phrase (by decide) hwithin
    · exact hname hwithin
    · exact not_holds_phrase hlist hwithin

end ActionError

theorem checkAction_eq_error_iff {v : Value} :
    (∃ e, checkAction v = .error e) ↔ ¬∃ kind : ActionKind, kind.Admits v := by
  rw [← checkAction_eq_ok_iff]
  cases checkAction v <;> simp

theorem unknownType_iff {v : Value} {e : ActionError} (h : checkAction v = .error e) :
    (∃ name, e = .unknownType name) ↔ v.NamesUnknownType := by
  constructor
  · rintro ⟨name, rfl⟩
    cases checkAction_isAbout h
    assumption
  · intro hv
    obtain ⟨name, hname⟩ := hv.checkAction
    exact ⟨name, Except.error.inj (h.symm.trans hname)⟩

/-- An error of a step has the phrase because of what is wrong, or because of the step's label. -/
theorem phrase_infix_error_iff {v : Value} {e : ActionError} (h : checkAction v = .error e)
    (index : Nat) :
    ActionError.phrase <:+: (titleText v index ++ ": " ++ e.message).toList ↔
      v.NamesUnknownType ∨ v.IsMislabelled := by
  have hadmits : ¬∃ kind : ActionKind, kind.Admits v := checkAction_eq_error_iff.mp ⟨e, h⟩
  have hmessage := (checkAction_isAbout h).phrase_infix_iff.trans (unknownType_iff h)
  have htail : ActionError.phrase <:+: ": ".toList ++ e.message.toList ↔ v.NamesUnknownType :=
    (ActionError.phrase_infix_append_iff (by decide)).trans hmessage
  rw [String.toList_append, String.toList_append, List.append_assoc, titleText]
  cases hlabel : (v.field "label").truthy with
  | true =>
    have htitle : ("\"" ++ (v.field "label").display ++ "\"").toList ++
        (": ".toList ++ e.message.toList) = ['"'] ++ ((v.field "label").display.toList ++
          '"' :: (": ".toList ++ e.message.toList)) := by
      rw [String.toList_append, String.toList_append, List.append_assoc, List.append_assoc]
      rfl
    rw [if_pos rfl, htitle, ActionError.phrase_infix_append_iff (by decide),
      ActionError.phrase_infix_quote_iff, htail, or_comm]
    simp only [Value.IsMislabelled, hadmits, hlabel, not_false_eq_true, true_and]
  | false =>
    have hnumber : 'U' ∉ (stepNumber index).toList := by
      rw [stepNumber_natCast, String.toList_append, List.mem_append]
      rintro (hU | hU)
      · exact absurd hU (by decide)
      · rw [Nat.toString_eq_ofList_toDigits, String.toList_ofList] at hU
        exact absurd (Nat.isDigit_of_mem_toDigits (by decide) (by decide) hU) (by decide)
    rw [if_neg Bool.false_ne_true, ActionError.phrase_infix_append_iff hnumber, htail]
    simp only [Value.IsMislabelled, hlabel, Bool.false_eq_true, false_and, and_false, or_false]

namespace Report
open Text

/-- The list of types that may end the message of a report. -/
def knownTypes : String := "Known action types: " ++ ", ".intercalate ActionKind.names

/-- The message of a report on steps without the list of types: how many of them are rejected, and
their errors. -/
def plainMessage (rejected : Nat) (errors : List String) : String :=
  s!"Script validation failed with {rejected} error(s):\n" ++ "; ".intercalate errors

def plainMessageOn (verdicts : List ActionVerdict) : String :=
  plainMessage (verdicts.countP fun r => !r.valid) (verdicts.filterMap (·.error))

/-- The message of a report on steps and their verdicts: none if all of them can be performed, and
otherwise the plain one. The known types are listed after it if a step names an unknown type, or has
a label that the report takes for that. -/
structure IsMessageOn (vs : List Value) (verdicts : List ActionVerdict) (m : Option String) :
    Prop where
  eq_none_iff : m = none ↔ ∀ w ∈ vs, ∃ kind : ActionKind, kind.Admits w
  listed : (∃ w ∈ vs, w.NamesUnknownType ∨ w.IsMislabelled) →
    m = some (plainMessageOn verdicts ++ "\n\nKnown action types: " ++
      ", ".intercalate ActionKind.names)
  unlisted : (¬∃ w ∈ vs, w.NamesUnknownType ∨ w.IsMislabelled) → m ≠ none →
    m = some (plainMessageOn verdicts)
  listed_iff : ∀ t, m = some t → (knownTypes.toList <:+ t.toList ↔
    ∃ w ∈ vs, w.NamesUnknownType ∨ w.IsMislabelled)

def stepErrors (vs : List Value) : List String :=
  (titledVerdicts 0 vs).filterMap (·.error)

variable {vs : List Value}

theorem mem_stepErrors {t : String} : t ∈ stepErrors vs ↔
    ∃ w i e, (w, i) ∈ vs.zipIdx ∧ checkAction w = .error e ∧
      t = titleText w i ++ ": " ++ e.message := by
  simp only [stepErrors, titledVerdicts, List.mem_filterMap, List.mem_map, Prod.exists]
  constructor
  · rintro ⟨-, ⟨w, i, hw, rfl⟩, ht⟩
    unfold ActionVerdict.titled at ht
    cases he : checkAction w with
    | ok ws => simp [he] at ht
    | error e => exact ⟨w, i, e, hw, he, by simpa [he, eq_comm] using ht⟩
  · rintro ⟨w, i, e, hw, he, rfl⟩
    exact ⟨_, ⟨w, i, hw, rfl⟩, by simp [ActionVerdict.titled, he]⟩

/-- The errors of steps have the phrase because of what is wrong, or because of a label. -/
theorem any_contains_stepErrors_iff :
    (stepErrors vs).any (Text.contains · "Unknown action type") = true ↔
      ∃ w ∈ vs, w.NamesUnknownType ∨ w.IsMislabelled := by
  simp only [List.any_eq_true, Text.contains, Text.occursIn_iff]
  constructor
  · rintro ⟨t, ht, hphrase⟩
    obtain ⟨w, i, e, hw, he, rfl⟩ := mem_stepErrors.mp ht
    exact ⟨w, List.fst_mem_of_mem_zipIdx hw, (phrase_infix_error_iff he i).mp hphrase⟩
  · rintro ⟨w, hw, hhint⟩
    have hadmits : ¬∃ kind : ActionKind, kind.Admits w := by
      rcases hhint with hunknown | hlabel
      · obtain ⟨name, hname⟩ := hunknown.checkAction
        exact checkAction_eq_error_iff.mp ⟨_, hname⟩
      · exact hlabel.1
    obtain ⟨e, he⟩ := checkAction_eq_error_iff.mpr hadmits
    obtain ⟨i, hi⟩ := List.mem_iff_getElem?.mp hw
    have hmem : (w, i) ∈ vs.zipIdx := List.mk_mem_zipIdx_iff_getElem?.mpr hi
    exact ⟨_, mem_stepErrors.mpr ⟨w, i, e, hmem, he, rfl⟩, (phrase_infix_error_iff he i).mpr hhint⟩

def lastType : List Char := "assertTitle".toList

theorem lastType_suffix_knownTypes : lastType <:+ knownTypes.toList :=
  (@toList_suffix_intercalate ", " ActionKind.names _ rfl).trans
    (toList_suffix_append "Known action types: " _)

theorem not_knownTypes_suffix {tail t : List Char} (ht : tail <:+ t) (hlast : ¬lastType <:+ tail)
    (htail : ¬tail <:+ lastType) : ¬knownTypes.toList <:+ t :=
  fun h => not_suffix_of_suffix ht hlast htail (lastType_suffix_knownTypes.trans h)

/-- The message about an unknown type ends with a list of types as well, after other words. -/
theorem not_knownTypes_suffix_of_unknownType {name : String} {t : List Char}
    (ht : (ActionError.unknownType name).message.toList <:+ t) : ¬knownTypes.toList <:+ t := by
  have hknown (names : String) : 'e' :: ("s: ".toList ++ names.toList) <:+
      ("Known action types: " ++ names).toList := by
    rw [String.toList_append]
    exact List.suffix_append "Known action typ".toList _
  have hunknown (names : String) : 'n' :: ("s: ".toList ++ names.toList) <:+
      ("Unknown action type \"" ++ name ++ "\". Known actions: " ++ names).toList := by
    have htail : "\". Known actions: ".toList =
        "\". Known actio".toList ++ 'n' :: "s: ".toList := by
      decide
    generalize "Unknown action type \"" ++ name = p
    rw [String.toList_append, String.toList_append, htail]
    simp only [List.append_assoc, List.cons_append]
    exact (List.suffix_append _ _).trans (List.suffix_append _ _)
  intro h
  have hcases := List.suffix_or_suffix_of_suffix ((hknown _).trans h) ((hunknown _).trans ht)
  rcases hcases with hsuffix | hsuffix
  · exact absurd (List.head_eq_of_cons_eq (hsuffix.eq_of_length rfl)) (by decide)
  · exact absurd (List.head_eq_of_cons_eq (hsuffix.eq_of_length rfl)) (by decide)

/-- No text ends with the list of types that ends with a message with which a value is rejected. -/
theorem not_knownTypes_suffix_of_isAbout {v : Value} {e : ActionError} (h : e.IsAbout v)
    {t : List Char} (ht : e.message.toList <:+ t) : ¬knownTypes.toList <:+ t := by
  cases h with
  | notAnObject => exact not_knownTypes_suffix ht (by decide +kernel) (by decide +kernel)
  | noName => exact not_knownTypes_suffix ht (by decide +kernel) (by decide +kernel)
  | unknownType h => exact not_knownTypes_suffix_of_unknownType ht
  | @missingFields kind fields hne hfields =>
    have hrequired : ∀ f ∈ kind.schema.required,
        ¬lastType <:+ f.toList ∧ ¬f.toList <:+ lastType := by
      cases kind <;> decide
    obtain ⟨hlast, htail⟩ := hrequired _ (hfields _ (List.getLast_mem hne))
    refine not_knownTypes_suffix (.trans ?_ ht) hlast htail
    exact (toList_suffix_intercalate ", " (List.getLast?_eq_some_getLast hne)).trans
      (toList_suffix_append _ _)

theorem not_knownTypes_suffix_plainMessage (h : stepErrors vs ≠ []) :
    ¬knownTypes.toList <:+ (plainMessageOn (titledVerdicts 0 vs)).toList := by
  obtain ⟨w, i, e, -, he, hlast⟩ := mem_stepErrors.mp (List.getLast_mem h)
  have hmessage : e.message.toList <:+ ((stepErrors vs).getLast h).toList := by
    rw [hlast]
    exact toList_suffix_append _ _
  have hjoined := toList_suffix_intercalate "; " (List.getLast?_eq_some_getLast h)
  exact not_knownTypes_suffix_of_isAbout (checkAction_isAbout he)
    ((hmessage.trans hjoined).trans (toList_suffix_append _ _))

theorem stepErrors_eq_nil_iff :
    stepErrors vs = [] ↔ ∀ w ∈ vs, ∃ kind : ActionKind, kind.Admits w :=
  errors_titledVerdicts_eq_nil_iff

theorem errors_titledReports : (onSteps (titledReports 0 vs)).errors = stepErrors vs :=
  errors_onSteps 0 vs

/-- As many steps are rejected in a report as by the checks. -/
theorem length_invalidSteps_onSteps (rs : List StepReport) :
    (onSteps rs).invalidSteps.length = (rs.map StepReport.verdict).countP fun r => !r.valid := by
  rw [List.countP_map, List.countP_eq_length_filter]
  rfl

theorem message?_onSteps (h : stepErrors vs ≠ []) : (onSteps (titledReports 0 vs)).message? =
    if (stepErrors vs).any (Text.contains · "Unknown action type") then
      some (plainMessageOn (titledVerdicts 0 vs) ++ "\n\nKnown action types: " ++
        ", ".intercalate ActionKind.names)
    else some (plainMessageOn (titledVerdicts 0 vs)) := by
  have hinvalid : (onSteps (titledReports 0 vs)).valid = false := by
    rw [valid_onSteps, errors_titledReports]
    simpa using h
  have hplain : plainMessage (onSteps (titledReports 0 vs)).invalidSteps.length
      (onSteps (titledReports 0 vs)).errors = plainMessageOn (titledVerdicts 0 vs) := by
    rw [errors_titledReports, length_invalidSteps_onSteps, titledReports_verdicts]
    rfl
  rw [← hplain, ← errors_titledReports]
  exact if_neg (by simp [hinvalid])

theorem knownTypes_suffix_listed (plain : String) : knownTypes.toList <:+
    (plain ++ "\n\nKnown action types: " ++ ", ".intercalate ActionKind.names).toList := by
  have hsplit : "\n\nKnown action types: " = "\n\n" ++ "Known action types: " := by decide
  unfold knownTypes
  generalize ", ".intercalate ActionKind.names = names
  calc ("Known action types: " ++ names).toList
    _ <:+ ("\n\n" ++ ("Known action types: " ++ names)).toList := toList_suffix_append _ _
    _ = ("\n\nKnown action types: " ++ names).toList :=
        congrArg String.toList (String.append_assoc.symm.trans (congrArg (· ++ names) hsplit.symm))
    _ <:+ (plain ++ ("\n\nKnown action types: " ++ names)).toList := toList_suffix_append _ _
    _ = (plain ++ "\n\nKnown action types: " ++ names).toList :=
        congrArg String.toList String.append_assoc.symm

/-- The message of a report on steps is such, whatever the steps are. -/
theorem onSteps_isMessageOn (vs : List Value) :
    IsMessageOn vs (titledVerdicts 0 vs) (onSteps (titledReports 0 vs)).message? := by
  have hvalid : (onSteps (titledReports 0 vs)).message? = none ↔ stepErrors vs = [] := by
    rw [message?_eq_none_iff, valid_onSteps, errors_titledReports, List.isEmpty_iff]
  have hne_of_listed : (∃ w ∈ vs, w.NamesUnknownType ∨ w.IsMislabelled) → stepErrors vs ≠ [] := by
    intro h hnil
    rw [← any_contains_stepErrors_iff, hnil] at h
    cases h
  constructor
  case eq_none_iff => rw [hvalid, stepErrors_eq_nil_iff]
  case listed =>
    intro h
    rw [message?_onSteps (hne_of_listed h), if_pos (any_contains_stepErrors_iff.mpr h)]
  case unlisted =>
    intro h hsome
    rw [message?_onSteps (fun hnil => hsome (hvalid.mpr hnil)),
      if_neg fun hany => h (any_contains_stepErrors_iff.mp hany)]
  case listed_iff =>
    intro t ht
    have hne : stepErrors vs ≠ [] := fun hnil => by
      rw [hvalid.mpr hnil] at ht
      cases ht
    rw [message?_onSteps hne] at ht
    split at ht
    next hany =>
      obtain rfl := Option.some.inj ht
      exact iff_of_true (knownTypes_suffix_listed _) (any_contains_stepErrors_iff.mp hany)
    next hany =>
      obtain rfl := Option.some.inj ht
      exact iff_of_false (not_knownTypes_suffix_plainMessage hne)
        fun h => hany (any_contains_stepErrors_iff.mpr h)

/-- The message of the report on a source that has steps: it ends with the known types if one of the
steps names an unknown type, or if a rejected step has a label with the phrase for that. -/
theorem message_of_steps {source : Source} {v : Value} {report : Report}
    (hread : source.read = .ok v) (hsteps : v.steps? = some vs)
    (hreport : ofSource source = .ok report) :
    ∃ verdicts, validateSteps 0 vs = .ok verdicts ∧ IsMessageOn vs verdicts report.message? := by
  rw [ofSource_of_steps hread hsteps, stepReports_eq] at hreport
  cases hverdicts : validateSteps 0 vs with
  | error f =>
    rw [hverdicts] at hreport
    cases hreport
  | ok verdicts =>
    rw [hverdicts] at hreport
    obtain rfl := Except.ok.inj hreport
    obtain ⟨-, rfl⟩ := validateSteps_eq_ok_iff.mp hverdicts
    exact ⟨_, rfl, onSteps_isMessageOn vs⟩

/-- Of a step that names no known type the message is told, and the types that there are. -/
theorem message_of_steps_fly :
    let step : Value := .object [("action", .text "fly")]
    let v : Value := .object [("steps", .list [step])]
    (Source.value v).read = .ok v ∧ v.steps? = some [step] ∧
      ∃ report verdicts, ofSource (.value v) = .ok report ∧
        validateSteps 0 [step] = .ok verdicts ∧
        report.message? = some (plainMessageOn verdicts ++ "\n\nKnown action types: " ++
          ", ".intercalate ActionKind.names) := by
  intro step v
  have hunknown : step.NamesUnknownType := ⟨_, "fly", rfl, rfl, by decide, by decide⟩
  obtain ⟨report, hreport⟩ : ∃ report, ofSource (.value v) = .ok report := ⟨_, rfl⟩
  have hsteps : v.steps? = some [step] := rfl
  obtain ⟨verdicts, hverdicts, hmessage⟩ := message_of_steps rfl hsteps hreport
  exact ⟨rfl, rfl, report, verdicts, hreport, hverdicts,
    hmessage.listed ⟨step, List.mem_singleton_self step, .inl hunknown⟩⟩

/-- A step without a selector names a known type, and yet its message ends with the types that there
are, because of the step's label. -/
theorem knownTypes_for_label :
    let step : Value := .object [("action", .text "click"), ("label", .text "Unknown action type")]
    let v : Value := .object [("steps", .list [step])]
    v.steps? = some [step] ∧ (∀ w ∈ [step], ¬w.NamesUnknownType) ∧
      ∃ report t, ofSource (.value v) = .ok report ∧ report.message? = some t ∧
        knownTypes.toList <:+ t.toList := by
  intro step v
  have hlabel : step.IsMislabelled :=
    ⟨checkAction_eq_error_iff.mp ⟨.missingFields "click" ["selector"], rfl⟩, rfl, List.infix_rfl⟩
  have hclick : ¬step.NamesUnknownType := by
    rintro ⟨es, name, -, hname, -, hkind⟩
    obtain rfl : "click" = name := Value.text.inj hname
    cases hkind
  have hmessage :=
    (onSteps_isMessageOn [step]).listed ⟨step, List.mem_singleton_self step, .inr hlabel⟩
  have hreport : ofSource (.value v) = .ok (.onSteps (titledReports 0 [step])) :=
    ofSource_of_labels rfl rfl (List.forall_mem_singleton.mpr rfl)
  exact ⟨rfl, List.forall_mem_singleton.mpr hclick, _, _, hreport, hmessage,
    knownTypes_suffix_listed _⟩

end Report

end Walkthrough
