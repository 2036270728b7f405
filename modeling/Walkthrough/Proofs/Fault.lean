import Walkthrough.Source
import Walkthrough.Step.Basic

/-! Every fault is reported with words. -/
namespace Walkthrough

theorem Text.append_ne_empty {s : String} (h : s ≠ "") (t : String) : s ++ t ≠ "" :=
  fun he => h (String.append_eq_empty_iff.mp he).1

theorem PageFault.text_ne_empty (f : PageFault) : f.text ≠ "" := by
  unfold PageFault.text
  split
  · cases f.kind <;> decide
  · assumption

theorem Number.tooLongMessage_ne_empty (digits : Nat) : tooLongMessage digits ≠ "" := by
  unfold tooLongMessage
  repeat apply Text.append_ne_empty
  decide

theorem Toml.Complaint.text_ne_empty (c : Complaint) : c.text ≠ "" := by
  unfold text
  split <;> (repeat apply Text.append_ne_empty) <;> decide

theorem Toml.Fault.message_ne_empty (f : Fault) : f.message ≠ "" := by
  cases f with
  | offence complaint place =>
    unfold message
    repeat apply Text.append_ne_empty
    exact complaint.text_ne_empty
  | tooManyDigits digits => exact Number.tooLongMessage_ne_empty digits

theorem NotEntries.message_ne_empty (f : NotEntries) : f.message ≠ "" := by
  unfold message
  split <;> (repeat apply Text.append_ne_empty) <;> decide

theorem SettingsFault.message_ne_empty (f : SettingsFault) : f.message ≠ "" := by
  cases f with
  | infinitePause => decide
  | undefinedPause => decide
  | unreadablePause text => exact Text.append_ne_empty (by decide) _
  | longPause digits => exact Number.tooLongMessage_ne_empty digits
  | wrongPause type =>
    unfold message
    repeat apply Text.append_ne_empty
    decide
  | unwritableText => decide
  | noTable type =>
    unfold message
    repeat apply Text.append_ne_empty
    decide
  | notEntries f => exact f.message_ne_empty
  | document f => exact f.message_ne_empty

theorem Unwritable.message_ne_empty (f : Unwritable) : f.message ≠ "" := by
  cases f
  decide

theorem ActionFault.message_ne_empty (f : ActionFault) : f.message ≠ "" := by
  cases f with
  | unknown name => exact Text.append_ne_empty (by decide) _
  | unwritable f => exact f.message_ne_empty
  | invalid kind faults =>
    unfold message
    repeat apply Text.append_ne_empty
    decide

theorem Pattern.MatchFault.message_ne_empty (f : MatchFault) : f.message ≠ "" := by
  cases f with
  | oversizedCount => decide
  | longCount digits => exact Number.tooLongMessage_ne_empty digits
  | clashingFlags => decide
  | tooDeep report =>
    change (if report = "" then "RecursionError" else report) ≠ ""
    split
    · decide
    · assumption

theorem StepFault.text_ne_empty (f : StepFault) : f.text ≠ "" := by
  cases f with
  | action f => exact f.message_ne_empty
  | settings f => exact f.message_ne_empty
  | page f => exact f.text_ne_empty
  | comparison f => exact f.message_ne_empty
  | unwritable f => exact f.message_ne_empty
  | oversizedPause => decide

theorem SourceFault.message_ne_empty (f : SourceFault) : f.message ≠ "" :=
  Text.append_ne_empty (by decide) _

end Walkthrough
