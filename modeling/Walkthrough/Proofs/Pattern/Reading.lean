import Mathlib.Data.List.Infix
import Walkthrough.Pattern.Reader

/-!
What reading a pattern can come to: it goes through the tokens from the front, and where it is not
refused as malformed, a number in the tokens is too great or too long.
-/
namespace Walkthrough.Pattern

def HoldsNumber (ts : List Token) (ds : List Char) : Prop :=
  ds.map Token.char <:+: ts ∧ ∀ d ∈ ds, d.isDigit = true

/-- What tokens hold for which they are refused. -/
def Fault.IsIn (ts : List Token) : Fault → Prop
  | .malformed => True
  | .oversizedCount => ∃ ds, HoldsNumber ts ds ∧ countCap ≤ valueOf 10 ds
  | .longCount n => ∃ ds, HoldsNumber ts ds ∧ ds.length = n ∧ Number.maxDigits < n
  | .clashingFlags | .tooDeep _ => False

/-- Reading ends with a fault of the tokens, or with what satisfies a condition. -/
structure Ends {β : Type} (ts : List Token) (P : β → Prop) (x : Except Fault β) : Prop where
  error : ∀ f, x = .error f → f.IsIn ts
  ok : ∀ b, x = .ok b → P b

/-- Reading goes through the tokens from the front. -/
abbrev Reads {β : Type} (ts : List Token) (x : Except Fault (β × List Token)) : Prop :=
  Ends ts (fun b => b.2 <:+ ts) x

theorem Fault.IsIn.mono {f : Fault} {ts us : List Token} (h : f.IsIn ts) (hts : ts <:+ us) :
    f.IsIn us := by
  cases f with
  | malformed => trivial
  | oversizedCount =>
    obtain ⟨ds, ⟨hwithin, hdigits⟩, hcap⟩ := h
    exact ⟨ds, ⟨hwithin.trans hts.isInfix, hdigits⟩, hcap⟩
  | longCount n =>
    obtain ⟨ds, ⟨hwithin, hdigits⟩, hlong⟩ := h
    exact ⟨ds, ⟨hwithin.trans hts.isInfix, hdigits⟩, hlong⟩
  | clashingFlags => exact h
  | tooDeep report => exact h

namespace Ends
variable {β γ : Type} {ts us : List Token} {P : β → Prop} {Q : γ → Prop} {x : Except Fault β}

theorem of_ok {b : β} (h : P b) : Ends ts P (.ok b) :=
  ⟨nofun, fun _ hb => Except.ok.inj hb ▸ h⟩

theorem malformed : Ends ts P (.error .malformed) :=
  ⟨fun _ hf => Except.error.inj hf ▸ trivial, nofun⟩

theorem of_error {f : Fault} (h : f.IsIn ts) : Ends ts P (.error f) :=
  ⟨fun _ hf => Except.error.inj hf ▸ h, nofun⟩

theorem mono {P' : β → Prop} (h : Ends ts P x) (hts : ts <:+ us) (hP : ∀ b, P b → P' b) :
    Ends us P' x :=
  ⟨fun f hf => (h.error f hf).mono hts, fun b hb => hP b (h.ok b hb)⟩

theorem bind {f : β → Except Fault γ} (hx : Ends ts P x) (hf : ∀ b, P b → Ends ts Q (f b)) :
    Ends ts Q (x >>= f) := by
  cases x with
  | error e => exact of_error (hx.error e rfl)
  | ok b => exact hf b (hx.ok b rfl)

theorem map {f : β → γ} (hx : Ends ts P x) (hf : ∀ b, P b → Q (f b)) : Ends ts Q (x.map f) := by
  cases x with
  | error e => exact of_error (hx.error e rfl)
  | ok b => exact of_ok (hf b (hx.ok b rfl))

end Ends

/-- Reading that begins further on. -/
theorem Ends.reads_of_suffix {β : Type} {ts us : List Token} {x : Except Fault (β × List Token)}
    (h : Reads ts x) (hts : ts <:+ us) : Reads us x :=
  h.mono hts fun _ hb => hb.trans hts

theorem takeChars_append (p : Char → Bool) (n : Nat) (ts : List Token) :
    (takeChars p n ts).1.map Token.char ++ (takeChars p n ts).2 = ts ∧
      ∀ c ∈ (takeChars p n ts).1, p c = true := by
  induction n generalizing ts with
  | zero => exact ⟨rfl, by simp [takeChars]⟩
  | succ n ih =>
    cases ts with
    | nil => exact ⟨rfl, by simp [takeChars]⟩
    | cons t ts =>
      cases t with
      | char c =>
        rw [takeChars]
        split
        next hc =>
          obtain ⟨happend, hall⟩ := ih ts
          exact ⟨congrArg (Token.char c :: ·) happend, List.forall_mem_cons.mpr ⟨hc, hall⟩⟩
        next => exact ⟨rfl, by simp⟩
      | escape c => exact ⟨rfl, by simp [takeChars]⟩
      | loneBackslash => exact ⟨rfl, by simp [takeChars]⟩

theorem takeChars_suffix (p : Char → Bool) (n : Nat) (ts : List Token) :
    (takeChars p n ts).2 <:+ ts :=
  ⟨_, (takeChars_append p n ts).1⟩

theorem takeUntil_reads (close : Char) (acc : List Char) (ts : List Token) :
    Reads ts (takeUntil close acc ts) := by
  induction ts generalizing acc with
  | nil => exact .malformed
  | cons t ts ih =>
    unfold takeUntil
    split
    · split
      · exact .malformed
      · exact .of_ok (List.suffix_cons t ts)
    · split
      · exact .malformed
      · exact (ih _).reads_of_suffix (List.suffix_cons t ts)

theorem takeHex_reads (count : Nat) (ts : List Token) : Reads ts (takeHex count ts) := by
  unfold takeHex
  dsimp only
  split
  · exact .of_ok (takeChars_suffix _ count ts)
  · exact .malformed

section Sets
variable [Host]

theorem takeNamed_reads (ts : List Token) : Reads ts (takeNamed ts) := by
  unfold takeNamed
  split
  next rest =>
    have hname := takeUntil_reads '\x7d' [] rest
    split
    next e he => exact .of_error ((hname.error e he).mono (List.suffix_cons _ _))
    next name rest' hrest =>
      split
      · exact .of_ok ((hname.ok _ hrest).trans (List.suffix_cons _ _))
      · exact .malformed
  · exact .malformed

theorem takeCode_reads (c : Char) (ts : List Token) : Reads ts (takeCode c ts) := by
  unfold takeCode
  repeat' split
  · exact takeHex_reads 2 ts
  · exact takeHex_reads 4 ts
  · exact takeHex_reads 8 ts
  · exact takeNamed_reads ts
  · exact .malformed
  · exact .of_ok List.suffix_rfl

theorem readSetEscape_reads (c : Char) (ts : List Token) : Reads ts (readSetEscape c ts) := by
  unfold readSetEscape
  split
  · exact .of_ok List.suffix_rfl
  · exact .of_ok List.suffix_rfl
  · split
    · dsimp only
      split
      · exact .of_ok (takeChars_suffix _ 2 ts)
      · exact .malformed
    · exact (takeCode_reads c ts).map fun _ h => h

theorem readSetPart_reads (t : Token) (ts : List Token) : Reads ts (readSetPart t ts) := by
  cases t with
  | char c => exact .of_ok List.suffix_rfl
  | escape c => exact readSetEscape_reads c ts
  | loneBackslash => exact .malformed

theorem readSetParts_reads (fuel : Nat) (acc : List SetPart) (ts : List Token) :
    Reads ts (readSetParts fuel acc ts) := by
  induction fuel generalizing acc ts with
  | zero => exact .malformed
  | succ fuel ih =>
    cases ts with
    | nil => exact .malformed
    | cons t ts =>
      have htail : ts <:+ t :: ts := List.suffix_cons t ts
      have hfirst := readSetPart_reads t ts
      rw [readSetParts]
      split
      · exact .of_ok htail
      split
      next e he => exact .of_error ((hfirst.error e he).mono htail)
      next a rest ha =>
        have hrest : rest <:+ t :: ts :=
          ((List.suffix_cons _ rest).trans (hfirst.ok _ ha)).trans htail
        split
        · exact .malformed
        · exact .of_ok ((List.suffix_cons _ _).trans hrest)
        next u rest' _ =>
          have hlast := readSetPart_reads u rest'
          have hrest' : rest' <:+ t :: ts := (List.suffix_cons u rest').trans hrest
          split
          next e he => exact .of_error ((hlast.error e he).mono hrest')
          next b rest'' hb =>
            split
            next e he =>
              unfold rangeOf at he
              split at he
              · split at he
                · cases he
                · cases he
                  exact .malformed
              · cases he
                exact .malformed
            · exact (ih _ _).reads_of_suffix ((hlast.ok _ hb).trans hrest')
      next a rest ha => exact (ih _ _).reads_of_suffix ((hfirst.ok _ ha).trans htail)

theorem readSet_reads (ts : List Token) : Reads ts (readSet ts) := by
  unfold readSet
  dsimp only
  split
  next e he =>
    refine .of_error (((readSetParts_reads _ _ _).error e he).mono ?_)
    split
    · exact List.suffix_cons _ _
    · exact List.suffix_rfl
  next parts rest hrest =>
    have hsuffix : rest <:+ ts := by
      refine ((readSetParts_reads _ _ _).ok _ hrest).trans ?_
      split
      · exact List.suffix_cons _ _
      · exact List.suffix_rfl
    split <;> exact .of_ok hsuffix

end Sets

theorem refer_ends (g : Groups) (n : Nat) {ts : List Token} :
    Ends ts (fun _ => True) (g.refer n) := by
  unfold Groups.refer
  split
  · exact .of_ok trivial
  · exact .malformed

theorem readReference_reads (g : Groups) (c : Char) (ts : List Token) :
    Reads ts (readReference g c ts) := by
  have hrefer {rest : List Token} (n : Nat) (h : rest <:+ ts) :
      Reads ts ((g.refer n).map (·, rest)) :=
    (refer_ends g n).map fun _ _ => h
  unfold readReference
  dsimp only
  split
  next d rest =>
    split
    · exact hrefer _ List.suffix_rfl
    · split
      next e rest' =>
        split
        · split
          · exact .of_ok ((List.suffix_cons _ _).trans (List.suffix_cons _ _))
          · exact .malformed
        · exact hrefer _ (List.suffix_cons _ _)
      · exact hrefer _ (List.suffix_cons _ _)
  · exact hrefer _ List.suffix_rfl

theorem readEscape_reads [Host] (g : Groups) (c : Char) (ts : List Token) :
    Reads ts (readEscape g c ts) := by
  unfold readEscape
  split
  · exact .of_ok List.suffix_rfl
  · exact .of_ok List.suffix_rfl
  · exact .of_ok List.suffix_rfl
  · split
    · exact .of_ok (takeChars_suffix _ 2 ts)
    split
    · exact readReference_reads g c ts
    · exact (takeCode_reads c ts).map fun _ h => h

theorem holdsNumber_spanChars {ts us : List Token} (hts : ts <:+ us) :
    HoldsNumber us (spanChars Char.isDigit ts).1 := by
  obtain ⟨happend, hall⟩ := takeChars_append Char.isDigit ts.length ts
  exact ⟨(List.prefix_append _ _ |>.isInfix : _ <:+: _ ++ _).trans (happend ▸ hts.isInfix), hall⟩

theorem spanChars_suffix (p : Char → Bool) (ts : List Token) : (spanChars p ts).2 <:+ ts :=
  takeChars_suffix p ts.length ts

theorem readCount_ends {ts : List Token} {ds : List Char} (h : HoldsNumber ts ds) :
    Ends ts (fun _ => True) (readCount ds) := by
  unfold readCount
  dsimp only
  split
  next hlong => exact .of_error ⟨ds, h, rfl, hlong⟩
  · split
    next hcap => exact .of_error ⟨ds, h, hcap⟩
    · exact .of_ok trivial

theorem boundsOf_ends {ts : List Token} {lo hi : List Char} (hlo : HoldsNumber ts lo)
    (hhi : HoldsNumber ts hi) : Ends ts (fun _ => True) (boundsOf lo hi) := by
  have hleast : Ends ts (fun _ => True) (if lo.isEmpty then .ok 0 else readCount lo) := by
    split
    · exact .of_ok trivial
    · exact readCount_ends hlo
  have hmost := readCount_ends hhi
  unfold boundsOf
  split
  next e he => exact .of_error (hleast.error e he)
  · split
    · exact .of_ok trivial
    · split
      next e he => exact .of_error (hmost.error e he)
      · split
        · exact .malformed
        · exact .of_ok trivial

/-- What is left after the digits of a least number, and after those of a greatest one. -/
theorem readBounds?_rest (ts : List Token) :
    let lo := spanChars Char.isDigit ts
    let hi := match lo.2 with
      | .char ',' :: rest => spanChars Char.isDigit rest
      | _ => lo
    HoldsNumber ts lo.1 ∧ HoldsNumber ts hi.1 ∧ hi.2 <:+ ts := by
  intro lo hi
  have hlo : HoldsNumber ts lo.1 := holdsNumber_spanChars List.suffix_rfl
  have hrest : lo.2 <:+ ts := spanChars_suffix _ ts
  refine ⟨hlo, ?_⟩
  dsimp only [hi]
  split
  next rest heq =>
    have hafter : rest <:+ ts := (heq ▸ List.suffix_cons _ rest : rest <:+ lo.2).trans hrest
    exact ⟨holdsNumber_spanChars hafter, (spanChars_suffix _ rest).trans hafter⟩
  · exact ⟨hlo, hrest⟩

theorem readBounds?_reads {ts : List Token} {x : Except Fault (Bounds × List Token)}
    (h : readBounds? ts = some x) : Reads ts x := by
  obtain ⟨hlo, hhi, hrest⟩ := readBounds?_rest ts
  unfold readBounds? at h
  split at h
  · cases h
  dsimp only at h
  split at h
  · obtain rfl := Option.some.inj h
    exact .malformed
  next rest _ heq =>
    obtain rfl := Option.some.inj h
    have hafter : rest <:+ ts := (heq ▸ List.suffix_cons _ rest : rest <:+ _).trans hrest
    exact (boundsOf_ends hlo hhi).map fun _ _ => hafter
  · cases h

theorem readQuantifier?_reads {c : Char} {ts : List Token}
    {x : Except Fault (Bounds × List Token)} (h : readQuantifier? c ts = some x) : Reads ts x := by
  unfold readQuantifier? at h
  split at h
  · exact Option.some.inj h ▸ .of_ok List.suffix_rfl
  split at h
  · exact Option.some.inj h ▸ .of_ok List.suffix_rfl
  split at h
  · exact Option.some.inj h ▸ .of_ok List.suffix_rfl
  · exact readBounds?_reads h

theorem readGreed_suffix (ts : List Token) : (readGreed ts).2 <:+ ts := by
  unfold readGreed
  split
  · exact List.suffix_cons _ _
  · exact List.suffix_cons _ _
  · exact List.suffix_rfl

theorem skipLine_suffix (ts : List Token) : skipLine ts <:+ ts := by
  induction ts with
  | nil => exact List.suffix_rfl
  | cons t ts ih =>
    rw [skipLine]
    split
    · exact List.suffix_cons t ts
    split
    · exact List.suffix_rfl
    · exact ih.trans (List.suffix_cons t ts)

theorem skipComment_ends (ts : List Token) : Ends ts (· <:+ ts) (skipComment ts) := by
  induction ts with
  | nil => exact .malformed
  | cons t ts ih =>
    rw [skipComment]
    split
    · exact .of_ok (List.suffix_cons t ts)
    · exact ih.mono (List.suffix_cons t ts) fun _ h => h.trans (List.suffix_cons t ts)

theorem afterBracket_ends (ts : List Token) : Ends ts (· <:+ ts) (afterBracket ts) := by
  unfold afterBracket
  split
  · exact .of_ok (List.suffix_cons _ _)
  · exact .malformed

end Walkthrough.Pattern
