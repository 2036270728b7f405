import Walkthrough.Proofs.Pattern.Reading

/-!
Why a pattern is refused: it is malformed, or a number in it is too great or too long, or it begins
with switches, and they clash, or its groups are nested too deeply for the system.
-/
namespace Walkthrough.Pattern

theorem readFlagsOn_ends (fuel : Nat) (acc : Flags) (ts : List Token) :
    Ends ts (fun b => b.2.2 <:+ ts) (readFlagsOn fuel acc ts) := by
  induction fuel generalizing acc ts with
  | zero => exact .malformed
  | succ fuel ih =>
    cases ts with
    | nil => exact .malformed
    | cons t ts =>
      cases t with
      | char c =>
        have htail : ts <:+ .char c :: ts := List.suffix_cons _ ts
        rw [readFlagsOn]
        split
        · dsimp only
          split
          · exact .malformed
          · exact (ih _ ts).mono htail fun _ h => h.trans htail
        · split
          · exact .of_ok htail
          · exact .malformed
      | escape c => exact .malformed
      | loneBackslash => exact .malformed

theorem readFlagsOff_reads (fuel : Nat) (acc : Flags) (ts : List Token) :
    Reads ts (readFlagsOff fuel acc ts) := by
  induction fuel generalizing acc ts with
  | zero => exact .malformed
  | succ fuel ih =>
    cases ts with
    | nil => exact .malformed
    | cons t ts =>
      cases t with
      | char c =>
        have htail : ts <:+ .char c :: ts := List.suffix_cons _ ts
        rw [readFlagsOff]
        split
        · split
          · exact .malformed
          · exact (ih _ ts).reads_of_suffix htail
        · split
          · exact .of_ok htail
          · exact .malformed
      | escape c => exact .malformed
      | loneBackslash => exact .malformed

theorem readFlagGroup_reads (ts : List Token) : Reads ts (readFlagGroup ts) := by
  have hon := readFlagsOn_ends (ts.length + 1) .none ts
  unfold readFlagGroup
  split
  next e he => exact .of_error (hon.error e he)
  next on rest hrest =>
    split
    · exact .malformed
    · exact .of_ok (hon.ok _ hrest)
  next on close rest _ hrest =>
    have hsuffix : rest <:+ ts := hon.ok _ hrest
    split
    · exact .malformed
    split
    · exact .of_ok hsuffix
    have hoff := readFlagsOff_reads (rest.length + 1) .none rest
    split
    next e he => exact .of_error ((hoff.error e he).mono hsuffix)
    next off rest' hrest' =>
      split
      · exact .malformed
      · exact .of_ok ((hoff.ok _ hrest').trans hsuffix)

theorem readName_reads (close : Char) (ts : List Token) : Reads ts (readName close ts) := by
  have huntil := takeUntil_reads close [] ts
  unfold readName
  split
  next e he => exact .of_error (huntil.error e he)
  next cs rest hrest =>
    split
    · exact .of_ok (huntil.ok _ hrest)
    · exact .malformed

theorem readCondition_ends (g : Groups) (cs : List Char) (ts : List Token) :
    Ends ts (fun b => b.2.flags = g.flags) (readCondition g cs) := by
  unfold readCondition
  split
  · split
    · exact .of_ok rfl
    · exact .malformed
  · split
    · exact .of_ok rfl
    · exact .malformed

/-- How a group begins is read from the front and turns no switch; without a question mark it is a
group that is kept. -/
def Begins (g : Groups) (ts : List Token) (b : GroupStart × Groups × List Token) : Prop :=
  b.2.2 <:+ ts ∧ b.2.1.flags = g.flags ∧ (b.1 = .capture none ∨ ts.head? = some (.char '?'))

theorem readGroupStart_ends (g : Groups) (ts : List Token) :
    Ends ts (Begins g ts) (readGroupStart g ts) := by
  unfold readGroupStart
  split
  next rest =>
    have hrest : rest <:+ .char '?' :: .char 'P' :: .char '<' :: rest := ⟨[_, _, _], rfl⟩
    exact ((readName_reads '>' rest).reads_of_suffix hrest).map fun _ h => ⟨h, rfl, .inr rfl⟩
  next rest =>
    have hrest : rest <:+ .char '?' :: .char 'P' :: .char '=' :: rest := ⟨[_, _, _], rfl⟩
    refine ((readName_reads ')' rest).reads_of_suffix hrest).bind fun _ h => ?_
    dsimp only
    split
    · exact (refer_ends g _).map fun _ _ => ⟨h, rfl, .inr rfl⟩
    · exact .malformed
  next rest => exact .of_ok ⟨⟨[_, _], rfl⟩, rfl, .inr rfl⟩
  next rest =>
    have hrest : rest <:+ .char '?' :: .char '#' :: rest := ⟨[_, _], rfl⟩
    exact ((skipComment_ends rest).mono hrest fun _ h => h.trans hrest).map
      fun _ h => ⟨h, rfl, .inr rfl⟩
  next rest => exact .of_ok ⟨⟨[_, _], rfl⟩, rfl, .inr rfl⟩
  next rest => exact .of_ok ⟨⟨[_, _], rfl⟩, rfl, .inr rfl⟩
  next rest => exact .of_ok ⟨⟨[_, _, _], rfl⟩, rfl, .inr rfl⟩
  next rest => exact .of_ok ⟨⟨[_, _, _], rfl⟩, rfl, .inr rfl⟩
  next rest => exact .of_ok ⟨⟨[_, _], rfl⟩, rfl, .inr rfl⟩
  next rest =>
    have hrest : rest <:+ .char '?' :: .char '(' :: rest := ⟨[_, _], rfl⟩
    refine ((takeUntil_reads ')' [] rest).reads_of_suffix hrest).bind fun name h => ?_
    refine (readCondition_ends g name.1 _).bind fun condition hflags => ?_
    dsimp only
    split
    · exact .of_ok ⟨h, hflags, .inr rfl⟩
    · exact .malformed
  next rest _ _ _ _ _ _ _ _ _ _ =>
    have hrest : rest <:+ .char '?' :: rest := ⟨[_], rfl⟩
    refine ((readFlagGroup_reads rest).reads_of_suffix hrest).bind fun b h => ?_
    split
    · exact .of_ok ⟨h, rfl, .inr rfl⟩
    · exact .of_ok ⟨h, rfl, .inr rfl⟩
  · exact .of_ok ⟨List.suffix_rfl, rfl, .inl rfl⟩

theorem repeatable_ends (p : Piece) {ts : List Token} : Ends ts (fun _ => True) (repeatable p) := by
  unfold repeatable
  split
  · exact .of_ok trivial
  · exact .malformed
  · exact .malformed
  · exact .of_ok trivial

theorem enter_ends (g : Groups) (name : Option String) {ts : List Token} :
    Ends ts (fun g' => g'.flags = g.flags) (g.enter name) := by
  unfold Groups.enter
  split
  · exact .of_ok rfl
  · split
    · exact .malformed
    · exact .of_ok rfl

/-- Nothing was read before, so that switches of the whole pattern may stand here. -/
def AtStart (spot : Spot) (acc : List Piece) : Prop :=
  spot.outermost = true ∧ spot.first = true ∧ acc = []

/-- What switches of the whole pattern ask of the tokens where they are read. -/
def Opens (spot : Spot) (acc : List Piece) (ts : List Token) : Prop :=
  AtStart spot acc ∧ (spot.verbose = true ∨ [.char '(', .char '?'] <+: ts)

/-- The same after the bracket that opens a group. -/
def OpensGroup (spot : Spot) (acc : List Piece) (ts : List Token) : Prop :=
  AtStart spot acc ∧ (spot.verbose = true ∨ ts.head? = some (.char '?'))

/-- What is read is read from the front, and where a switch turns, a condition holds. -/
def Turns (T : Prop) (g : Groups) (ts : List Token) (b : List Node × Groups × List Token) : Prop :=
  b.2.2 <:+ ts ∧ (b.2.1.flags = g.flags ∨ T)

theorem not_opens_inner {verbose : Bool} {acc : List Piece} {ts : List Token} :
    ¬Opens (.inner verbose) acc ts :=
  fun h => nomatch h.1.1

theorem not_opens_cons {spot : Spot} {p : Piece} {acc : List Piece} {ts : List Token} :
    ¬Opens spot (p :: acc) ts :=
  fun h => nomatch h.1.2.2

/-- Reading that begins further on, from groups that have the same switches. -/
theorem Ends.turns_of_suffix {T T' : Prop} {g g' : Groups} {ts us : List Token}
    {x : Except Fault (List Node × Groups × List Token)} (h : Ends ts (Turns T g ts) x)
    (hts : ts <:+ us) (hflags : g.flags = g'.flags) (hT : T → T') : Ends us (Turns T' g' us) x :=
  h.mono hts fun _ hb => ⟨hb.1.trans hts, hb.2.imp (·.trans hflags) hT⟩

/-- Inside a group no switch of the whole pattern turns. -/
theorem Ends.inside_group {verbose : Bool} {acc : List Piece} {g g' : Groups}
    {ts us vs : List Token} {x : Except Fault (List Node × Groups × List Token)}
    (h : Ends ts (Turns (Opens (.inner verbose) acc ts) g ts) x) (hts : ts <:+ us) (hus : us <:+ vs)
    (hflags : g.flags = g'.flags) :
    Ends vs (fun b => b.2.2 <:+ us ∧ b.2.1.flags = g'.flags) x :=
  h.mono (hts.trans hus) fun _ hb =>
    ⟨hb.1.trans hts, (hb.2.resolve_right not_opens_inner).trans hflags⟩

section
variable [Host] {fuel : Nat} (hitems : ∀ spot acc g ts, Ends ts (Turns (Opens spot acc ts) g ts)
  (readItems fuel spot acc g ts))
include hitems

/-- After a piece no switch turns any more. -/
theorem readItems_ends_after_piece {T : Prop} (spot : Spot) (p : Piece) (acc : List Piece)
    {g g' : Groups} {ts us : List Token} (hts : ts <:+ us) (hflags : g.flags = g'.flags) :
    Ends us (Turns T g' us) (readItems fuel spot (p :: acc) g ts) :=
  (hitems spot (p :: acc) g ts).turns_of_suffix hts hflags fun h => (not_opens_cons h).elim

theorem readChoice_succ_ends
    (hchoice : ∀ spot acc g ts, Ends ts (Turns (Opens spot [] ts) g ts)
      (readChoice fuel spot acc g ts))
    (spot : Spot) (acc : List (List Node)) (g : Groups) (ts : List Token) :
    Ends ts (Turns (Opens spot [] ts) g ts) (readChoice (fuel + 1) spot acc g ts) := by
  have hfirst := hitems spot [] g ts
  rw [readChoice]
  split
  next e he => exact .of_error (hfirst.error e he)
  next ns g' rest hrest =>
    obtain ⟨hsuffix, hturn⟩ := hfirst.ok _ hrest
    have hrest' : rest <:+ ts := (List.suffix_cons _ rest).trans hsuffix
    -- the later alternatives turn none
    refine (hchoice _ _ g' rest).mono hrest' fun b hb => ⟨hb.1.trans hrest', ?_⟩
    obtain hkept | hopens := hb.2
    · exact hkept ▸ hturn
    · exact nomatch hopens.1.2.1
  next ns g' rest _ hrest =>
    obtain ⟨hsuffix, hturn⟩ := hfirst.ok _ hrest
    exact .of_ok ⟨hsuffix, hturn⟩

theorem readItems_succ_ends
    (hgroup : ∀ spot acc g ts, Ends ts (Turns (OpensGroup spot acc ts) g ts)
      (readGroup fuel spot acc g ts))
    (spot : Spot) (acc : List Piece) (g : Groups) (ts : List Token) :
    Ends ts (Turns (Opens spot acc ts) g ts) (readItems (fuel + 1) spot acc g ts) := by
  cases ts with
  | nil => exact .of_ok ⟨List.suffix_rfl, .inl rfl⟩
  | cons t ts =>
    have htail : ts <:+ t :: ts := List.suffix_cons t ts
    have hpiece (p : Piece) (acc : List Piece) {rest : List Token} (h : rest <:+ ts) :
        Ends (t :: ts) (Turns (Opens spot acc (t :: ts)) g (t :: ts))
          (readItems fuel spot (p :: acc) g rest) :=
      readItems_ends_after_piece hitems spot p acc (h.trans htail) rfl
    have hskip {rest : List Token} (h : rest <:+ ts) (hverbose : spot.verbose = true) :
        Ends (t :: ts) (Turns (Opens spot acc (t :: ts)) g (t :: ts))
          (readItems fuel spot acc g rest) :=
      (hitems spot acc g rest).turns_of_suffix (h.trans htail) rfl fun hopens =>
        ⟨hopens.1, .inl hverbose⟩
    cases t with
    | loneBackslash => exact .malformed
    | escape c =>
      have hescape := readEscape_reads g c ts
      rw [readItems]
      split
      next e he => exact .of_error ((hescape.error e he).mono htail)
      next n rest hrest => exact hpiece _ _ (hescape.ok _ hrest)
    | char c =>
      -- one case for each meaning of a character, in the order in which they are tried
      rw [readItems]
      split
      · exact .of_ok ⟨List.suffix_rfl, .inl rfl⟩
      split
      next hblank => exact hskip List.suffix_rfl (Bool.and_eq_true_iff.mp hblank).1
      split
      next hcomment => exact hskip (skipLine_suffix ts) (Bool.and_eq_true_iff.mp hcomment).1
      split
      · have hset := readSet_reads ts
        split
        next e he => exact .of_error ((hset.error e he).mono htail)
        next test rest hrest => exact hpiece _ _ (hset.ok _ hrest)
      split
      · exact hpiece _ _ List.suffix_rfl
      split
      · exact hpiece _ _ List.suffix_rfl
      split
      · exact hpiece _ _ List.suffix_rfl
      split
      next hopen =>
        -- only a group may turn switches that hold for the whole pattern
        subst hopen
        refine (hgroup spot acc g ts).turns_of_suffix htail rfl fun h => ⟨h.1, h.2.imp_right ?_⟩
        intro hhead
        cases ts with
        | nil => cases hhead
        | cons u ts =>
          obtain rfl := Option.some.inj hhead
          exact ⟨ts, rfl⟩
      split
      · split
        · exact hpiece _ _ List.suffix_rfl
        next e he => exact .of_error (((readQuantifier?_reads he).error e rfl).mono htail)
        next least most rest hrest =>
          have hsuffix : rest <:+ ts := (readQuantifier?_reads hrest).ok _ rfl
          cases acc with
          | nil => exact .malformed
          | cons p acc =>
            have hrepeated : Ends (.char c :: ts) (fun _ => True) (repeatable p) :=
              repeatable_ends p
            dsimp only
            split
            next e he => exact .of_error (hrepeated.error e he)
            next n _ =>
              have hgreed : (readGreed rest).2 <:+ .char c :: ts :=
                ((readGreed_suffix rest).trans hsuffix).trans htail
              exact readItems_ends_after_piece hitems spot _ _ hgreed rfl
      · exact hpiece _ _ List.suffix_rfl

theorem readGroup_succ_ends
    (hchoice : ∀ spot acc g ts, Ends ts (Turns (Opens spot [] ts) g ts)
      (readChoice fuel spot acc g ts))
    (spot : Spot) (acc : List Piece) (g : Groups) (ts : List Token) :
    Ends ts (Turns (OpensGroup spot acc ts) g ts) (readGroup (fuel + 1) spot acc g ts) := by
  have hstart := readGroupStart_ends g ts
  rw [readGroup]
  cases hx : readGroupStart g ts with
  | error e => exact .of_error (hstart.error e hx)
  | ok b =>
    obtain ⟨start, g', rest⟩ := b
    obtain ⟨hrest, hflags, hmark⟩ := hstart.ok _ hx
    have hpiece (p : Piece) {g'' : Groups} {rest' : List Token} (hrest' : rest' <:+ rest)
        (hflags' : g''.flags = g'.flags) :
        Ends ts (Turns (OpensGroup spot acc ts) g ts) (readItems fuel spot (p :: acc) g'' rest') :=
      readItems_ends_after_piece hitems spot p acc (hrest'.trans hrest) (hflags'.trans hflags)
    have hbody (verbose : Bool) {g'' : Groups} (hflags' : g''.flags = g'.flags) :
        Ends ts (fun b => b.2.2 <:+ rest ∧ b.2.1.flags = g'.flags)
          (readChoice fuel (.inner verbose) [] g'' rest) :=
      (hchoice _ _ g'' rest).inside_group List.suffix_rfl hrest hflags'
    have hbranch {g'' : Groups} {rest' : List Token} (hrest' : rest' <:+ rest)
        (hflags' : g''.flags = g'.flags) :
        Ends ts (fun b => b.2.2 <:+ rest ∧ b.2.1.flags = g'.flags)
          (readItems fuel (.inner spot.verbose) [] g'' rest') :=
      (hitems _ _ g'' rest').inside_group hrest' hrest hflags'
    have hclose (tail : List Token) (h : tail <:+ rest) :
        Ends ts (· <:+ rest) (afterBracket tail) :=
      (afterBracket_ends tail).mono (h.trans hrest) fun _ hb => hb.trans h
    have hmarked (h : start ≠ .capture none) : ts.head? = some (.char '?') :=
      hmark.resolve_left h
    cases start with
    | nothing =>
      exact (hitems spot acc g' rest).turns_of_suffix hrest hflags fun hopens =>
        ⟨hopens.1, .inr (hmarked nofun)⟩
    | piece n => exact hpiece _ List.suffix_rfl rfl
    | whole on =>
      dsimp only
      split
      · exact .malformed
      next hplace =>
        have hat : AtStart spot acc := by simpa [AtStart, and_assoc] using hplace
        exact (hitems _ _ _ rest).mono hrest fun b hb =>
          ⟨hb.1.trans hrest, .inr ⟨hat, .inr (hmarked nofun)⟩⟩
    | capture name =>
      refine (enter_ends g' name).bind fun g'' hg'' => (hbody _ hg'').bind fun b hb => ?_
      exact (hclose _ hb.1).bind fun tail htail => hpiece _ htail hb.2
    | inside on off =>
      refine (hbody _ rfl).bind fun b hb => ?_
      exact (hclose _ hb.1).bind fun tail htail => hpiece _ htail hb.2
    | atomic =>
      refine (hbody _ rfl).bind fun b hb => ?_
      exact (hclose _ hb.1).bind fun tail htail => hpiece _ htail hb.2
    | look behind negated =>
      have hflags' : (if behind then { g' with behind := some (g'.behind.getD g'.next) }
          else g').flags = g'.flags := by
        split <;> rfl
      refine (hbody _ hflags').bind fun b hb => ?_
      exact (hclose _ hb.1).bind fun tail htail => hpiece _ htail hb.2
    | condition index =>
      refine (hbranch List.suffix_rfl rfl).bind fun yes hyes => ?_
      obtain ⟨ns, g₁, tail⟩ := yes
      dsimp only
      split
      next tail =>
        have htail : tail <:+ rest := (List.suffix_cons _ tail).trans hyes.1
        refine (hbranch htail hyes.2).bind fun no hno => ?_
        exact (hclose _ hno.1).bind fun tail' htail' => hpiece _ htail' hno.2
      · exact (hclose _ hyes.1).bind fun tail' htail' => hpiece _ htail' hyes.2

end

/-- What reading comes to: for the three readers together, by induction on the fuel. -/
theorem readers_end [Host] (fuel : Nat) :
    (∀ spot acc g ts, Ends ts (Turns (Opens spot [] ts) g ts) (readChoice fuel spot acc g ts)) ∧
    (∀ spot acc g ts, Ends ts (Turns (Opens spot acc ts) g ts) (readItems fuel spot acc g ts)) ∧
    ∀ spot acc g ts, Ends ts (Turns (OpensGroup spot acc ts) g ts)
      (readGroup fuel spot acc g ts) := by
  induction fuel with
  | zero =>
    refine ⟨fun spot acc g ts => ?_, fun spot acc g ts => ?_, fun spot acc g ts => ?_⟩
    · exact .malformed
    · exact .malformed
    · exact .malformed
  | succ fuel ih =>
    obtain ⟨hchoice, hitems, hgroup⟩ := ih
    exact ⟨readChoice_succ_ends hitems hchoice, readItems_succ_ends hitems hgroup,
      readGroup_succ_ends hitems hchoice⟩

/-- The characters of a text are those of its tokens. -/
theorem flatMap_chars_tokens (cs : List Char) : (tokens cs).flatMap Token.chars = cs := by
  fun_induction tokens cs with
  | case1 => rfl
  | case2 c cs ih => simp [Token.chars, ih]
  | case3 => rfl
  | case4 c cs _ _ ih => simp [Token.chars, ih]

theorem flatMap_chars_map_char (ds : List Char) : (ds.map Token.char).flatMap Token.chars = ds := by
  rw [List.flatMap_map]
  exact List.flatMap_singleton' ds

def NumberIn (cs ds : List Char) : Prop :=
  ds <:+: cs ∧ ∀ d ∈ ds, d.isDigit = true

theorem HoldsNumber.numberIn {cs ds : List Char} (h : HoldsNumber (tokens cs) ds) :
    NumberIn cs ds := by
  obtain ⟨⟨before, after, htokens⟩, hdigits⟩ := h
  refine ⟨⟨before.flatMap Token.chars, after.flatMap Token.chars, ?_⟩, hdigits⟩
  rw [← flatMap_chars_tokens cs, ← htokens, List.flatMap_append, List.flatMap_append,
    flatMap_chars_map_char]

/-- What a text holds for which it is no pattern; nothing special where it is malformed. -/
def Fault.IsOf (cs : List Char) : Fault → Prop
  | .malformed => True
  | .oversizedCount => ∃ ds, NumberIn cs ds ∧ countCap ≤ valueOf 10 ds
  | .longCount n => ∃ ds, NumberIn cs ds ∧ ds.length = n ∧ Number.maxDigits < n
  | .clashingFlags => ['(', '?'] <+: cs
  | .tooDeep _ => '(' ∈ cs

theorem Fault.IsIn.isOf {f : Fault} {cs : List Char} (h : f.IsIn (tokens cs)) : f.IsOf cs := by
  cases f with
  | malformed => trivial
  | oversizedCount =>
    obtain ⟨ds, hnumber, hcap⟩ := h
    exact ⟨ds, hnumber.numberIn, hcap⟩
  | longCount n =>
    obtain ⟨ds, hnumber, hlong⟩ := h
    exact ⟨ds, hnumber.numberIn, hlong⟩
  | clashingFlags => exact h.elim
  | tooDeep report => exact h.elim

theorem isOf_of_readShallow_error [Host] {cs : List Char} {f : Fault}
    (h : readShallow cs = .error f) : f.IsOf cs := by
  have hends := (readers_end (4 * cs.length + 4)).1 ⟨false, true, true⟩ [] .start (tokens cs)
  unfold readShallow at h
  split at h
  next e he =>
    cases h
    exact (hends.error f he).isOf
  next ns g rest hread =>
    split at h
    next hclash =>
      cases h
      -- the switches clash, so that one of them has been turned
      have hturned : g.flags ≠ Groups.start.flags := by
        intro hnone
        simp [hnone, Groups.start, Flags.none] at hclash
      obtain hverbose | ⟨us, hus⟩ := ((hends.ok _ hread).2.resolve_left hturned).2
      · cases hverbose
      · refine ⟨us.flatMap Token.chars, ?_⟩
        rw [← flatMap_chars_tokens cs, ← hus]
        rfl
    next =>
      dsimp only at h
      split at h
      · cases h
      · cases h
        trivial

/-- A text is refused as a pattern for what it holds. -/
theorem isOf_of_read_error [Host] {cs : List Char} {f : Fault} (h : read cs = .error f) :
    f.IsOf cs := by
  unfold read at h
  split at h
  next report hdeep =>
    cases h
    exact Host.bracket_mem hdeep
  · exact isOf_of_readShallow_error h

end Walkthrough.Pattern
