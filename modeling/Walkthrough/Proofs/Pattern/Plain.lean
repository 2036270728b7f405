import Walkthrough.Pattern.Match
import Walkthrough.Proofs.Text.Infix

/-!
Plain text as a pattern: where no character has a meaning of its own, a pattern is read as these
characters one after the other, and to search it is to look for the text as it stands.
-/
namespace Walkthrough.Pattern

def specialChars : List Char :=
  ['\\', '.', '^', '$', '*', '+', '?', '\x7b', '[', '|', '(', ')']

/-- No character of a text has a meaning of its own. -/
def IsPlain (cs : List Char) : Prop := ∀ c ∈ cs, c ∉ specialChars

instance (cs : List Char) : Decidable (IsPlain cs) :=
  List.decidableBAll (· ∉ specialChars) cs

def Node.char (c : Char) : Node := .one (.literal c.toNat)

section Reading
variable {cs : List Char} {c : Char}

theorem IsPlain.of_cons (h : IsPlain (c :: cs)) : c ∉ specialChars ∧ IsPlain cs :=
  List.forall_mem_cons.mp h

theorem tokens_of_isPlain (h : IsPlain cs) : tokens cs = cs.map .char := by
  induction cs with
  | nil => rfl
  | cons c cs ih =>
    obtain ⟨hc, hcs⟩ := h.of_cons
    have hslash : c ≠ '\\' := by
      rintro rfl
      exact hc (by decide)
    rw [tokens, ih hcs, List.map_cons]
    · rintro d ds rfl
      exact absurd rfl hslash
    · rintro rfl
      exact absurd rfl hslash

/-- A character without a meaning of its own is read as itself. -/
theorem readItems_char [Host] {spot : Spot} (hspot : spot.verbose = false) (hc : c ∉ specialChars)
    (fuel : Nat) (acc : List Piece) (g : Groups) (ts : List Token) :
    readItems (fuel + 1) spot acc g (.char c :: ts) =
      readItems fuel spot (.node (.char c) :: acc) g ts := by
  simp only [specialChars, List.mem_cons, List.not_mem_nil, or_false, not_or] at hc
  rw [readItems]
  simp [hspot, hc, Node.char]

theorem readItems_of_isPlain [Host] {spot : Spot} (hspot : spot.verbose = false) (h : IsPlain cs)
    {fuel : Nat} (hfuel : cs.length < fuel) (acc : List Piece) (g : Groups) :
    readItems fuel spot acc g (cs.map .char) = .ok (flatten acc ++ cs.map .char, g, []) := by
  induction cs generalizing fuel acc with
  | nil =>
    obtain ⟨fuel, rfl⟩ := Nat.exists_eq_add_of_lt hfuel
    simp [readItems]
  | cons c cs ih =>
    obtain ⟨hc, hcs⟩ := h.of_cons
    obtain ⟨fuel, rfl⟩ : ∃ n, fuel = n + 1 := Nat.exists_eq_add_one.mpr (by omega)
    rw [List.map_cons, readItems_char hspot hc, ih hcs (by simpa using hfuel)]
    simp [flatten, Piece.nodes]

theorem looksBehindFixed_ofList_char (groups : Nat → Node.Width) (cs : List Char) :
    (Node.ofList (cs.map .char)).looksBehindFixed groups = true := by
  induction cs with
  | nil => rfl
  | cons c cs ih =>
    cases cs with
    | nil => rfl
    | cons d ds => exact ih

/-- A plain text is read as its characters, one after the other; it opens no group. -/
theorem read_of_isPlain [Host] (h : IsPlain cs) :
    read cs = .ok ⟨.none, [], .ofList (cs.map .char)⟩ := by
  have hshallow : Host.complaint? cs = none := by
    cases hdeep : Host.complaint? cs with
    | none => rfl
    | some report => exact absurd (Host.bracket_mem hdeep) fun hmem => h '(' hmem (by decide)
  have hitems : readItems (4 * cs.length + 3) ⟨false, true, true⟩ [] .start (cs.map .char) =
      .ok (flatten [] ++ cs.map .char, .start, []) :=
    readItems_of_isPlain rfl h (by omega) [] .start
  simp only [read, hshallow]
  rw [readShallow, tokens_of_isPlain h, readChoice, hitems]
  have hsound : (true && Regex.isSound ⟨.none, [], .ofList (cs.map .char)⟩ []) = true := by
    simp [Regex.isSound, looksBehindFixed_ofList_char, Flags.none]
  exact if_pos hsound

end Reading

section Searching
variable {cs needle : List Char} {c : Char}

theorem Node.run_ofList_cons (text : Array Char) (groups : Nat → Width) (f : Flags) (rest : Rest)
    (n : Node) (ns : List Node) :
    (ofList (n :: ns)).run text groups f rest =
      n.run text groups f ((ofList ns).run text groups f rest) := by
  cases ns <;> rfl

theorem Node.run_char (groups : Nat → Width) (rest : Rest) (p : Point) :
    (char c).run cs.toArray groups .none rest p =
      if cs[p.pos]? = some c then rest { p with pos := p.pos + 1 } else none := by
  simp only [char, run, List.getElem?_toArray]
  cases cs[p.pos]? with
  | none => rfl
  | some d => simp [CharTest.holds, isLiteral, Flags.none, Char.toNat_inj]

/-- Characters one after the other match where the text goes on with them. -/
theorem Node.isSome_run_ofList_char (groups : Nat → Width) (p : Point) :
    ((ofList (needle.map char)).run cs.toArray groups .none some p).isSome = true ↔
      needle <+: cs.drop p.pos := by
  induction needle generalizing p with
  | nil => simp [ofList, run]
  | cons c needle ih =>
    rw [List.map_cons, run_ofList_cons, run_char, Text.cons_prefix_drop_iff]
    split
    next h => rw [ih, and_iff_right h]
    next h => simp [h]

/-- To search characters one after the other is to look for them as they stand. -/
theorem Regex.search_ofList_char :
    (⟨.none, [], .ofList (needle.map .char)⟩ : Regex).search cs = true ↔ needle <:+: cs := by
  rw [← Text.exists_prefix_drop_iff]
  simp only [search, List.any_eq_true, List.mem_range, List.size_toArray, Nat.lt_succ_iff,
    matchesAt, Node.isSome_run_ofList_char]

end Searching

/-- A plain text that is compared as a pattern is looked for as it stands; so it is also found in
every text that it is as a whole. -/
theorem compare_plain [Host] {pattern : String} (hplain : IsPlain pattern.toList)
    (actual : String) :
    (∀ strict : Option Bool, strict ≠ some true → ∃ matched,
      compare actual pattern (strict.getD false) = .ok matched ∧
        (matched = true ↔ pattern.toList <:+: actual.toList)) ∧
    (compare actual pattern true = .ok true → ∀ strict : Option Bool, strict ≠ some true →
      compare actual pattern (strict.getD false) = .ok true) := by
  have hsearch (strict : Option Bool) (hstrict : strict ≠ some true) : ∃ matched,
      compare actual pattern (strict.getD false) = .ok matched ∧
        (matched = true ↔ pattern.toList <:+: actual.toList) := by
    have hloose : ¬strict.getD false = true := by
      cases strict <;> simp_all
    rw [compare, if_neg hloose, read_of_isPlain hplain]
    exact ⟨_, rfl, Regex.search_ofList_char⟩
  refine ⟨hsearch, fun hwhole strict hstrict => ?_⟩
  obtain ⟨matched, hcompare, hmatched⟩ := hsearch strict hstrict
  obtain rfl : actual = pattern := by
    rw [compare, if_pos rfl] at hwhole
    exact eq_of_beq (Except.ok.inj hwhole)
  rw [hcompare, hmatched.mpr List.infix_rfl]

open scoped Walkthrough.Pattern.Host in
/-- Closing brackets and a line end have no meaning of their own. -/
theorem compare_plain_brackets :
    IsPlain "]\x7d\n-".toList ∧
      compare "a[0]\x7d\n-b" "]\x7d\n-" false = .ok true ∧
      compare "a[0]\x7d -b" "]\x7d\n-" false = .ok false ∧
      compare "]\x7d\n-" "]\x7d\n-" ((some false).getD false) = .ok true := by
  have hplain : IsPlain "]\x7d\n-".toList := by decide
  have hsearch (actual : String) := (compare_plain hplain actual).1 none (by decide)
  refine ⟨hplain, ?_, ?_, (compare_plain hplain _).2 rfl (some false) (by decide)⟩
  · obtain ⟨matched, hcompare, hmatched⟩ := hsearch "a[0]\x7d\n-b"
    rwa [hmatched.mpr ⟨['a', '[', '0'], ['b'], rfl⟩] at hcompare
  · obtain ⟨matched, hcompare, hmatched⟩ := hsearch "a[0]\x7d -b"
    have hmissing : ¬"]\x7d\n-".toList <:+: "a[0]\x7d -b".toList := by decide
    rwa [Bool.eq_false_iff.mpr (mt hmatched.mp hmissing)] at hcompare

end Walkthrough.Pattern
