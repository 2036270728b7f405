import Walkthrough.Json.Printer
import Walkthrough.Json.Reader

/-! Strings of JSON: what is printed of a text is read as that text. -/
namespace Walkthrough

namespace Text

theorem hexValue?_digitChar : ∀ k < 16, hexValue? (Nat.digitChar k) = some k := by decide

/-- One place more has the remainder by sixteen as its digit. -/
theorem hex_succ (width n : Nat) :
    hex (width + 2) n = hex (width + 1) (n / 16) ++ [Nat.digitChar (n % 16)] := by
  unfold hex
  dsimp only
  by_cases hn : n < 16
  · rw [Nat.toDigits_of_lt_base hn, Nat.div_eq_of_lt hn, Nat.mod_eq_of_lt hn,
      Nat.toDigits_of_lt_base (by decide)]
    exact congrArg (· ++ _) List.replicate_succ'
  · rw [Nat.toDigits_of_base_le (by decide) (by omega), ← List.append_assoc]
    simp

theorem hex_four {n : Nat} (hn : n < 0x10000) :
    hex 4 n = [Nat.digitChar (n / 0x1000), Nat.digitChar (n / 0x100 % 16),
      Nat.digitChar (n / 0x10 % 16), Nat.digitChar (n % 16)] := by
  have hone : hex 1 (n / 0x1000) = [Nat.digitChar (n / 0x1000)] := by
    unfold hex
    rw [Nat.toDigits_of_lt_base (by omega)]
    rfl
  have htwo : n / 16 / 16 = n / 0x100 := by omega
  have hthree : n / 0x100 / 16 = n / 0x1000 := by omega
  rw [hex_succ, hex_succ, hex_succ, htwo, hthree, hone]
  rfl

end Text

namespace Json
variable {n : Nat} {c : Char} {whole acc tail rest : List Char}

/-- Four digits are read only before another character. -/
theorem fourHex?_hex (hn : n < 0x10000) (htail : tail ≠ []) :
    fourHex? (Text.hex 4 n ++ tail) = some (n, tail) := by
  obtain ⟨e, rest, rfl⟩ := List.exists_cons_of_ne_nil htail
  have hvalue : ((n / 0x1000 * 16 + n / 0x100 % 16) * 16 + n / 0x10 % 16) * 16 + n % 16 = n := by
    omega
  simp only [Text.hex_four hn, List.cons_append, List.nil_append, fourHex?,
    Text.hexValue?_digitChar (n / 0x1000) (by omega),
    Text.hexValue?_digitChar (n / 0x100 % 16) (by omega),
    Text.hexValue?_digitChar (n / 0x10 % 16) (by omega),
    Text.hexValue?_digitChar (n % 16) (by omega), Option.bind_eq_bind, Option.bind_some, hvalue]

theorem charOf_of_isValidChar (h : n.isValidChar) : charOf n = Char.ofNat n := if_pos h

/-- Half a surrogate pair is no character, so no other escape is drawn in. -/
theorem readUnicodeEscape_hex (hn : n < 0x10000) (hvalid : n.isValidChar) (htail : tail ≠ []) :
    readUnicodeEscape (Text.hex 4 n ++ tail) = .ok (Char.ofNat n, tail) := by
  have hhigh : isHighSurrogate n = false := by
    unfold Nat.isValidChar at hvalid
    simp only [isHighSurrogate, Bool.and_eq_false_iff, decide_eq_false_iff_not]
    omega
  unfold readUnicodeEscape
  simp only [fourHex?_hex hn htail, hhigh, charOf_of_isValidChar hvalid, Bool.false_and]
  split <;> rfl

theorem escapeUnit_append (n : Nat) (tail : List Char) :
    escapeUnit n ++ tail = '\\' :: 'u' :: (Text.hex 4 n ++ tail) := rfl

theorem readUnicodeEscape_pair (hn : n < 0x100000) (htail : tail ≠ []) :
    readUnicodeEscape (Text.hex 4 (0xD800 + n / 0x400) ++
        (escapeUnit (0xDC00 + n % 0x400) ++ tail)) = .ok (Char.ofNat (0x10000 + n), tail) := by
  have hhigh : isHighSurrogate (0xD800 + n / 0x400) = true := by
    simp only [isHighSurrogate, Bool.and_eq_true, decide_eq_true_eq]
    omega
  have hlow : isLowSurrogate (0xDC00 + n % 0x400) = true := by
    simp only [isLowSurrogate, Bool.and_eq_true, decide_eq_true_eq]
    omega
  have hcode : 0x10000 + (0xD800 + n / 0x400 - 0xD800) * 0x400 +
      (0xDC00 + n % 0x400 - 0xDC00) = 0x10000 + n := by omega
  have hvalid : (0x10000 + n).isValidChar := .inr ⟨by omega, by omega⟩
  have hlength : 4 < (Text.hex 4 (0xDC00 + n % 0x400) ++ tail).length := by
    have := List.length_pos_iff.mpr htail
    rw [List.length_append, Text.hex_four (by omega)]
    simp only [List.length_cons, List.length_nil]
    omega
  have hrest : escapeUnit (0xDC00 + n % 0x400) ++ tail ≠ [] := List.cons_ne_nil _ _
  unfold readUnicodeEscape
  rw [fourHex?_hex (by omega) hrest]
  simp only [escapeUnit, List.cons_append, hhigh, hlength, decide_true, Bool.and_self, if_true,
    fourHex?_hex (show 0xDC00 + n % 0x400 < 0x10000 by omega) htail, hlow, hcode,
    charOf_of_isValidChar hvalid]

theorem readString_plain (hquote : c ≠ '"') (hslash : c ≠ '\\') (hc : 0x1F < c.toNat) :
    readString whole acc (c :: tail) = readString whole (c :: acc) tail := by
  rw [readString, if_neg (Nat.not_le.mpr hc)]
  · exact hquote
  · exact fun h => absurd h hslash
  · exact fun _ h => absurd h hslash
  · exact fun _ _ h => absurd h hslash

theorem readString_escape {e : Char} (h : escape? e = some c) :
    readString whole acc ('\\' :: e :: tail) = readString whole (c :: acc) tail := by
  have he : e ≠ 'u' := by
    rintro rfl
    cases h
  rw [readString]
  · simp only [h]
  · exact he

theorem readString_unicode (h : readUnicodeEscape tail = .ok (c, rest)) :
    readString whole acc ('\\' :: 'u' :: tail) = readString whole (c :: acc) rest := by
  rw [readString]
  split
  next h' =>
    rw [h] at h'
    cases h'
  next h' =>
    rw [h] at h'
    cases h'
    rfl

/-- What is printed of a character is read as that character. -/
theorem readString_printChar (whole acc : List Char) (c : Char) (htail : tail ≠ []) :
    readString whole acc (printChar c ++ tail) = readString whole (c :: acc) tail := by
  have hvalid : c.toNat.isValidChar := c.valid
  have hchar : Char.ofNat c.toNat = c := Char.ofNat_toNat c
  unfold printChar
  by_cases hquote : c = '"'
  · subst hquote
    exact readString_escape rfl
  by_cases hslash : c = '\\'
  · subst hslash
    exact readString_escape rfl
  rw [if_neg (mt eq_of_beq hquote), if_neg (mt eq_of_beq hslash)]
  -- the five control characters that have a letter of their own
  iterate 5
    split
    next h =>
      cases eq_of_beq h
      exact readString_escape rfl
  split
  next h => exact readString_plain hquote hslash (by omega)
  split
  next h =>
    have hread := readUnicodeEscape_hex h hvalid htail
    rw [hchar] at hread
    exact readString_unicode hread
  next h =>
    have hlt : c.toNat - 0x10000 < 0x100000 := by
      unfold Nat.isValidChar at hvalid
      omega
    have hcode : 0x10000 + (c.toNat - 0x10000) = c.toNat := by omega
    have hread := readUnicodeEscape_pair hlt htail
    rw [hcode, hchar] at hread
    dsimp only
    rw [List.append_assoc, escapeUnit_append]
    exact readString_unicode hread

/-- What is printed of a text is read as that text, up to the quote at its end. -/
theorem readString_print (whole acc cs rest : List Char) :
    readString whole acc (cs.flatMap printChar ++ '"' :: rest) = .ok (acc.reverse ++ cs, rest) := by
  induction cs generalizing acc with
  | nil =>
    rw [List.flatMap_nil, List.nil_append, readString, List.append_nil]
  | cons c cs ih =>
    have htail : cs.flatMap printChar ++ '"' :: rest ≠ [] := List.append_ne_nil_of_right_ne_nil _
      (List.cons_ne_nil _ _)
    rw [List.flatMap_cons, List.append_assoc, readString_printChar whole acc c htail, ih,
      List.reverse_cons, List.append_assoc, List.singleton_append]

end Json

end Walkthrough
