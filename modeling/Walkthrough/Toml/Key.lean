import Walkthrough.Toml.Fault

/-! Blanks, comments, strings and keys of TOML documents. -/
namespace Walkthrough.Toml

def isSpace (c : Char) : Bool := c == ' ' || c == '\t'

/-- The blanks within a line and the line feed. -/
def isFiller (c : Char) : Bool := isSpace c || c == '\n'

def skipSpace (cs : List Char) : List Char := cs.dropWhile isSpace

/-- Control characters, which only an escape can write; the tab is none. -/
def isControl (c : Char) : Bool := (c.toNat < 0x20 && c != '\t') || c.toNat = 0x7F

/-- The end of the line, if the characters up to it may stand in a comment. -/
def lineEnd : List Char → Except Slip (List Char)
  | [] => .ok []
  | c :: cs =>
    if c == '\n' then .ok (c :: cs)
    else if isControl c then .error (.at (.invalidCharacter c) (c :: cs))
    else lineEnd cs

/-- The characters after a comment at the front, if there is one. -/
def skipComment : List Char → Except Slip (List Char)
  | '#' :: cs => lineEnd cs
  | cs => .ok cs

/-- The characters after blanks, line feeds and comments at the front. -/
def skipFiller (inComment : Bool) : List Char → Except Slip (List Char)
  | [] => .ok []
  | c :: cs =>
    if c == '\n' then skipFiller false cs
    else if inComment then
      if isControl c then .error (.at (.invalidCharacter c) (c :: cs)) else skipFiller true cs
    else if isSpace c then skipFiller false cs
    else if c == '#' then skipFiller true cs
    else .ok (c :: cs)

/-- The characters before the first occurrence of a mark, and those from it on. -/
def splitBefore? (mark : List Char) : List Char → Option (List Char × List Char)
  | [] => none
  | c :: cs =>
    if mark.isPrefixOf (c :: cs) then some ([], c :: cs)
    else (splitBefore? mark cs).map fun (before, rest) => (c :: before, rest)

/-- Reads a string without escapes up to its closing mark. -/
def readLiteral (mark : String) (isIllegal : Char → Bool) (cs : List Char) :
    Except Slip (List Char × List Char) :=
  match splitBefore? mark.toList cs with
  | none => .error (.at (.expected mark) [])
  | some (inner, rest) =>
    match inner.find? isIllegal with
    | some c => .error (.at (.invalidCharacter c) (cs.dropWhile (!isIllegal ·)))
    | none => .ok (inner, rest.drop mark.length)

/-- The character that a one-letter escape stands for. -/
def escape? : Char → Option Char
  | 'b' => some '\x08'
  | 't' => some '\t'
  | 'n' => some '\n'
  | 'f' => some '\x0c'
  | 'r' => some '\r'
  | '"' => some '"'
  | '\\' => some '\\'
  | _ => none

/-- Reads the character that hexadecimal digits name by its code point. -/
def readHexChar (digits : Nat) (cs : List Char) : Except Slip (List Char × List Char) :=
  match (cs.take digits).mapM Text.hexValue? with
  | none => .error (.at .badHex cs)
  | some ds =>
    if ds.length < digits then .error (.at .badHex cs)
    else
      let rest := cs.drop digits
      let n := ds.foldl (fun n d => n * 16 + d) 0
      if n.isValidChar then .ok ([Char.ofNat n], rest) else .error (.at .noScalarValue rest)

/--
Reads an escape after its backslash: what it stands for, and the characters after it. Where line
feeds may stand, a backslash at the end of a line joins it with the next text.
-/
def readEscape (multiline : Bool) (cs : List Char) : Except Slip (List Char × List Char) :=
  match cs with
  | [] => .error (.at .strayBackslash [])
  | c :: rest =>
    if multiline && isFiller c then
      match cs.dropWhile isSpace with
      | [] => .ok ([], [])
      | '\n' :: rest => .ok ([], rest.dropWhile isFiller)
      | rest => .error (.at .strayBackslash rest)
    else if c == 'u' then readHexChar 4 rest
    else if c == 'U' then readHexChar 8 rest
    else
      match escape? c with
      | some x => .ok ([x], rest)
      | none => .error (.at .strayBackslash rest)

theorem length_dropWhile_le (p : Char → Bool) (cs : List Char) :
    (cs.dropWhile p).length ≤ cs.length :=
  (List.dropWhile_sublist p).length_le

theorem readHexChar_length {n : Nat} {cs out rest : List Char}
    (h : readHexChar n cs = .ok (out, rest)) : rest.length ≤ cs.length := by
  simp only [readHexChar] at h
  split at h
  · simp at h
  · split at h
    · simp at h
    · split at h <;> simp only [Except.ok.injEq, Prod.mk.injEq, reduceCtorEq] at h
      obtain ⟨_, rfl⟩ := h
      simp

theorem readEscape_length {m : Bool} {cs out rest : List Char}
    (h : readEscape m cs = .ok (out, rest)) : rest.length ≤ cs.length := by
  cases cs with
  | nil => simp [readEscape] at h
  | cons c cs =>
    simp only [readEscape] at h
    split at h
    · have hd := length_dropWhile_le isSpace (c :: cs)
      split at h <;> simp only [Except.ok.injEq, Prod.mk.injEq, reduceCtorEq] at h
      · simp [← h.2]
      · rename_i r hr
        have hf := length_dropWhile_le isFiller r
        rw [hr] at hd
        obtain ⟨_, rfl⟩ := h
        simp only [List.length_cons] at hd ⊢
        omega
    · split at h
      · exact Nat.le_succ_of_le (readHexChar_length h)
      · split at h
        · exact Nat.le_succ_of_le (readHexChar_length h)
        · split at h <;> simp only [Except.ok.injEq, Prod.mk.injEq, reduceCtorEq] at h
          simp [← h.2]

/-- Reads a string with escapes after its opening mark; `acc` holds what is read, last first. -/
def readBasic (multiline : Bool) (acc cs : List Char) : Except Slip (List Char × List Char) :=
  match cs with
  | [] => .error (.at .unterminatedString [])
  | '\\' :: rest =>
    match h : readEscape multiline rest with
    | .error e => .error e
    | .ok (out, rest') =>
      have := readEscape_length h
      readBasic multiline (out.reverse ++ acc) rest'
  | '"' :: rest =>
    if !multiline then .ok (acc.reverse, rest)
    else if ['"', '"'].isPrefixOf rest then .ok (acc.reverse, rest.drop 2)
    else readBasic multiline ('"' :: acc) rest
  | c :: rest =>
    if isControl c && !(multiline && c == '\n') then .error (.at (.illegalCharacter c) cs)
    else readBasic multiline (c :: acc) rest
termination_by cs.length

/-- Up to two more quotes right after the closing mark belong to a string of several lines. -/
def takeQuotes (quote : Char) (inner rest : List Char) : List Char × List Char :=
  let extra := (rest.take 2).takeWhile (· == quote)
  (inner ++ extra, rest.drop extra.length)

/-- The characters after a line feed at the front, if there is one. -/
def dropLineFeed : List Char → List Char
  | '\n' :: cs => cs
  | cs => cs

/-- Reads a string, which a quote starts. -/
def readString? (cs : List Char) : Option (Except Slip (List Char × List Char)) :=
  match cs with
  | '"' :: '"' :: '"' :: rest =>
    some ((readBasic true [] (dropLineFeed rest)).map fun (s, rest) => takeQuotes '"' s rest)
  | '\'' :: '\'' :: '\'' :: rest =>
    some ((readLiteral "'''" (fun c => isControl c && c != '\n') (dropLineFeed rest)).map
      fun (s, rest) => takeQuotes '\'' s rest)
  | '"' :: rest => some (readBasic false [] rest)
  | '\'' :: rest => some (readLiteral "'" isControl rest)
  | _ => none

def isBareKey (c : Char) : Bool := c.isAlphanum || c == '-' || c == '_'

/-- Reads one part of a key: bare, or a string of one line. -/
def readKeyPart (cs : List Char) : Except Slip (String × List Char) :=
  match cs with
  | '\'' :: rest => (readLiteral "'" isControl rest).map fun (s, rest) => (String.ofList s, rest)
  | '"' :: rest => (readBasic false [] rest).map fun (s, rest) => (String.ofList s, rest)
  | _ =>
    let (part, rest) := cs.span isBareKey
    if part.isEmpty then .error (.at .badKey cs) else .ok (String.ofList part, rest)

/-- Reads a key, whose parts are joined by points, and the blanks after it. -/
def readKeyParts : (fuel : Nat) → List Char → Except Slip (Path × List Char)
  | 0, cs => .error (.at .badKey cs)
  | fuel + 1, cs =>
    match readKeyPart cs with
    | .error e => .error e
    | .ok (part, rest) =>
      match skipSpace rest with
      | '.' :: rest => (readKeyParts fuel (skipSpace rest)).map fun (ks, rest) => (part :: ks, rest)
      | rest => .ok ([part], rest)

def readKey (cs : List Char) : Except Slip (Path × List Char) :=
  readKeyParts (cs.length + 1) cs

end Walkthrough.Toml
