import Walkthrough.Json.Fault
import Walkthrough.Text.Digit
import Walkthrough.Value.Basic

/-!
Reading JSON texts. Integers and doubles stay apart, `NaN` and the infinities are read, the last of
several entries under one name counts, and nesting is bounded.
-/
namespace Walkthrough.Json

/-- A fault in the making: an offence is placed by the characters from it to the end. -/
inductive Slip
  | at (complaint : Complaint) (rest : List Char)
  | tooManyDigits (digits : Nat)
  | tooDeep (inArray : Bool)

/-- The fault in a text of the given length. -/
def Slip.toFault (total : Nat) : Slip → Fault
  | .at complaint rest => .at complaint (total - rest.length)
  | .tooManyDigits digits => .tooManyDigits digits
  | .tooDeep inArray => .tooDeep inArray

def isSpace (c : Char) : Bool :=
  c == ' ' || c == '\t' || c == '\n' || c == '\r'

def skipSpace (cs : List Char) : List Char :=
  cs.dropWhile isSpace

/-- The character that a one-letter escape stands for. -/
def escape? : Char → Option Char
  | '"' => some '"'
  | '\\' => some '\\'
  | '/' => some '/'
  | 'b' => some '\x08'
  | 'f' => some '\x0c'
  | 'n' => some '\n'
  | 'r' => some '\r'
  | 't' => some '\t'
  | _ => none

/-- The number that four hexadecimal digits at the front make; a character must follow them. -/
def fourHex? : List Char → Option (Nat × List Char)
  | a :: b :: c :: d :: e :: rest => do
    let a ← Text.hexValue? a
    let b ← Text.hexValue? b
    let c ← Text.hexValue? c
    let d ← Text.hexValue? d
    some (((a * 16 + b) * 16 + c) * 16 + d, e :: rest)
  | _ => none

def isHighSurrogate (n : Nat) : Bool := 0xD800 ≤ n && n ≤ 0xDBFF

def isLowSurrogate (n : Nat) : Bool := 0xDC00 ≤ n && n ≤ 0xDFFF

/-- The character with a code point; half a surrogate pair becomes the replacement character. -/
def charOf (n : Nat) : Char :=
  if n.isValidChar then Char.ofNat n else '\uFFFD'

/-- What an escape by code point reads: the character, and the characters after it. -/
def readUnicodeEscape (cs : List Char) : Except Slip (Char × List Char) :=
  match fourHex? cs with
  | none => .error (.at .badUnicodeEscape ('u' :: cs))
  | some (n, rest) =>
    match rest with
    | '\\' :: 'u' :: low =>
      if isHighSurrogate n && 4 < low.length then
        match fourHex? low with
        | none => .error (.at .badUnicodeEscape ('u' :: low))
        | some (m, rest') =>
          if isLowSurrogate m then
            .ok (charOf (0x10000 + (n - 0xD800) * 0x400 + (m - 0xDC00)), rest')
          else .ok (charOf n, rest)
      else .ok (charOf n, rest)
    | _ => .ok (charOf n, rest)

theorem fourHex?_length {cs rest : List Char} {n : Nat} (h : fourHex? cs = some (n, rest)) :
    rest.length + 4 = cs.length := by
  match cs with
  | a :: b :: c :: d :: e :: r =>
    simp only [fourHex?, Option.bind_eq_bind, Option.bind_eq_some_iff, Option.some.injEq,
      Prod.mk.injEq] at h
    obtain ⟨_, _, _, _, _, _, _, _, _, rfl⟩ := h
    simp
  | [] | [_] | [_, _] | [_, _, _] | [_, _, _, _] => simp [fourHex?] at h

theorem readUnicodeEscape_length {cs rest : List Char} {c : Char}
    (h : readUnicodeEscape cs = .ok (c, rest)) : rest.length < cs.length := by
  unfold readUnicodeEscape at h
  split at h
  · simp at h
  · rename_i n r hn
    have hr := fourHex?_length hn
    split at h
    · split at h
      · split at h
        · simp at h
        · rename_i m r' hm
          have hm' := fourHex?_length hm
          split at h <;> simp only [Except.ok.injEq, Prod.mk.injEq] at h <;>
            obtain ⟨_, rfl⟩ := h <;> simp only [List.length_cons] at hr ⊢ <;> omega
      · simp only [Except.ok.injEq, Prod.mk.injEq] at h
        obtain ⟨_, rfl⟩ := h
        omega
    · simp only [Except.ok.injEq, Prod.mk.injEq] at h
      obtain ⟨_, rfl⟩ := h
      omega

/--
Reads a string after its opening quote. `whole` starts at that quote and `acc` holds the characters
read, the last one first.
-/
def readString (whole acc : List Char) (cs : List Char) : Except Slip (List Char × List Char) :=
  match cs with
  | [] => .error (.at .unterminatedString whole)
  | '"' :: rest => .ok (acc.reverse, rest)
  | ['\\'] => .error (.at .unterminatedString whole)
  | '\\' :: 'u' :: rest =>
    match h : readUnicodeEscape rest with
    | .error e => .error e
    | .ok (c, rest') =>
      have := readUnicodeEscape_length h
      readString whole (c :: acc) rest'
  | '\\' :: c :: rest =>
    match escape? c with
    | none => .error (.at .badEscape cs)
    | some c' => readString whole (c' :: acc) rest
  | c :: rest =>
    if c.toNat ≤ 0x1F then .error (.at .controlCharacter cs)
    else readString whole (c :: acc) rest
termination_by cs.length

def spanDigits (cs : List Char) : List Char × List Char :=
  cs.span Char.isDigit

/-- A point and the digits of a fraction at the front, if both are there. -/
def fraction? : List Char → Option (List Char × List Char)
  | '.' :: cs =>
    match spanDigits cs with
    | ([], _) => none
    | (ds, rest) => some (ds, rest)
  | _ => none

/-- An exponent at the front, if its mark and at least one digit are there. -/
def exponent? : List Char → Option (Int × List Char)
  | c :: cs =>
    if c == 'e' || c == 'E' then
      let (negative, cs) :=
        match cs with
        | '-' :: r => (true, r)
        | '+' :: r => (false, r)
        | _ => (false, cs)
      match spanDigits cs with
      | ([], _) => none
      | (ds, rest) =>
        let n : Int := Number.decimalValue ds
        some (if negative then -n else n, rest)
    else none
  | [] => none

/-- The digits before the point: a zero alone, or digits that start with another one. -/
def wholePart? : List Char → Option (List Char × List Char)
  | '0' :: cs => some (['0'], cs)
  | cs =>
    match spanDigits cs with
    | ([], _) => none
    | (ds, rest) => some (ds, rest)

/-- Reads a number, a double when it has a fraction or an exponent; none when there is none. -/
def readNumber? (cs : List Char) : Option (Except Slip (Value × List Char)) :=
  let (negative, body) :=
    match cs with
    | '-' :: r => (true, r)
    | _ => (false, cs)
  match wholePart? body with
  | none => none
  | some (ds, rest) =>
    match fraction? rest, exponent? rest with
    | none, none =>
      if Number.maxDigits < ds.length then some (.error (.tooManyDigits ds.length))
      else
        let n : Int := Number.decimalValue ds
        some (.ok (.int (if negative then -n else n), rest))
    | none, some (e, rest) =>
      some (.ok (.float (Number.Binary64.ofDecimal negative (Number.decimalValue ds) e), rest))
    | some (fs, rest), _ =>
      let (e, rest) := (exponent? rest).getD (0, rest)
      some (.ok (.float (Number.Binary64.ofDecimal negative (Number.decimalValue (ds ++ fs))
        (e - fs.length)), rest))

def notANumber : Float := 0.0 / 0.0

def infinity (negative : Bool) : Float :=
  if negative then -1.0 / 0.0 else 1.0 / 0.0

/-- Reads a value that holds no other: a word, a number or a string. -/
def readScalar (cs : List Char) : Except Slip (Value × List Char) :=
  match cs with
  | '"' :: rest =>
    match readString cs [] rest with
    | .error e => .error e
    | .ok (s, rest) => .ok (.text (String.ofList s), rest)
  | 'n' :: 'u' :: 'l' :: 'l' :: rest => .ok (.null, rest)
  | 't' :: 'r' :: 'u' :: 'e' :: rest => .ok (.bool true, rest)
  | 'f' :: 'a' :: 'l' :: 's' :: 'e' :: rest => .ok (.bool false, rest)
  | 'N' :: 'a' :: 'N' :: rest => .ok (.float notANumber, rest)
  | 'I' :: 'n' :: 'f' :: 'i' :: 'n' :: 'i' :: 't' :: 'y' :: rest =>
    .ok (.float (infinity false), rest)
  | '-' :: 'I' :: 'n' :: 'f' :: 'i' :: 'n' :: 'i' :: 't' :: 'y' :: rest =>
    .ok (.float (infinity true), rest)
  | _ =>
    match readNumber? cs with
    | some r => r
    | none => .error (.at .expectingValue cs)

mutual

/-- Reads a value; `depth` more arrays and objects may be open inside one another. -/
def readValue : (fuel depth : Nat) → List Char → Except Slip (Value × List Char)
  | 0, _, cs => .error (.at .expectingValue cs)
  | fuel + 1, depth, cs =>
    match cs with
    | '[' :: rest =>
      match depth with
      | 0 => .error (.tooDeep true)
      | depth + 1 =>
        match skipSpace rest with
        | ']' :: rest => .ok (.list [], rest)
        | rest => readItems fuel depth [] rest
    | '\x7b' :: rest =>
      match depth with
      | 0 => .error (.tooDeep false)
      | depth + 1 =>
        match skipSpace rest with
        | '\x7d' :: rest => .ok (.object [], rest)
        | rest => readEntries fuel depth [] rest
    | _ => readScalar cs

/-- Reads the items of an array up to its closing bracket; `acc` holds those before, last first. -/
def readItems : (fuel depth : Nat) → List Value → List Char → Except Slip (Value × List Char)
  | 0, _, _, cs => .error (.at .expectingValue cs)
  | fuel + 1, depth, acc, cs =>
    match readValue fuel depth cs with
    | .error e => .error e
    | .ok (v, rest) =>
      match skipSpace rest with
      | ']' :: rest => .ok (.list (v :: acc).reverse, rest)
      | ',' :: rest => readItems fuel depth (v :: acc) (skipSpace rest)
      | rest => .error (.at .expectingComma rest)

/-- Reads the entries of an object up to its closing brace; `acc` holds those before. -/
def readEntries : (fuel depth : Nat) → Entries → List Char → Except Slip (Value × List Char)
  | 0, _, _, cs => .error (.at .expectingValue cs)
  | fuel + 1, depth, acc, cs =>
    match cs with
    | '"' :: rest =>
      match readString cs [] rest with
      | .error e => .error e
      | .ok (key, rest) =>
        match skipSpace rest with
        | ':' :: rest =>
          match readValue fuel depth (skipSpace rest) with
          | .error e => .error e
          | .ok (v, rest) =>
            let acc := Entries.set acc (String.ofList key) v
            match skipSpace rest with
            | '\x7d' :: rest => .ok (.object acc, rest)
            | ',' :: rest => readEntries fuel depth acc (skipSpace rest)
            | rest => .error (.at .expectingComma rest)
        | rest => .error (.at .expectingColon rest)
    | _ => .error (.at .expectingName cs)

end

/-- How many arrays and objects may be open inside one another. -/
def maxDepth : Nat := 990

/-- Reads a whole text, with at most `depth` arrays and objects inside one another. -/
def readWithin (depth : Nat) (cs : List Char) : Except Fault Value :=
  let fail (s : Slip) := Except.error (s.toFault cs.length)
  match cs with
  | '\uFEFF' :: _ => fail (.at .byteOrderMark cs)
  | _ =>
    match readValue (2 * cs.length + 2) depth (skipSpace cs) with
    | .error s => fail s
    | .ok (v, rest) =>
      match skipSpace rest with
      | [] => .ok v
      | rest => fail (.at .extraData rest)

def read (cs : List Char) : Except Fault Value :=
  readWithin maxDepth cs

end Walkthrough.Json
