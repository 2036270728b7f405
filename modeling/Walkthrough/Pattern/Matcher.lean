import Walkthrough.Pattern.Basic
import Walkthrough.Text.Blank
import Walkthrough.Text.Case
import Walkthrough.Text.Digit
import Walkthrough.Text.Word

/-!
Matching patterns by backtracking. A pattern is run at a point of a text with what shall happen
after it; the first way on which that succeeds counts.
-/
namespace Walkthrough.Pattern

def Category.has (ascii : Bool) (c : Char) : Category → Bool
  | .digit => if ascii then c.isDigit else Text.isDigit c
  | .space =>
    if ascii then Text.isAsciiSpace c else Text.isBlank c
  | .word => if ascii then Text.isAsciiWord c else Text.isWord c

/-- Whether a code point is a character of a category; half a surrogate pair is none. -/
def Category.hasCode (ascii : Bool) (n : Nat) (c : Category) : Bool :=
  if n.isValidChar then c.has ascii (Char.ofNat n) else false

def SetPart.has (ascii : Bool) (n : Nat) : SetPart → Bool
  | .literal code => n == code
  | .range first last => first ≤ n && n ≤ last
  | .category negated c => c.hasCode ascii n != negated

/-- The last code point of the first plane. -/
def planeEnd : Nat := 0xFFFF

/-- The lower-case form of a code point, in ASCII or in all of Unicode. -/
def lowerOf (ascii : Bool) (n : Nat) : Nat :=
  if ascii then Text.asciiLowerCode n else Text.lowerCode n

/-- Whether a code point has forms of more than one case, in ASCII or in all of Unicode. -/
def casedIn (ascii : Bool) (n : Nat) : Bool :=
  if ascii then (Char.ofNat n).isAlpha && n < 0x80 else Text.isCased n

/-- The code points that have a lower-case form, in ASCII or in all of Unicode. -/
def loweredFrom (ascii : Bool) (n : Nat) : List Nat :=
  if ascii then
    if 97 ≤ n ∧ n ≤ 122 then [n, n - 32] else if 65 ≤ n ∧ n ≤ 90 then [] else [n]
  else Text.lowerPreimages n

/-- The lower-case forms that count as the same letter as one, itself among them. -/
def sameLetter (ascii : Bool) (n : Nat) : List Nat :=
  if ascii then [n] else n :: Text.alike n

/-- The code points that differ from a lower-case form at most in case. -/
def caseVariants (ascii : Bool) (n : Nat) : List Nat :=
  (sameLetter ascii n).flatMap (loweredFrom ascii)

/-- Whether a part of a set has code points that come in more than one case. -/
def SetPart.isCased (ascii : Bool) : SetPart → Bool
  | .literal code => planeEnd < lowerOf ascii code || casedIn ascii code
  | .range first last =>
    planeEnd < last || (List.range (last + 1 - first)).any fun i => casedIn ascii (first + i)
  | .category .. => false

/--
Whether a part of a set has a lower-case code point in some case. Beyond the first plane a single
code point has to be the lower-case form itself, and a range is also asked for the upper-case form.
-/
def SetPart.hasLowered (ascii : Bool) (n : Nat) : SetPart → Bool
  | .literal code =>
    if planeEnd < lowerOf ascii code then n == code
    else (sameLetter ascii n).contains (lowerOf ascii code)
  | .range first last =>
    ((caseVariants ascii n).any fun m => first ≤ m && m ≤ last && m ≤ planeEnd) ||
      (planeEnd < last &&
        ((first ≤ n && n ≤ last) ||
          (first ≤ Text.upperBeyond n && Text.upperBeyond n ≤ last)))
  | .category negated c => c.hasCode ascii n != negated

def isLiteral (f : Flags) (code : Nat) (c : Char) : Bool :=
  if f.ignoreCase && casedIn f.ascii code then
    (sameLetter f.ascii (lowerOf f.ascii code)).contains (lowerOf f.ascii c.toNat)
  else c.toNat == code

def isIn (f : Flags) (parts : List SetPart) (c : Char) : Bool :=
  if f.ignoreCase && parts.any (SetPart.isCased f.ascii) then
    parts.any (SetPart.hasLowered f.ascii (lowerOf f.ascii c.toNat))
  else parts.any (SetPart.has f.ascii c.toNat)

def CharTest.holds (f : Flags) (c : Char) : CharTest → Bool
  | .literal code => isLiteral f code c
  | .notLiteral code => !isLiteral f code c
  | .any => f.dotAll || c != '\n'
  | .set negated parts => isIn f parts c != negated

def sameChar (f : Flags) (a b : Char) : Bool :=
  if f.ignoreCase then lowerOf f.ascii a.toNat == lowerOf f.ascii b.toNat else a == b

/-- Whether a word begins or ends at a position. -/
def atBoundary (f : Flags) (text : Array Char) (pos : Nat) : Bool :=
  let isWord (c : Char) : Bool := Category.word.has f.ascii c
  let before := if pos = 0 then false else (text[pos - 1]?.map isWord).getD false
  let after := (text[pos]?.map isWord).getD false
  before != after

/-- Whether an anchor holds at a position; an empty text has no boundaries and nothing else. -/
def Anchor.holds (f : Flags) (text : Array Char) (pos : Nat) : Anchor → Bool
  | .textStart => pos == 0
  | .textEnd => pos == text.size
  | .lineStart => pos == 0 || (f.multiline && text[pos - 1]? == some '\n')
  | .lineEnd =>
    pos == text.size ||
      (text[pos]? == some '\n' && (f.multiline || pos + 1 == text.size))
  | .boundary negated => text.size != 0 && atBoundary f text pos != negated

/-- A point of a match: the position, and where groups began and ended, the latest first. -/
structure Point where
  pos : Nat
  marks : List (Nat × Nat)
  deriving DecidableEq, Repr

namespace Point

def startMark (index : Nat) : Nat := 2 * index

def endMark (index : Nat) : Nat := 2 * index + 1

def mark (p : Point) (m : Nat) : Point :=
  { p with marks := (m, p.pos) :: p.marks }

/-- Where a group began and ended, if it has matched. -/
def span? (p : Point) (index : Nat) : Option (Nat × Nat) :=
  match p.marks.lookup (startMark index), p.marks.lookup (endMark index) with
  | some a, some b => if a ≤ b then some (a, b) else none
  | _, _ => none

end Point

/-- What shall happen after a match. -/
abbrev Rest := Point → Option Point

/-- Whether the text has, at a position, the same characters as `count` ones from another. -/
def sameText (f : Flags) (text : Array Char) (source target : Nat) : (count : Nat) → Bool
  | 0 => true
  | count + 1 =>
    match text[source]?, text[target]? with
    | some a, some b => sameChar f a b && sameText f text (source + 1) (target + 1) count
    | _, _ => false

/-- Whether one more repetition is allowed: the bound is not reached, and the last one moved on. -/
def mayRepeat (most : Option Nat) (count : Nat) (last : Option Nat) (p : Point) : Bool :=
  (match most with
    | some n => count < n
    | none => true) && last != some p.pos

/-- Repeats as often as can be, and less often where that fails. -/
def runGreedy (body : Rest → Rest) (rest : Rest) (least : Nat) (most : Option Nat) :
    (fuel count : Nat) → (last : Option Nat) → Rest
  | 0, _, _, _ => none
  | fuel + 1, count, last, p =>
    if count < least then body (runGreedy body rest least most fuel (count + 1) last) p
    else
      let more :=
        if mayRepeat most count last p then
          body (runGreedy body rest least most fuel (count + 1) (some p.pos)) p
        else none
      match more with
      | some q => some q
      | none => rest p

/-- Repeats as seldom as can be, and more often where that fails. -/
def runLazy (body : Rest → Rest) (rest : Rest) (least : Nat) (most : Option Nat) :
    (fuel count : Nat) → (last : Option Nat) → Rest
  | 0, _, _, _ => none
  | fuel + 1, count, last, p =>
    if count < least then body (runLazy body rest least most fuel (count + 1) last) p
    else
      match rest p with
      | some q => some q
      | none =>
        if mayRepeat most count last p then
          body (runLazy body rest least most fuel (count + 1) (some p.pos)) p
        else none

/-- Repeats as often as can be, each time in the first way, and stops there. -/
def runPossessive (body : Rest) (least : Nat) (most : Option Nat) :
    (fuel count : Nat) → (last : Option Nat) → Rest
  | 0, _, _, _ => none
  | fuel + 1, count, last, p =>
    if count < least then
      match body p with
      | some q => runPossessive body least most fuel (count + 1) last q
      | none => none
    else if mayRepeat most count last p then
      match body p with
      | some q => runPossessive body least most fuel (count + 1) (some p.pos) q
      | none => some p
    else some p

/-- The rounds after which no repetition can go on: the least number, and one for each position. -/
def rounds (text : Array Char) (least : Nat) (p : Point) : Nat :=
  least + (text.size - p.pos) + 2

/-- Runs a pattern; looking behind begins as many characters earlier as the width says. -/
def Node.run (text : Array Char) (groups : Nat → Node.Width) : Node → Flags → Rest → Rest
  | .empty, _, rest => rest
  | .one test, f, rest => fun p =>
    match text[p.pos]? with
    | some c => if test.holds f c then rest { p with pos := p.pos + 1 } else none
    | none => none
  | .anchor a, f, rest => fun p => if a.holds f text p.pos then rest p else none
  | .seq a b, f, rest => a.run text groups f (b.run text groups f rest)
  | .alt a b, f, rest => fun p =>
    match a.run text groups f rest p with
    | some q => some q
    | none => b.run text groups f rest p
  | .group index body, f, rest => fun p =>
    body.run text groups f (fun q => rest (q.mark (Point.endMark index)))
      (p.mark (Point.startMark index))
  | .scoped on off body, f, rest => body.run text groups (f.scope on off) rest
  | .backref index, f, rest => fun p =>
    match p.span? index with
    | some (a, b) =>
      if sameText f text a p.pos (b - a) then rest { p with pos := p.pos + (b - a) } else none
    | none => none
  | .look behind negated body, f, rest => fun p =>
    let back := if behind then (body.width groups).1 else 0
    let found :=
      if back ≤ p.pos then body.run text groups f some { p with pos := p.pos - back } else none
    match found, negated with
    | some q, false => rest { q with pos := p.pos }
    | none, true => rest p
    | _, _ => none
  | .atomic body, f, rest => fun p =>
    match body.run text groups f some p with
    | some q => rest q
    | none => none
  | .ifGroup index yes no, f, rest => fun p =>
    if (p.span? index).isSome then yes.run text groups f rest p else no.run text groups f rest p
  | .rep .greedy least most body, f, rest => fun p =>
    runGreedy (body.run text groups f) rest least most (rounds text least p) 0 none p
  | .rep .lazy least most body, f, rest => fun p =>
    runLazy (body.run text groups f) rest least most (rounds text least p) 0 none p
  | .rep .possessive least most body, f, rest => fun p =>
    match runPossessive (body.run text groups f some) least most (rounds text least p) 0 none p with
    | some q => rest q
    | none => none

namespace Regex

def matchesAt (r : Regex) (text : Array Char) (pos : Nat) : Bool :=
  (r.body.run text r.widthOf r.flags some ⟨pos, []⟩).isSome

def search (r : Regex) (cs : List Char) : Bool :=
  let text := cs.toArray
  (List.range (text.size + 1)).any (r.matchesAt text)

end Regex

end Walkthrough.Pattern
