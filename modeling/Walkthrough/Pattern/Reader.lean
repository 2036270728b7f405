import Walkthrough.Pattern.Token

/-! Reading patterns from texts. -/
namespace Walkthrough.Pattern

structure Groups where
  /-- The width of each group begun, from number one on; none while it is open. -/
  widths : List (Option Node.Width)
  names : List (String × Nat)
  /-- The groups that conditions ask about. -/
  asked : List Nat
  /-- Inside what is looked for behind: the first number that a group begun there has. -/
  behind : Option Nat
  flags : Flags

namespace Groups

def start : Groups := ⟨[], [], [], none, .none⟩

/-- The width of a group; nothing when it is not there or open. -/
def width? (g : Groups) (index : Nat) : Option Node.Width :=
  if index = 0 then none else (g.widths[index - 1]?).join

/-- Whether a group may be referred to from inside what is looked for behind. -/
def visibleBehind (g : Groups) (index : Nat) : Bool :=
  match g.behind with
  | none => true
  | some first => (g.width? index).isSome && index < first

def next (g : Groups) : Nat := g.widths.length + 1

/-- Begins a group; a name may be given only once. -/
def enter (g : Groups) (name : Option String) : Except Fault Groups :=
  match name with
  | none => .ok { g with widths := g.widths ++ [none] }
  | some s =>
    if (g.names.lookup s).isSome then .error .malformed
    else .ok { g with widths := g.widths ++ [none], names := (s, g.next) :: g.names }

def close (g : Groups) (index : Nat) (w : Node.Width) : Groups :=
  { g with widths := g.widths.set (index - 1) (some w) }

/-- The widths of the groups, zero for those that are open. -/
def widthOf (g : Groups) (index : Nat) : Node.Width :=
  (g.width? index).getD (0, 0)

/-- A reference back to a group that is complete. -/
def refer (g : Groups) (index : Nat) : Except Fault Node :=
  if (g.width? index).isSome && g.visibleBehind index then .ok (.backref index)
  else .error .malformed

end Groups

/-- What has been read: a pattern, or the patterns of a group that only holds them together. -/
inductive Piece
  | node (n : Node)
  | plain (ns : List Node)

/-- The patterns of pieces, plain groups dissolved. -/
def Piece.nodes : Piece → List Node
  | .node n => [n]
  | .plain ns => ns

/-- Patterns read so far, the last one first, in order and with plain groups dissolved. -/
def flatten (acc : List Piece) : List Node :=
  acc.reverse.flatMap Piece.nodes

/-- Whether two patterns are the same test, anchor or reference. -/
def sameSimple : Node → Node → Bool
  | .one a, .one b => a == b
  | .anchor a, .anchor b => a == b
  | .backref a, .backref b => a == b
  | _, _ => false

/-- Takes simple patterns with which all of several lists begin out of them. -/
def factor : List Node → List (List Node) → List Node × List (List Node)
  | [], others => ([], [] :: others)
  | n :: first, others =>
    if others.all (fun o => (o.head?.map (sameSimple n)).getD false) then
      let (shared, rest) := factor first (others.map List.tail)
      (n :: shared, rest)
    else ([], (n :: first) :: others)

/-- The parts of a set that a list of patterns stands for, if it is one test that can join. -/
def setPartsOf? : List Node → Option (List SetPart)
  | [.one (.literal n)] => some [.literal n]
  | [.one (.set false parts)] => some parts
  | _ => none

/-- The alternatives of a choice: what they share comes first, and single characters are a set. -/
def alternatives : List (List Node) → List Node
  | [] => []
  | [ns] => ns
  | first :: others =>
    let (shared, rest) := factor first others
    match rest.mapM setPartsOf? with
    | some parts => shared ++ [.one (.set false parts.flatten.eraseDups)]
    | none => shared ++ [.choice (rest.map .ofList)]

/-- How often something is repeated: at least, and at most if there is a bound. -/
abbrev Bounds := Nat × Option Nat

def countCap : Nat := 4294967295

def readCount (ds : List Char) : Except Fault Nat :=
  if Number.maxDigits < ds.length then .error (.longCount ds.length)
  else
    let n := valueOf 10 ds
    if countCap ≤ n then .error .oversizedCount else .ok n

/-- The bounds that digits give, none of them meaning no bound. -/
def boundsOf (lo hi : List Char) : Except Fault Bounds :=
  match if lo.isEmpty then .ok 0 else readCount lo with
  | .error e => .error e
  | .ok least =>
    if hi.isEmpty then .ok (least, none)
    else
      match readCount hi with
      | .error e => .error e
      | .ok most => if most < least then .error .malformed else .ok (least, some most)

/-- Bounds after an opening brace; none when the brace stands for itself. -/
def readBounds? (ts : List Token) : Option (Except Fault (Bounds × List Token)) :=
  if ts.head? = some (.char '\x7d') then none
  else
    let (lo, rest) := spanChars Char.isDigit ts
    let (hi, rest) :=
      match rest with
      | .char ',' :: rest => spanChars Char.isDigit rest
      | _ => (lo, rest)
    match rest with
    | .char '\x7d' :: .loneBackslash :: _ => some (.error .malformed)
    | .char '\x7d' :: rest => some ((boundsOf lo hi).map fun b => (b, rest))
    | _ => none

/-- The bounds that a sign of repetition gives; none for a brace that stands for itself. -/
def readQuantifier? (c : Char) (ts : List Token) : Option (Except Fault (Bounds × List Token)) :=
  if c = '?' then some (.ok ((0, some 1), ts))
  else if c = '*' then some (.ok ((0, none), ts))
  else if c = '+' then some (.ok ((1, none), ts))
  else readBounds? ts

/-- How a repetition chooses its length, by the sign after its bounds. -/
def readGreed : List Token → Greed × List Token
  | .char '?' :: ts => (.lazy, ts)
  | .char '+' :: ts => (.possessive, ts)
  | ts => (.greedy, ts)

/-- What can be repeated of a piece: no anchor, and no repetition. -/
def repeatable : Piece → Except Fault Node
  | .plain ns => .ok (.ofList ns)
  | .node (.anchor _) | .node (.rep ..) => .error .malformed
  | .node n => .ok n

/-- A number in a reference: up to two digits, or three of base eight for a code point. -/
def readReference (g : Groups) (c : Char) (ts : List Token) : Except Fault (Node × List Token) :=
  let refer (n : Nat) (rest : List Token) := (g.refer n).map (·, rest)
  match ts with
  | .char d :: rest =>
    if !d.isDigit then refer (valueOf 10 [c]) ts
    else
      match rest with
      | .char e :: rest' =>
        if isOctal c && isOctal d && isOctal e then
          let n := valueOf 8 [c, d, e]
          if n ≤ 0o377 then .ok (.one (.literal n), rest') else .error .malformed
        else refer (valueOf 10 [c, d]) rest
      | _ => refer (valueOf 10 [c, d]) rest
  | _ => refer (valueOf 10 [c]) ts

/-- The anchor that a letter after a backslash stands for. -/
def anchorOf? : Char → Option Anchor
  | 'A' => some .textStart
  | 'Z' => some .textEnd
  | 'b' => some (.boundary false)
  | 'B' => some (.boundary true)
  | _ => none

/-- What an escape stands for outside sets. -/
def readEscape [Host] (g : Groups) (c : Char) (ts : List Token) :
    Except Fault (Node × List Token) :=
  match anchorOf? c, categoryOf? c, controlCode? c with
  | some a, _, _ => .ok (.anchor a, ts)
  | none, some part, _ => .ok (.one (.set false [part]), ts)
  | none, none, some n => .ok (.one (.literal n), ts)
  | none, none, none =>
    if c = '0' then
      let (ds, rest) := takeChars isOctal 2 ts
      .ok (.one (.literal (valueOf 8 ds)), rest)
    else if c.isDigit then readReference g c ts
    else (takeCode c ts).map fun (n, rest) => (.one (.literal n), rest)

/-- The switch that a letter turns. -/
def flagOf? : Char → Option Flags
  | 'i' => some { Flags.none with ignoreCase := true }
  | 'm' => some { Flags.none with multiline := true }
  | 's' => some { Flags.none with dotAll := true }
  | 'x' => some { Flags.none with verbose := true }
  | 'a' => some { Flags.none with ascii := true }
  | 'u' => some { Flags.none with unicode := true }
  | 't' => some { Flags.none with template := true }
  | _ => none

/-- Switches to turn on, up to the sign that ends them: a bracket, a colon or a hyphen. -/
def readFlagsOn : (fuel : Nat) → Flags → List Token → Except Fault (Flags × Char × List Token)
  | fuel + 1, acc, .char c :: ts =>
    match flagOf? c with
    | some f =>
      let acc := acc.union f
      if acc.ascii && acc.unicode then .error .malformed else readFlagsOn fuel acc ts
    | none => if c = ')' ∨ c = ':' ∨ c = '-' then .ok (acc, c, ts) else .error .malformed
  | _, _, _ => .error .malformed

/-- Switches to turn off, up to the colon; those of the character set cannot be. -/
def readFlagsOff : (fuel : Nat) → Flags → List Token → Except Fault (Flags × List Token)
  | fuel + 1, acc, .char c :: ts =>
    match flagOf? c with
    | some f =>
      if f.ascii || f.unicode then .error .malformed else readFlagsOff fuel (acc.union f) ts
    | none => if c = ':' ∧ acc ≠ .none then .ok (acc, ts) else .error .malformed
  | _, _, _ => .error .malformed

/-- What switches in a group hold for: the whole pattern, or a group with a body. -/
inductive FlagGroup
  | whole (on : Flags)
  | inside (on off : Flags)

def readFlagGroup (ts : List Token) : Except Fault (FlagGroup × List Token) :=
  match readFlagsOn (ts.length + 1) .none ts with
  | .error e => .error e
  | .ok (on, ')', rest) => if on = .none then .error .malformed else .ok (.whole on, rest)
  | .ok (on, close, rest) =>
    if on.template then .error .malformed
    else if close = ':' then .ok (.inside on .none, rest)
    else
      match readFlagsOff (rest.length + 1) .none rest with
      | .error e => .error e
      | .ok (off, rest) =>
        if off.template || on.common off ≠ .none then .error .malformed
        else .ok (.inside on off, rest)

/-- The number of the group that a condition asks about, by its name or number. -/
def readCondition (g : Groups) (cs : List Char) : Except Fault (Nat × Groups) :=
  if Text.isName cs then
    match g.names.lookup (String.ofList cs) with
    | some n => .ok (n, g)
    | none => .error .malformed
  else
    match Number.readInteger cs with
    | .ok (.ofNat (n + 1)) => .ok (n + 1, { g with asked := (n + 1) :: g.asked })
    | _ => .error .malformed

/-- What follows a comment of a verbose pattern; a backslash at the end of the text is no comment.
-/
def skipLine : List Token → List Token
  | [] => []
  | t :: ts =>
    if t = .char '\n' then ts else if t = .loneBackslash then t :: ts else skipLine ts

def skipComment : List Token → Except Fault (List Token)
  | [] => .error .malformed
  | t :: ts => if t = .char ')' then .ok ts else skipComment ts

/-- The blanks that a verbose pattern may hold. -/
def isVerboseBlank (c : Char) : Bool :=
  c == ' ' || c == '\t' || c == '\n' || c == '\r' || c == '\x0b' || c == '\x0c'

def afterBracket : List Token → Except Fault (List Token)
  | .char ')' :: ts => .ok ts
  | _ => .error .malformed

/-- How a group begins, after the bracket that opens it. -/
inductive GroupStart
  /-- Nothing is matched, as by a comment. -/
  | nothing
  | piece (n : Node)
  | whole (on : Flags)
  | capture (name : Option String)
  | inside (on off : Flags)
  | atomic
  | look (behind negated : Bool)
  | condition (index : Nat)

def readName (close : Char) (ts : List Token) : Except Fault (String × List Token) :=
  match takeUntil close [] ts with
  | .error e => .error e
  | .ok (cs, rest) =>
    if Text.isName cs then .ok (String.ofList cs, rest) else .error .malformed

/-- Reads how a group begins, after its opening bracket. -/
def readGroupStart (g : Groups) (ts : List Token) :
    Except Fault (GroupStart × Groups × List Token) :=
  match ts with
  | .char '?' :: .char 'P' :: .char '<' :: rest =>
    (readName '>' rest).map fun (name, rest) => (.capture (some name), g, rest)
  | .char '?' :: .char 'P' :: .char '=' :: rest => do
    let (name, rest) ← readName ')' rest
    match g.names.lookup name with
    | some n => (g.refer n).map fun node => (.piece node, g, rest)
    | none => .error .malformed
  | .char '?' :: .char ':' :: rest => .ok (.inside .none .none, g, rest)
  | .char '?' :: .char '#' :: rest => (skipComment rest).map fun rest => (.nothing, g, rest)
  | .char '?' :: .char '=' :: rest => .ok (.look false false, g, rest)
  | .char '?' :: .char '!' :: rest => .ok (.look false true, g, rest)
  | .char '?' :: .char '<' :: .char '=' :: rest => .ok (.look true false, g, rest)
  | .char '?' :: .char '<' :: .char '!' :: rest => .ok (.look true true, g, rest)
  | .char '?' :: .char '>' :: rest => .ok (.atomic, g, rest)
  | .char '?' :: .char '(' :: rest => do
    let (cs, rest) ← takeUntil ')' [] rest
    let (index, g) ← readCondition g cs
    if g.visibleBehind index then .ok (.condition index, g, rest) else .error .malformed
  | .char '?' :: rest => do
    match ← readFlagGroup rest with
    | (.whole on, rest) => .ok (.whole on, g, rest)
    | (.inside on off, rest) => .ok (.inside on off, g, rest)
  | _ => .ok (.capture none, g, ts)

/-- Where in a pattern one reads: whether blanks are skipped, and whether nothing came before. -/
structure Spot where
  verbose : Bool
  /-- Outside all groups. -/
  outermost : Bool
  /-- In the first alternative. -/
  first : Bool

def Spot.inner (verbose : Bool) : Spot := ⟨verbose, false, false⟩

mutual

/-- Reads the alternatives up to the end of the text or of the group; `acc` holds those before. -/
def readChoice [Host] : (fuel : Nat) → Spot → List (List Node) → Groups → List Token →
    Except Fault (List Node × Groups × List Token)
  | 0, _, _, _, _ => .error .malformed
  | fuel + 1, spot, acc, g, ts =>
    match readItems fuel spot [] g ts with
    | .error e => .error e
    | .ok (ns, g, .char '|' :: rest) =>
      let verbose := if spot.outermost then g.flags.verbose else spot.verbose
      readChoice fuel ⟨verbose, spot.outermost, false⟩ (ns :: acc) g rest
    | .ok (ns, g, rest) => .ok (alternatives (ns :: acc).reverse, g, rest)

/-- Reads one alternative; `acc` holds what came before in it, the last piece first. -/
def readItems [Host] : (fuel : Nat) → Spot → List Piece → Groups → List Token →
    Except Fault (List Node × Groups × List Token)
  | 0, _, _, _, _ => .error .malformed
  | _ + 1, _, acc, g, [] => .ok (flatten acc, g, [])
  | fuel + 1, spot, acc, g, t :: ts =>
    match t with
    | .loneBackslash => .error .malformed
    | .escape c =>
      match readEscape g c ts with
      | .error e => .error e
      | .ok (n, ts) => readItems fuel spot (.node n :: acc) g ts
    | .char c =>
      if c = '|' ∨ c = ')' then .ok (flatten acc, g, t :: ts)
      else if spot.verbose && isVerboseBlank c then readItems fuel spot acc g ts
      else if spot.verbose && c == '#' then readItems fuel spot acc g (skipLine ts)
      else if c = '[' then
        match readSet ts with
        | .error e => .error e
        | .ok (test, ts) => readItems fuel spot (.node (.one test) :: acc) g ts
      else if c = '.' then readItems fuel spot (.node (.one .any) :: acc) g ts
      else if c = '^' then readItems fuel spot (.node (.anchor .lineStart) :: acc) g ts
      else if c = '$' then readItems fuel spot (.node (.anchor .lineEnd) :: acc) g ts
      else if c = '(' then readGroup fuel spot acc g ts
      else if c = '*' ∨ c = '+' ∨ c = '?' ∨ c = '\x7b' then
        match readQuantifier? c ts with
        | none => readItems fuel spot (.node (.one (.literal c.toNat)) :: acc) g ts
        | some (.error e) => .error e
        | some (.ok ((least, most), ts)) =>
          match acc with
          | [] => .error .malformed
          | piece :: acc =>
            match repeatable piece with
            | .error e => .error e
            | .ok n =>
              let (greed, ts) := readGreed ts
              readItems fuel spot (.node (.rep greed least most n) :: acc) g ts
      else readItems fuel spot (.node (.one (.literal c.toNat)) :: acc) g ts

/-- Reads a group after its opening bracket, and then the rest of the alternative. -/
def readGroup [Host] : (fuel : Nat) → Spot → List Piece → Groups → List Token →
    Except Fault (List Node × Groups × List Token)
  | 0, _, _, _, _ => .error .malformed
  | fuel + 1, spot, acc, g, ts =>
    match readGroupStart g ts with
    | .error e => .error e
    | .ok (.nothing, g, ts) => readItems fuel spot acc g ts
    | .ok (.piece n, g, ts) => readItems fuel spot (.node n :: acc) g ts
    | .ok (.whole on, g, ts) =>
      if !(spot.outermost && spot.first) || !acc.isEmpty then .error .malformed
      else
        let flags := g.flags.union on
        readItems fuel { spot with verbose := flags.verbose } acc { g with flags } ts
    | .ok (.capture name, g, ts) => do
      let index := g.next
      let g ← g.enter name
      let (ns, g, rest) ← readChoice fuel (.inner spot.verbose) [] g ts
      let rest ← afterBracket rest
      let body := Node.ofList ns
      let g := g.close index (body.width g.widthOf)
      readItems fuel spot (.node (.group index body) :: acc) g rest
    | .ok (.inside on off, g, ts) => do
      let verbose := (spot.verbose || on.verbose) && !off.verbose
      let (ns, g, rest) ← readChoice fuel (.inner verbose) [] g ts
      let rest ← afterBracket rest
      let piece : Piece :=
        if on = .none ∧ off = .none then .plain ns else .node (.scoped on off (.ofList ns))
      readItems fuel spot (piece :: acc) g rest
    | .ok (.atomic, g, ts) => do
      let (ns, g, rest) ← readChoice fuel (.inner spot.verbose) [] g ts
      let rest ← afterBracket rest
      readItems fuel spot (.node (.atomic (.ofList ns)) :: acc) g rest
    | .ok (.look behind negated, g, ts) => do
      let outer := g.behind
      let g := if behind then { g with behind := some (outer.getD g.next) } else g
      let (ns, g, rest) ← readChoice fuel (.inner spot.verbose) [] g ts
      let g := { g with behind := outer }
      let rest ← afterBracket rest
      readItems fuel spot (.node (.look behind negated (.ofList ns)) :: acc) g rest
    | .ok (.condition index, g, ts) => do
      let (yes, g, rest) ← readItems fuel (.inner spot.verbose) [] g ts
      match rest with
      | .char '|' :: rest =>
        let (no, g, rest) ← readItems fuel (.inner spot.verbose) [] g rest
        let rest ← afterBracket rest
        readItems fuel spot (.node (.ifGroup index (.ofList yes) (.ofList no)) :: acc) g rest
      | _ =>
        let rest ← afterBracket rest
        readItems fuel spot (.node (.ifGroup index (.ofList yes) .empty) :: acc) g rest

end

/-- What can only be told of a whole pattern: groups asked about are there, and so on. -/
def Regex.isSound (r : Regex) (asked : List Nat) : Bool :=
  asked.all (· ≤ r.widths.length) && r.body.looksBehindFixed r.widthOf &&
    !(r.flags.template && r.body.repeats)

/-- Reads a pattern that is not nested too deeply. -/
def readShallow [Host] (cs : List Char) : Except Fault Regex :=
  match readChoice (4 * cs.length + 4) ⟨false, true, true⟩ [] .start (tokens cs) with
  | .error e => .error e
  | .ok (ns, g, rest) =>
    if g.flags.ascii && g.flags.unicode then .error .clashingFlags
    else
      let r : Regex := ⟨g.flags, g.widths.map (·.getD (0, 0)), .ofList ns⟩
      if rest.isEmpty && r.isSound g.asked then .ok r else .error .malformed

def read [Host] (cs : List Char) : Except Fault Regex :=
  match Host.complaint? cs with
  | some report => .error (.tooDeep report)
  | none => readShallow cs

end Walkthrough.Pattern
