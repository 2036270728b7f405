/-!
Patterns: regular expressions with groups, back references, looking around, atomic groups and
repetition that is greedy, lazy or possessive.
-/
namespace Walkthrough.Pattern

inductive Category
  | digit
  | space
  | word
  deriving DecidableEq, Repr

/-- A part of a set: a code point, a range of them, or a category or its complement. -/
inductive SetPart
  | literal (code : Nat)
  | range (first last : Nat)
  | category (negated : Bool) (c : Category)
  deriving DecidableEq, Repr

/-- What one character has to be. -/
inductive CharTest
  | literal (code : Nat)
  | notLiteral (code : Nat)
  | any
  | set (negated : Bool) (parts : List SetPart)
  deriving DecidableEq, Repr

inductive Anchor
  | lineStart
  | lineEnd
  | textStart
  | textEnd
  | boundary (negated : Bool)
  deriving DecidableEq, Repr

structure Flags where
  ignoreCase : Bool
  multiline : Bool
  dotAll : Bool
  verbose : Bool
  ascii : Bool
  unicode : Bool
  template : Bool
  deriving DecidableEq, Repr

namespace Flags

def none : Flags := ⟨false, false, false, false, false, false, false⟩

def union (f g : Flags) : Flags :=
  ⟨f.ignoreCase || g.ignoreCase, f.multiline || g.multiline, f.dotAll || g.dotAll,
    f.verbose || g.verbose, f.ascii || g.ascii, f.unicode || g.unicode, f.template || g.template⟩

/-- The switches of both that are the same. -/
def common (f g : Flags) : Flags :=
  ⟨f.ignoreCase && g.ignoreCase, f.multiline && g.multiline, f.dotAll && g.dotAll,
    f.verbose && g.verbose, f.ascii && g.ascii, f.unicode && g.unicode, f.template && g.template⟩

/-- The switches after some are turned on and others off; a character set replaces the other. -/
def scope (f on off : Flags) : Flags :=
  { ignoreCase := (f.ignoreCase || on.ignoreCase) && !off.ignoreCase
    multiline := (f.multiline || on.multiline) && !off.multiline
    dotAll := (f.dotAll || on.dotAll) && !off.dotAll
    verbose := (f.verbose || on.verbose) && !off.verbose
    ascii := if on.ascii || on.unicode then on.ascii else f.ascii
    unicode := if on.ascii || on.unicode then on.unicode else f.unicode
    template := f.template }

end Flags

/-- How a repetition chooses its length: the longest first, the shortest first, or the longest. -/
inductive Greed
  | greedy
  | lazy
  | possessive
  deriving DecidableEq, Repr

inductive Node
  | empty
  | one (test : CharTest)
  | anchor (a : Anchor)
  | seq (a b : Node)
  | alt (a b : Node)
  /-- A group whose text is kept under a number. -/
  | group (index : Nat) (body : Node)
  /-- Other switches hold inside. -/
  | scoped (on off : Flags) (body : Node)
  /-- The text of a group once more. -/
  | backref (index : Nat)
  /-- Whether something follows, or stands before. -/
  | look (behind negated : Bool) (body : Node)
  /-- Only the first way to match counts. -/
  | atomic (body : Node)
  /-- One pattern or another, as a group has matched or not. -/
  | ifGroup (index : Nat) (yes no : Node)
  | rep (greed : Greed) (min : Nat) (max : Option Nat) (body : Node)
  deriving DecidableEq, Repr

namespace Node

def ofList : List Node → Node
  | [] => .empty
  | [n] => n
  | n :: ns => .seq n (ofList ns)

def choice : List Node → Node
  | [] => .empty
  | [n] => n
  | n :: ns => .alt n (choice ns)

/-- The least and the greatest number of characters that a pattern matches. -/
abbrev Width := Nat × Nat

/-- A width that stands for all greater ones. -/
def widthCap : Nat := 18446744073709551616

def Width.add (a b : Width) : Width :=
  (min (a.1 + b.1) widthCap, min (a.2 + b.2) widthCap)

def Width.join (a b : Width) : Width :=
  (min a.1 b.1, max a.2 b.2)

def Width.times (w : Width) (least : Nat) (most : Option Nat) : Width :=
  let upper :=
    match most with
    | some n => w.2 * n
    | none => if w.2 = 0 then 0 else widthCap
  (min (w.1 * least) widthCap, min upper widthCap)

/-- The width of a pattern, given those of the groups. -/
def width (groups : Nat → Width) : Node → Width
  | .empty => (0, 0)
  | .one _ => (1, 1)
  | .anchor _ => (0, 0)
  | .seq a b => (a.width groups).add (b.width groups)
  | .alt a b => (a.width groups).join (b.width groups)
  | .group _ body => body.width groups
  | .scoped _ _ body => body.width groups
  | .backref i => groups i
  | .look .. => (0, 0)
  | .atomic body => body.width groups
  | .ifGroup _ yes no => (yes.width groups).join (no.width groups)
  | .rep _ least most body => (body.width groups).times least most

/-- The widest pattern that may be looked for behind a position. -/
def lookBehindCap : Nat := 4294967295

/-- Whether all that is looked for behind a position has a width. -/
def looksBehindFixed (groups : Nat → Width) : Node → Bool
  | .empty | .one _ | .anchor _ | .backref _ => true
  | .seq a b | .alt a b | .ifGroup _ a b => a.looksBehindFixed groups && b.looksBehindFixed groups
  | .group _ body | .scoped _ _ body | .atomic body | .rep _ _ _ body =>
    body.looksBehindFixed groups
  | .look behind _ body =>
    body.looksBehindFixed groups &&
      (!behind || ((body.width groups).1 == (body.width groups).2 &&
        (body.width groups).1 ≤ lookBehindCap))

def repeats : Node → Bool
  | .empty | .one _ | .anchor _ | .backref _ => false
  | .seq a b | .alt a b | .ifGroup _ a b => a.repeats || b.repeats
  | .group _ body | .scoped _ _ body | .atomic body | .look _ _ body => body.repeats
  | .rep .. => true

end Node

/-- A pattern with its switches; the widths of its groups, from number one on. -/
structure Regex where
  flags : Flags
  widths : List Node.Width
  body : Node

def Regex.widthOf (r : Regex) (index : Nat) : Node.Width :=
  if index = 0 then (0, 0) else r.widths.getD (index - 1) (0, 0)

end Walkthrough.Pattern
