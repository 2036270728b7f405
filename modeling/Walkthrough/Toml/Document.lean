import Walkthrough.Toml.Scalar

/-!
Reading TOML documents: tables opened by headers, arrays of tables, dotted keys and inline tables.
A table is opened by one header only, and what an inline table or an array holds stays as it is.
-/
namespace Walkthrough.Toml

inductive Clash
  /-- A value that is no table stands on the way. -/
  | blocked
  /-- The key has a value. -/
  | taken
  deriving DecidableEq, Repr

/--
Changes the table at a path; tables that are missing on the way are made. `intoArrays` says whether
the way leads through an array to its last item.
-/
def modifyAt (intoArrays : Bool) (f : Entries → Except Clash Entries) :
    Path → Entries → Except Clash Entries
  | [], es => f es
  | key :: path, es =>
    match Entries.get? es key with
    | none => (modifyAt intoArrays f path []).map fun t => Entries.set es key (.object t)
    | some (.object inner) =>
      (modifyAt intoArrays f path inner).map fun t => Entries.set es key (.object t)
    | some (.list items) =>
      match intoArrays, items.getLast? with
      | true, some (.object inner) =>
        (modifyAt intoArrays f path inner).map fun t =>
          Entries.set es key (.list (items.dropLast ++ [.object t]))
      | _, _ => .error .blocked
    | some _ => .error .blocked

def addEntry (key : String) (v : Value) (es : Entries) : Except Clash Entries :=
  if Entries.has es key then .error .taken else .ok (Entries.set es key v)

/-- Adds an empty table to the array under a key. -/
def addTable (key : String) (es : Entries) : Except Clash Entries :=
  match Entries.get? es key with
  | none => .ok (Entries.set es key (.list [.object []]))
  | some (.list items) => .ok (Entries.set es key (.list (items ++ [.object []])))
  | some _ => .error .blocked

def isContainer : Value → Bool
  | .list _ | .object _ => true
  | _ => false

/-- Whether a path leads to or into one of the paths given. -/
def isWithin (paths : List Path) (p : Path) : Bool :=
  paths.any (·.isPrefixOf p)

mutual

def readValue : (fuel : Nat) → List Char → Except Slip (Value × List Char)
  | 0, cs => .error (.at .badValue cs)
  | fuel + 1, cs =>
    match cs with
    | '[' :: rest =>
      match skipFiller false rest with
      | .error e => .error e
      | .ok rest => readItems fuel [] rest
    | '\x7b' :: rest =>
      match skipSpace rest with
      | '\x7d' :: rest => .ok (.object [], rest)
      | rest => readInline fuel [] [] rest
    | _ => readScalar cs

/-- Reads the items of an array up to its closing bracket; `acc` holds those before, last first. -/
def readItems : (fuel : Nat) → List Value → List Char → Except Slip (Value × List Char)
  | 0, _, cs => .error (.at .badValue cs)
  | _ + 1, acc, ']' :: rest => .ok (.list acc.reverse, rest)
  | fuel + 1, acc, cs =>
    match readValue fuel cs with
    | .error e => .error e
    | .ok (v, rest) =>
      match skipFiller false rest with
      | .error e => .error e
      | .ok (']' :: rest) => .ok (.list (v :: acc).reverse, rest)
      | .ok (',' :: rest) =>
        match skipFiller false rest with
        | .error e => .error e
        | .ok rest => readItems fuel (v :: acc) rest
      | .ok rest => .error (.at .unclosedArray rest)

/--
Reads the entries of an inline table up to its closing brace; `acc` holds those before, and `fixed`
the keys of those among them that are arrays or tables.
-/
def readInline : (fuel : Nat) → List Path → Entries → List Char → Except Slip (Value × List Char)
  | 0, _, _, cs => .error (.at .badValue cs)
  | fuel + 1, fixed, acc, cs =>
    match readPair fuel cs with
    | .error e => .error e
    | .ok (key, v, rest) =>
      if isWithin fixed key then .error (.at (.immutable key) rest)
      else
        let stem := key.getLastD ""
        match modifyAt false (addEntry stem v) key.dropLast acc with
        | .error .blocked => .error (.at .overwritten rest)
        | .error .taken => .error (.at (.duplicateKey stem) rest)
        | .ok acc =>
          match skipSpace rest with
          | '\x7d' :: rest => .ok (.object acc, rest)
          | ',' :: rest =>
            readInline fuel (if isContainer v then key :: fixed else fixed) acc (skipSpace rest)
          | rest => .error (.at .unclosedInlineTable rest)

def readPair : (fuel : Nat) → List Char → Except Slip (Path × Value × List Char)
  | 0, cs => .error (.at .badKey cs)
  | fuel + 1, cs =>
    match readKey cs with
    | .error e => .error e
    | .ok (key, '=' :: rest) =>
      match readValue fuel (skipSpace rest) with
      | .error e => .error e
      | .ok (v, rest) => .ok (key, v, rest)
    | .ok (_, rest) => .error (.at .noEquals rest)

end

/-- A document as far as it is read. -/
structure Draft where
  root : Entries
  /-- The path of the table that the last header opened. -/
  header : Path
  /-- The tables that no header may open again. -/
  declared : List Path
  /-- The tables that dotted keys passed since the last header. -/
  passed : List Path
  /-- The arrays and inline tables. -/
  fixed : List Path

namespace Draft

def empty : Draft := ⟨[], [], [], [], []⟩

/-- Counts the tables that dotted keys passed as declared: a header begins. -/
def settle (d : Draft) : Draft :=
  { d with declared := d.passed ++ d.declared, passed := [] }

def openTable (d : Draft) (path : Path) : Except Complaint Draft :=
  if d.declared.contains path || isWithin d.fixed path then .error (.declaredTwice path)
  else
    match modifyAt true .ok path d.root with
    | .ok root => .ok { d with root, header := path, declared := path :: d.declared }
    | .error _ => .error .overwritten

/-- Adds a table to an array of tables and opens it; its own tables may be declared anew. -/
def openItem (d : Draft) (path : Path) : Except Complaint Draft :=
  if isWithin d.fixed path then .error (.immutable path)
  else
    match modifyAt true (addTable (path.getLastD "")) path.dropLast d.root with
    | .ok root =>
      .ok { d with
        root, header := path
        declared := path :: d.declared.filter (!path.isPrefixOf ·)
        fixed := d.fixed.filter (!path.isPrefixOf ·) }
    | .error _ => .error .overwritten

/-- The tables that a dotted key passes, from the outermost on. -/
def tablesPassed (header key : Path) : List Path :=
  (List.range (key.length - 1)).map fun n => header ++ key.take (n + 1)

def addPair (d : Draft) (key : Path) (v : Value) : Except Complaint Draft :=
  let passed := tablesPassed d.header key
  match passed.find? d.declared.contains with
  | some path => .error (.redefined path)
  | none =>
    let parent := d.header ++ key.dropLast
    if isWithin d.fixed parent then .error (.immutable parent)
    else
      match modifyAt true (addEntry (key.getLastD "") v) parent d.root with
      | .ok root =>
        .ok { d with
          root, passed := passed ++ d.passed
          fixed := if isContainer v then (d.header ++ key) :: d.fixed else d.fixed }
      | .error _ => .error .overwritten

end Draft

def readHeader (d : Draft) (cs : List Char) : Except Slip (Draft × List Char) :=
  let step (add : Path → Except Complaint Draft) (mark : String) (unclosed : Complaint)
      (cs : List Char) : Except Slip (Draft × List Char) :=
    match readKey (skipSpace cs) with
    | .error e => .error e
    | .ok (path, rest) =>
      match add path with
      | .error c => .error (.at c rest)
      | .ok d =>
        if mark.toList.isPrefixOf rest then .ok (d, rest.drop mark.length)
        else .error (.at unclosed rest)
  match cs with
  | '[' :: rest => step d.openItem "]]" .unclosedArrayHeader rest
  | _ => step d.openTable "]" .unclosedTableHeader cs

def startsKey (c : Char) : Bool := isBareKey c || c == '"' || c == '\''

def readStatement (d : Draft) (cs : List Char) : Except Slip (Draft × List Char) :=
  match cs with
  | [] => .ok (d, [])
  | c :: rest =>
    if startsKey c then
      match readPair (2 * cs.length + 2) cs with
      | .error e => .error e
      | .ok (key, v, rest) =>
        match d.addPair key v with
        | .error c => .error (.at c rest)
        | .ok d => .ok (d, rest)
    else if c == '[' then readHeader d.settle rest
    else if c == '#' || c == '\n' then .ok (d, cs)
    else .error (.at .badStatement cs)

/-- Reads the statements of a document, one a line. -/
def readStatements : (fuel : Nat) → Draft → List Char → Except Slip Entries
  | 0, _, cs => .error (.at .badStatement cs)
  | fuel + 1, d, cs =>
    match readStatement d (skipSpace cs) with
    | .error e => .error e
    | .ok (d, rest) =>
      match skipComment (skipSpace rest) with
      | .error e => .error e
      | .ok [] => .ok d.root
      | .ok ('\n' :: rest) => readStatements fuel d rest
      | .ok rest => .error (.at .trailingText rest)

/-- The characters of a text with a line feed for each carriage return and line feed. -/
def unixLines : List Char → List Char
  | '\r' :: '\n' :: cs => '\n' :: unixLines cs
  | c :: cs => c :: unixLines cs
  | [] => []

def read (cs : List Char) : Except Fault Entries :=
  let cs := unixLines cs
  (readStatements (cs.length + 1) .empty cs).mapError (Slip.toFault cs)

end Walkthrough.Toml
