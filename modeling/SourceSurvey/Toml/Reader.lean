import SourceSurvey.Toml.Scalar
import SourceSurvey.Toml.Table

/-!
# Reading TOML documents

`read` reads a document into the fields of its outermost table.

* `readKey` reads a dotted key;
* `readValue` and its companions read values, which hold other values in lists and inline tables;
* `Draft` is a document that is partly read, and `readStatements` takes it from line to line.

Readers that repeat are bounded by a number of steps; the length of the text is enough.
-/

namespace SourceSurvey.Toml

/-- Whether a character can stand in a bare key. -/
def isBareKey (c : Char) : Bool :=
  c.isAlphanum || c == '-' || c == '_'

/-- Reads one part of a key. -/
def readKeyPart (cs : List Char) : Except Fault (String × List Char) :=
  match cs with
  | '\'' :: rest => readLiteral false ['\''] rest
  | '"' :: rest => readBasic false rest
  | c :: _ =>
    if isBareKey c then .ok (String.ofList (cs.takeWhile isBareKey), cs.dropWhile isBareKey)
    else .error (.flaw .keyPart cs.length)
  | [] => .error (.flaw .keyPart 0)

/-- Reads the parts of a key behind its first one, each after a point. -/
def readKeyTail : Nat → List Char → Except Fault (Path × List Char)
  | 0, cs => .ok ([], cs)
  | fuel + 1, cs =>
    match skipGap cs with
    | '.' :: rest => do
      let (part, rest) ← readKeyPart (skipGap rest)
      let (parts, rest) ← readKeyTail fuel rest
      return (part :: parts, rest)
    | other => .ok ([], other)

/-- A key: its first part and the others. -/
structure Key where
  first : String
  rest : Path

/-- All parts of a key. -/
def Key.path (key : Key) : Path := key.first :: key.rest

/-- Reads a key with the white space behind it. -/
def readKey (cs : List Char) : Except Fault (Key × List Char) := do
  let (first, rest) ← readKeyPart cs
  let (parts, rest) ← readKeyTail (rest.length + 1) rest
  return (⟨first, parts⟩, rest)

/-- Skips white space, line ends and comments. -/
def skipLines : Nat → List Char → Except Fault (List Char)
  | 0, cs => .ok cs
  | fuel + 1, cs => do
    let rest ← skipComment (cs.dropWhile isGapOrBreak)
    if rest.length = cs.length then return rest else skipLines fuel rest

/-- Whether a value holds other values. -/
def isNested : Value → Bool
  | .list _ | .obj _ => true
  | _ => false

/-- An inline table that is partly read. -/
structure Inline where
  table : Table
  marks : Marks

/-- Sets a field of an inline table; `left` is the number of characters behind its value. -/
def Inline.set (draft : Inline) (key : Key) (v : Value) (left : Nat) : Except Fault Inline := do
  let (parents, last) := splitLast key.first key.rest
  if draft.marks.carries key.path .frozen then throw (.flaw (.frozen key.path) left)
  match within false some parents draft.table with
  | none => throw (.flaw .overwritten left)
  | some table =>
    match within false (addField last v) parents table with
    | none => throw (.flaw (.repeatedKey last) left)
    | some table =>
      let marks := if isNested v then ⟨key.path, .frozen, true⟩ :: draft.marks else draft.marks
      return ⟨table, marks⟩

mutual

/-- Reads one value. -/
def readValue : Nat → List Char → Except Fault (Value × List Char)
  | 0, cs => .error (.flaw .value cs.length)
  | fuel + 1, cs =>
    match cs with
    | '"' :: _ => (readQuoted cs).map fun (s, rest) => (.str s, rest)
    | '\'' :: _ => (readQuoted cs).map fun (s, rest) => (.str s, rest)
    | 't' :: 'r' :: 'u' :: 'e' :: rest => .ok (.bool true, rest)
    | 'f' :: 'a' :: 'l' :: 's' :: 'e' :: rest => .ok (.bool false, rest)
    | '[' :: rest => (readItems fuel rest).map fun (items, rest) => (.list items, rest)
    | '\x7b' :: rest =>
      match skipGap rest with
      | '\x7d' :: after => .ok (.obj [], after)
      | inner => (readInline fuel ⟨[], []⟩ inner).map fun (table, rest) => (.obj table, rest)
    | _ => readPlain cs

/-- Reads the items of a list up to its closing bracket. -/
def readItems : Nat → List Char → Except Fault (List Value × List Char)
  | 0, cs => .error (.flaw .unclosedArray cs.length)
  | fuel + 1, cs => do
    match ← skipLines (cs.length + 1) cs with
    | ']' :: after => return ([], after)
    | start =>
      let (v, rest) ← readValue fuel start
      match ← skipLines (rest.length + 1) rest with
      | ']' :: after => return ([v], after)
      | ',' :: more =>
        let (items, after) ← readItems fuel more
        return (v :: items, after)
      | other => throw (.flaw .unclosedArray other.length)

/-- Reads a key and its value. -/
def readPair : Nat → List Char → Except Fault (Key × Value × List Char)
  | 0, cs => .error (.flaw .value cs.length)
  | fuel + 1, cs => do
    let (key, rest) ← readKey cs
    match rest with
    | '=' :: more =>
      let (v, rest) ← readValue fuel (skipGap more)
      return (key, v, rest)
    | other => throw (.flaw .equals other.length)

/-- Reads the fields of an inline table up to its closing brace. -/
def readInline : Nat → Inline → List Char → Except Fault (Table × List Char)
  | 0, _, cs => .error (.flaw .unclosedTable cs.length)
  | fuel + 1, draft, cs => do
    let (key, v, rest) ← readPair fuel cs
    let draft ← draft.set key v rest.length
    match skipGap rest with
    | '\x7d' :: after => return (draft.table, after)
    | ',' :: more => readInline fuel draft (skipGap more)
    | other => throw (.flaw .unclosedTable other.length)

end

/-- A document that is partly read: its fields, the marks on its tables, the tables that are
declared at the next header, and the table that the last header opened. -/
structure Draft where
  table : Table
  marks : Marks
  pending : List Path
  header : Path

/-- Marks the tables that dotted keys have made since the last header. -/
def Draft.settle (draft : Draft) : Draft :=
  { draft with
    marks := draft.pending.map (⟨·, .declared, false⟩) ++ draft.marks
    pending := [] }

/-- The keys of the tables that a dotted key passes through, shortest first. -/
def passed (header : Path) (parents : Path) : List Path :=
  (List.range parents.length).map fun n => header ++ parents.take (n + 1)

/-- Sets a field below the last header; `left` is the number of characters behind its value. -/
def Draft.set (draft : Draft) (key : Key) (v : Value) (left : Nat) : Except Fault Draft := do
  let (parents, last) := splitLast key.first key.rest
  let tables := passed draft.header parents
  match tables.find? (draft.marks.carries · .declared) with
  | some path => throw (.flaw (.redefined path) left)
  | none =>
    let home := draft.header ++ parents
    if draft.marks.carries home .frozen then throw (.flaw (.frozen home) left)
    match within true (addField last v) home draft.table with
    | none => throw (.flaw .overwritten left)
    | some table =>
      let full := draft.header ++ key.path
      let marks := if isNested v then ⟨full, .frozen, true⟩ :: draft.marks else draft.marks
      return { draft with table, marks, pending := tables ++ draft.pending }

/-- Opens a table; `left` is the number of characters behind its key. -/
def Draft.openTable (draft : Draft) (key : Key) (left : Nat) : Except Fault Draft := do
  let path := key.path
  if draft.marks.carries path .declared || draft.marks.carries path .frozen then
    throw (.flaw (.declaredTwice path) left)
  match within true some path draft.table with
  | none => throw (.flaw .overwritten left)
  | some table =>
    return { draft with table, marks := ⟨path, .declared, false⟩ :: draft.marks, header := path }

/-- Opens the next table of a list of tables; `left` is the number of characters behind its key. -/
def Draft.openListed (draft : Draft) (key : Key) (left : Nat) : Except Fault Draft := do
  let path := key.path
  if draft.marks.carries path .frozen then throw (.flaw (.frozen path) left)
  let (parents, last) := splitLast key.first key.rest
  match within true (appendTable last) parents draft.table with
  | none => throw (.flaw .overwritten left)
  | some table =>
    let marks := ⟨path, .declared, false⟩ :: draft.marks.clear path
    return { draft with table, marks, header := path }

/-- Whether a character can start a key. -/
def startsKey (c : Char) : Bool := isBareKey c || c == '"' || c == '\''

/-- Reads one statement, without the comment behind it.  Each bracket takes two steps. -/
def readStatement (draft : Draft) (cs : List Char) : Except Fault (Draft × List Char) :=
  match cs with
  | '[' :: '[' :: rest => do
    let (key, rest) ← readKey (skipGap rest)
    let draft ← draft.settle.openListed key rest.length
    match rest with
    | ']' :: ']' :: after => return (draft, skipGap after)
    | other => throw (.flaw .arrayEnd other.length)
  | '[' :: rest => do
    let (key, rest) ← readKey (skipGap rest)
    let draft ← draft.settle.openTable key rest.length
    match rest with
    | ']' :: after => return (draft, skipGap after)
    | other => throw (.flaw .tableEnd other.length)
  | '#' :: _ => .ok (draft, cs)
  | c :: _ =>
    if startsKey c then do
      let (key, v, rest) ← readPair (2 * cs.length + 1) cs
      let draft ← draft.set key v rest.length
      return (draft, skipGap rest)
    else .error (.flaw .statement cs.length)
  | [] => .ok (draft, [])

/-- Reads statements, one to a line. -/
def readStatements : Nat → Draft → List Char → Except Fault Table
  | 0, draft, _ => .ok draft.table
  | fuel + 1, draft, cs =>
    match skipGap cs with
    | [] => .ok draft.table
    | '\n' :: rest => readStatements fuel draft rest
    | start => do
      let (draft, rest) ← readStatement draft start
      match ← skipComment rest with
      | [] => return draft.table
      | '\n' :: more => readStatements fuel draft more
      | other => throw (.flaw .lineEnd other.length)

/-- A text with each carriage return before a line end taken out. -/
def joinBreaks : List Char → List Char
  | '\r' :: '\n' :: rest => '\n' :: joinBreaks rest
  | c :: rest => c :: joinBreaks rest
  | [] => []

/-- Reads a document whose line ends are single characters. -/
def read (cs : List Char) : Except Fault Table := readStatements (cs.length + 1) ⟨[], [], [], []⟩ cs

end SourceSurvey.Toml
