import SourceSurvey.Toml.Fault
import SourceSurvey.Value.Access

/-!
# Nested tables

The tables of a document while it is read.

* `within` changes the table behind a key, making the tables on the way; a list of tables stands for
  its last one.
* `Marks` remember which tables are declared, so that they cannot be declared again, and which are
  frozen together with everything below them.
-/

namespace SourceSurvey.Toml

/-- The fields of a table, in the order in which they were set. -/
abbrev Table := List (String × Value)

/-- The place of a change inside a list of tables: the last one. -/
def changeLast (change : Table → Option Table) : List Value → Option (List Value)
  | [] => none
  | [.obj fields] => (change fields).map fun fields => [.obj fields]
  | [_] => none
  | v :: w :: rest => (changeLast change (w :: rest)).map (v :: ·)

/-- Changes the table behind a key; none when something else than a table stands on the way, or when
the change fails.  Tables that are missing are made. -/
def within (intoLists : Bool) (change : Table → Option Table) : Path → Table → Option Table
  | [], table => change table
  | part :: path, table =>
    match table.lookup part with
    | none => (within intoLists change path []).map fun inner =>
      Value.putField part (.obj inner) table
    | some (.obj inner) =>
      (within intoLists change path inner).map fun inner => Value.putField part (.obj inner) table
    | some (.list items) =>
      if intoLists then
        (changeLast (within intoLists change path) items).map fun items =>
          Value.putField part (.list items) table
      else none
    | some _ => none

/-- Whether a table is marked as declared or as frozen. -/
inductive Mark where
  | declared
  | frozen
  deriving DecidableEq

/-- A mark on a table; a deep one holds for everything below the table too. -/
structure Marked where
  path : Path
  mark : Mark
  deep : Bool

/-- The marks of a document. -/
abbrev Marks := List Marked

/-- Whether a table carries a mark, by itself or from a deep mark above it. -/
def Marks.carries (marks : Marks) (path : Path) (mark : Mark) : Bool :=
  marks.any fun m => m.mark == mark && (m.path == path || (m.deep && m.path.isPrefixOf path))

/-- Takes the marks off a table and everything below it. -/
def Marks.clear (marks : Marks) (path : Path) : Marks :=
  marks.filter fun m => !path.isPrefixOf m.path

/-- Adds an empty table to the list of tables under a field, or starts such a list. -/
def appendTable (part : String) (table : Table) : Option Table :=
  match table.lookup part with
  | none => some (Value.putField part (.list [.obj []]) table)
  | some (.list items) => some (Value.putField part (.list (items ++ [.obj []])) table)
  | some _ => none

/-- Adds a field that is not there yet. -/
def addField (part : String) (v : Value) (table : Table) : Option Table :=
  if (table.lookup part).isSome then none else some (Value.putField part v table)

/-- The parts of a key before its last one, and the last one. -/
def splitLast (first : String) : Path → Path × String
  | [] => ([], first)
  | next :: rest =>
    let (parents, last) := splitLast next rest
    (first :: parents, last)

end SourceSurvey.Toml
