import SourceSurvey.Failure
import SourceSurvey.Route

/-!
# File trees

The files that a survey can see, as a value: directories, files and symbolic links.  A place is the
list of names that lead to a node from the top without links.

* `Node`, `Node.at?`;
* `locate`: the place that a path leads to, links included, with at most `linkLimit` links;
* `find`, `reaches`, `readBytes`.
-/

namespace SourceSurvey

/-- A node of a file tree. -/
inductive Node where
  | file (data : ByteArray)
  | directory (entries : List (String × Node))
  | link (target : String)

/-- A place in a tree: the names from the top. -/
abbrev Place := List String

namespace Node

/-- The entry of a directory. -/
def entry? (name : String) : Node → Option Node
  | .directory entries => entries.lookup name
  | _ => none

/-- The node at a place. -/
def at? (node : Node) : Place → Option Node
  | [] => some node
  | name :: rest =>
    match node.entry? name with
    | some inner => inner.at? rest
    | none => none

/-- Whether a node is a directory. -/
def isDirectory : Node → Bool
  | .directory _ => true
  | _ => false

/-- Whether a node is a link. -/
def isLink : Node → Bool
  | .link _ => true
  | _ => false

end Node

namespace Tree

/-- The greatest number of links on the way to a file. -/
def linkLimit : Nat := 40

/-- The greatest number of bytes in a name. -/
def nameLimit : Nat := 255

/-- The greatest number of bytes in the text of a path. -/
def pathLimit : Nat := 4095

/-- Where a link leads from the directory that holds it. -/
def linkStart (directory : Place) (target : Route) : Place :=
  if target.root = "" then directory else []

/-- Whether a path has nothing or a point behind its last slash, so that it can lead to a directory
only. -/
def asksDirectory (path : String) : Bool :=
  match path.toList.reverse with
  | '/' :: _ | '.' :: '/' :: _ => true
  | _ => false

/-- The names along which a link leads.  A point at the end asks for a directory. -/
def targetNames (target : String) : List String :=
  Route.namesOf target.toList ++ if asksDirectory target then ["."] else []

/-- Walks from a directory along names.  A link that is met is passed to `onLink` with the names
that are still to go; the last name is looked at without following it when `follow` does not
hold. -/
def walkWith (top : Node) (follow : Bool) (onLink : Place → List String → Except Obstacle Place) :
    Place → List String → Except Obstacle Place
  | here, [] => .ok here
  | here, name :: rest =>
    match top.at? here with
    | some (.directory entries) =>
      if nameLimit < name.utf8ByteSize then .error .nameTooLong
      else if name = "." then walkWith top follow onLink here rest
      else if name = ".." then walkWith top follow onLink here.dropLast rest
      else
        match entries.lookup name with
        | none => .error .missing
        | some (.link target) =>
          if rest.isEmpty && !follow then .ok (here ++ [name])
          else onLink (linkStart here (Route.ofText target)) (targetNames target ++ rest)
        | some _ => walkWith top follow onLink (here ++ [name]) rest
    | some _ => .error .notDirectory
    | none => .error .missing

/-- Walks with a number of links to spare. -/
def walk (top : Node) (follow : Bool) : Nat → Place → List String → Except Obstacle Place
  | 0 => walkWith top follow fun _ _ => .error .tooManyLinks
  | links + 1 => walkWith top follow (walk top follow links)

/-- The place that a route leads to from a directory. -/
def locate (top : Node) (directory : Place) (follow : Bool)
    (route : Route) : Except Obstacle Place :=
  if route.hasZero then .error .zeroInPath
  else if pathLimit < route.text.utf8ByteSize then .error .nameTooLong
  else walk top follow linkLimit (if route.root = "" then directory else []) route.names

/-- The node that a route leads to, at the end of all links. -/
def find (top : Node) (directory : Place) (route : Route) : Except Obstacle Node := do
  let place ← locate top directory true route
  match top.at? place with
  | some node => return node
  | none => throw .missing

/-- The node that a route names, which may be a link. -/
def findLink (top : Node) (directory : Place) (route : Route) : Except Obstacle Node := do
  let place ← locate top directory false route
  match top.at? place with
  | some node => return node
  | none => throw .missing

/-- Whether a route leads anywhere.  A name or path that is too long is not a no but an obstacle. -/
def reaches (top : Node) (directory : Place) (route : Route) : Except Failure Bool :=
  match find top directory route with
  | .ok _ => .ok true
  | .error .nameTooLong => .error (.unreachable .nameTooLong route.text)
  | .error _ => .ok false

/-- The bytes of the file that a route leads to. -/
def readBytes (top : Node) (directory : Place) (route : Route) : Except Failure ByteArray :=
  match find top directory route with
  | .ok (.file data) => .ok data
  | .ok _ => .error (.unreachable .isDirectory route.text)
  | .error obstacle => .error (.unreachable obstacle route.text)

end Tree

end SourceSurvey
