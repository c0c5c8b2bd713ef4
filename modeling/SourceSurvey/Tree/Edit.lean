import SourceSurvey.Tree.RealPath

/-!
# Changing file trees

Nodes put at a place or taken away, and bytes added to the end of a file.
-/

namespace SourceSurvey.Tree

/-- Changes the entry with a name: `change` is given the node that is there and gives the one that
shall be there. -/
def alter (change : Option Node → Option Node) (name : String) :
    List (String × Node) → List (String × Node)
  | [] => (change none).toList.map fun node => (name, node)
  | (key, node) :: rest =>
    if key = name then (change (some node)).toList.map (fun n => (key, n)) ++ rest
    else (key, node) :: alter change name rest

/-- Changes the node at a place; directories on the way are made where they are missing. -/
def update (change : Option Node → Option Node) : Place → Option Node → Option Node
  | [], node => change node
  | name :: rest, some (.directory entries) =>
    some (.directory (alter (update change rest) name entries))
  | name :: rest, none => some (.directory (alter (update change rest) name []))
  | _ :: _, other => other

/-- Puts a node at a place. -/
def put (top : Node) (place : Place) (node : Node) : Node :=
  (update (fun _ => some node) place (some top)).getD top

/-- Takes away what is at a place. -/
def remove (top : Node) (place : Place) : Node := (update (fun _ => none) place (some top)).getD top

/-- Adds bytes to the end of the file at a place. -/
def append (top : Node) (place : Place) (more : ByteArray) : Node :=
  match top.at? place with
  | some (.file data) => put top place (.file (data ++ more))
  | _ => top

/-- The names along which a link leads to a file that shall be opened.  A point stays when it is the
last name. -/
def openNames (target : String) : List String :=
  let parts := (Route.cut target.toList).filter fun part => !part.isEmpty
  Route.namesOf target.toList ++ if parts.getLast? = some ['.'] then ["."] else []

/-- Walks from a directory along names to the place of a file that shall be opened; `slash` tells
that a slash stands behind the last name.  The file need not be there, but its directory does.  A
link that is met is passed to `onLink`. -/
def openWith (top : Node) (onLink : Bool → Place → List String → Except Obstacle Place)
    (slash : Bool) :
    Place → List String → Except Obstacle Place
  | _, [] => .error .isDirectory
  | here, name :: rest =>
    match top.at? here with
    | some (.directory entries) =>
      if rest.isEmpty && slash then .error .isDirectory
      else if nameLimit < name.utf8ByteSize then .error .nameTooLong
      else if name = "." then openWith top onLink slash here rest
      else if name = ".." then openWith top onLink slash here.dropLast rest
      else
        match entries.lookup name with
        | none => if rest.isEmpty then .ok (here ++ [name]) else .error .missing
        | some (.file _) => if rest.isEmpty then .ok (here ++ [name]) else .error .notDirectory
        | some (.directory _) => openWith top onLink slash (here ++ [name]) rest
        | some (.link target) =>
          let start := linkStart here (Route.ofText target)
          if rest.isEmpty then onLink (target.endsWith "/") start (openNames target)
          else onLink slash start (targetNames target ++ rest)
    | some _ => .error .notDirectory
    | none => .error .missing

/-- Walks to the place of a file with a number of links to spare. -/
def openWalk (top : Node) : Nat → Bool → Place → List String → Except Obstacle Place
  | 0 => openWith top fun _ _ _ => .error .tooManyLinks
  | links + 1 => openWith top (openWalk top links)

/-- The place of the file that a route from the top names, there or not. -/
def filePlace (top : Node) (route : Route) : Except Obstacle Place :=
  if route.hasZero then .error .zeroInPath
  else if pathLimit < route.text.utf8ByteSize then .error .nameTooLong
  else openWalk top linkLimit false [] route.names

/-- Opens a file to which something shall be added: the tree with the file in it, and its place.
The file is made when it is missing. -/
def openFile (top : Node) (route : Route) : Except Failure (Node × Place) :=
  match filePlace top route with
  | .ok place =>
    match top.at? place with
    | some _ => .ok (top, place)
    | none => .ok (put top place (.file ByteArray.empty), place)
  | .error obstacle => .error (.unreachable obstacle route.text)

end SourceSurvey.Tree
