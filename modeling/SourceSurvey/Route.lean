import SourceSurvey.Text.Lower

/-!
# Routes

A route is a path as text: an optional root and the names below it.  Empty names and single points
are dropped when a route is read, so equal routes have equal texts.

* `Route.ofText`, `Route.text`, `Route.join`;
* `Route.name`, `Route.suffix`;
* `isSourceFile`: whether a path has one of the endings that the analyses understand.
-/

namespace SourceSurvey

/-- A route: its root, which is empty, one slash or two, and the names below it. -/
structure Route where
  root : String
  names : List String
  deriving DecidableEq

namespace Route

/-- Cuts a text at each slash. -/
def cut : List Char → List (List Char)
  | [] => [[]]
  | c :: cs =>
    if c = '/' then [] :: cut cs
    else
      match cut cs with
      | [] => [[c]]
      | part :: rest => (c :: part) :: rest

/-- The names in a text: the parts between slashes that are not empty and no single point. -/
def namesOf (cs : List Char) : List String :=
  ((cut cs).map String.ofList).filter fun name => name != "" && name != "."

/-- The root of a text: two slashes stay two, and more count as one. -/
def rootOf : List Char → String
  | '/' :: '/' :: '/' :: _ => "/"
  | '/' :: '/' :: _ => "//"
  | '/' :: _ => "/"
  | _ => ""

/-- The route that a text spells. -/
def ofText (s : String) : Route := ⟨rootOf s.toList, namesOf s.toList⟩

/-- The text of a route. -/
def text (r : Route) : String :=
  if r.root = "" && r.names.isEmpty then "." else r.root ++ String.intercalate "/" r.names

/-- A route below another; one with a root replaces it. -/
def join (r s : Route) : Route := if s.root = "" then ⟨r.root, r.names ++ s.names⟩ else s

/-- A route with a name below it. -/
def child (r : Route) (name : String) : Route := ⟨r.root, r.names ++ [name]⟩

/-- Whether the character zero is in a name of a route. -/
def hasZero (r : Route) : Bool := r.names.any fun name => name.toList.contains '\x00'

/-- The last name of a route. -/
def name (r : Route) : String := r.names.getLast?.getD ""

/-- The part of a name from its last point on; none when the point is first or last. -/
def suffixOf (name : List Char) : List Char :=
  let ending := (name.reverse.takeWhile (· != '.')).reverse
  let before := name.length - ending.length
  if 2 ≤ before && !ending.isEmpty then '.' :: ending else []

/-- The ending of the last name. -/
def suffix (r : Route) : String := String.ofList (suffixOf r.name.toList)

end Route

/-- The endings that the analyses understand. -/
def sourceSuffixes : List String :=
  [".ts", ".tsx", ".js", ".jsx", ".py", ".java", ".go", ".rs", ".cs", ".php"]

/-- Whether a path, in which a backslash counts as a slash, has an ending that the analyses
understand. -/
def isSourceFile (path : String) : Bool :=
  let slashed := path.map fun c => if c = '\\' then '/' else c
  sourceSuffixes.contains (Text.lowered (Route.ofText slashed).suffix)

end SourceSurvey
