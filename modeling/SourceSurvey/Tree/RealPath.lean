import SourceSurvey.Tree.Basic

/-!
# Real paths

`realPath` spells the place that a route leads to, link by link.  A name that is not there is kept
as it stands, and `..` goes back by one name.  A link that leads back to itself ends the search: the
path is then the link with the names that are still to go.  A link that the system does not show
counts as a plain name.
-/

namespace SourceSurvey.Tree

/-- The links met so far; one without an answer is still being resolved. -/
abbrev Seen := List (Place × Option Place)

/-- A path as far as it is resolved.  `closed` tells that a link led back to itself. -/
structure Resolution where
  path : Place
  closed : Bool
  seen : Seen

/-- Resolves names from a directory; a link that is met for the first time is passed to `onLink`,
unless it is overlooked. -/
def resolveWith (top : Node) (overlooked : Place → Bool)
    (onLink : Seen → Place → List String → Resolution) :
    Seen → Place → List String → Resolution
  | seen, here, [] => ⟨here, false, seen⟩
  | seen, here, name :: rest =>
    if name = ".." then resolveWith top overlooked onLink seen here.dropLast rest
    else
      let next := here ++ [name]
      match if overlooked next then none else top.at? next with
      | some (.link target) =>
        match seen.lookup next with
        | some (some path) => resolveWith top overlooked onLink seen path rest
        | some none => ⟨next ++ rest, true, seen⟩
        | none =>
          let route := Route.ofText target
          let r := onLink ((next, none) :: seen) (linkStart here route) route.names
          if r.closed then ⟨r.path ++ rest, true, r.seen⟩
          else resolveWith top overlooked onLink ((next, some r.path) :: r.seen) r.path rest
      | _ => resolveWith top overlooked onLink seen next rest

/-- Resolves names with a number of links to spare. -/
def resolve (top : Node) (overlooked : Place → Bool) : Nat → Seen → Place → List String → Resolution
  | 0 => fun seen here names => ⟨here ++ names, true, seen⟩
  | links + 1 => resolveWith top overlooked (resolve top overlooked links)

mutual

/-- The number of links in a tree. -/
def countLinks : Node → Nat
  | .file _ => 0
  | .link _ => 1
  | .directory entries => countLinksIn entries

/-- The number of links in the entries of a directory. -/
def countLinksIn : List (String × Node) → Nat
  | [] => 0
  | (_, node) :: rest => countLinks node + countLinksIn rest

end

/-- Names with each `..` taken back. -/
def flatten (names : List String) : Place :=
  names.foldl (fun place name => if name = ".." then place.dropLast else place ++ [name]) []

/-- The place that a route leads to from a directory, as far as it can be resolved. -/
def realPath (top : Node) (directory : Place) (route : Route) (overlooked : Place → Bool) : Place :=
  let start := if route.root = "" then directory else []
  flatten (resolve top overlooked (countLinks top + 1) [] start route.names).path

/-- The route of a place. -/
def routeOf (place : Place) : Route := ⟨"/", place⟩

end SourceSurvey.Tree
