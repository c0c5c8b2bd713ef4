import SourceSurvey.Settings.Basic
import SourceSurvey.SourceFile
import SourceSurvey.Text.Glob
import SourceSurvey.World

/-!
# The files of a project

`enumerate` takes a snapshot of the files below a directory.  It walks the tree without the excluded
directories, leaves out names that fit a skip pattern and paths that are not asked for, sorts the
paths by code points, and reads the files in that order up to the limit.  Files that are too large
or hold a zero byte near their start are left out.  What the system keeps from the program is a
parameter of its own: without one, nothing is.

* `Selection`: what to look for;
* `validateRoot`: the directory itself;
* `filesBelow`, `readSource`, `enumerate`.
-/

namespace SourceSurvey.Corpus

/-- The patterns of names that are never read when nothing else is said. -/
def defaultSkipped : List String := ["*.min.js", "*.min.css", "*.map", "*.d.ts"]

/-- What to look for: the settings, the patterns of names to skip, and the paths that are wanted. -/
structure Selection where
  settings : Settings
  skipped : List String
  wanted : String → Bool

/-- The usual selection under some settings. -/
def Selection.usual (settings : Settings) : Selection := ⟨settings, defaultSkipped, isSourceFile⟩

/-- Fails with a path and a reason. -/
def refuse {α : Type} (route : Route) (reason : String) : Except Failure α :=
  .error (.fault (.badPath (.str route.text) (.str reason)))

/-- The real path of a directory that can be surveyed. -/
def validateRoot (w : World) (route : Route) (access : Access := .full) : Except Failure Route := do
  match w.resolve route access with
  | .error (.unreachable .zeroInPath path) => throw (.unreachable .zeroInPath path)
  | .error f => refuse route ("Cannot resolve path: " ++ f.message)
  | .ok resolved =>
    if access.denies .target resolved then throw (.unreachable .denied resolved.text)
    if !(← w.reaches resolved) then refuse resolved "Directory does not exist"
    if !w.isDirectory resolved then refuse resolved "Path is not a directory"
    if w.accessDenied then refuse resolved "Directory is not readable"
    return resolved

/-- The names among loosely typed directories to exclude. -/
def excludedNames (dirs : Value) : Except Misuse (List String) := do
  let members ← (← dirs.members).mapM Value.hashable
  return members.filterMap fun
    | .str s => some s
    | _ => none

/-- Whether an entry counts as a directory, at the end of all links. -/
def isDirectoryEntry (w : World) (route : Route) (node : Node) (access : Access := .full) : Bool :=
  match node with
  | .directory _ => true
  | .file _ => false
  | .link _ => !access.denies .target route && w.isDirectory route

/-- Texts in the order of their code points. -/
def sortTexts (texts : List String) : List String := texts.mergeSort fun a b => (compare a b).isLE

/-- What a walk needs to know. -/
structure Walk where
  world : World
  root : Route
  excluded : List String
  followLinks : Bool
  skipped : List String
  wanted : String → Bool
  access : Access := .full

/-- The route of what the names below the root lead to. -/
def Walk.route (walk : Walk) (below : List String) : Route := walk.root.join ⟨"", below⟩

/-- Whether an entry that is no directory is taken.  One that fits no skip pattern has to have a
path that is shown and not too long. -/
def Walk.takes (walk : Walk) (below : List String) (name : String) (node : Node) :
    Except Failure Bool :=
  if walk.skipped.any (Text.Glob.accepts · name) then .ok false
  else if walk.access.hides (walk.route (below ++ [name])) then
    .error (.unreachable .denied (walk.route (below ++ [name])).text)
  else
    match Tree.findLink walk.world.top walk.world.here (walk.route (below ++ [name])) with
    | .error .nameTooLong =>
      .error (.unreachable .nameTooLong (walk.route (below ++ [name])).text)
    | _ =>
      .ok (!(node.isLink && !walk.followLinks) &&
        walk.wanted (String.intercalate "/" (below ++ [name])))

/-- Whether an entry that is a directory is walked. -/
def Walk.enters (walk : Walk) (name : String) (node : Node) : Bool :=
  !walk.excluded.contains name && (walk.followLinks || !node.isLink)

/-- The failure of a walk that has no stack left. -/
def outOfStack : Failure := .outside "RecursionError" "maximum recursion depth exceeded"

/-- Fails if a walk has no stack left to look at the directories in a directory, links to
directories among them. -/
def Walk.checkStack (walk : Walk) (below : List String) (directories : List (String × Node)) :
    Except Failure Unit :=
  if walk.access.isSpent below.length &&
      directories.any fun (name, _) => !walk.excluded.contains name then .error outOfStack
  else .ok ()

/-- The relative paths of the files below a directory, which is itself given by the names below the
root; the walk goes down at most `depth` directories. -/
def Walk.filesBelow (walk : Walk) : Nat → List String → Except Failure (List String)
  | 0, _ => .ok []
  | depth + 1, below =>
    if walk.access.denies .entries (walk.route below) then .ok []
    else
      match walk.world.find (walk.route below) with
      | .ok (.directory entries) => do
        let (directories, files) := entries.partition fun (name, node) =>
          isDirectoryEntry walk.world (walk.route (below ++ [name])) node walk.access
        let taken ← files.filterM fun (name, node) => walk.takes below name node
        walk.checkStack below directories
        let entered := directories.filter fun (name, node) => walk.enters name node
        let deeper ← (sortTexts (entered.map (·.1))).mapM fun name =>
          walk.filesBelow depth (below ++ [name])
        return taken.map (fun (name, _) => String.intercalate "/" (below ++ [name])) ++
          deeper.flatten
      | _ => .ok []

mutual

/-- The greatest number of directories below each other in a tree. -/
def height : Node → Nat
  | .directory entries => heightOf entries + 1
  | _ => 0

/-- The greatest height among the entries of a directory. -/
def heightOf : List (String × Node) → Nat
  | [] => 0
  | (_, node) :: rest => max (height node) (heightOf rest)

end

/-- A depth that no walk goes beyond: each link can start at the top once more. -/
def depthBound (top : Node) : Nat := (Tree.linkLimit + 1) * (height top + 1) + 1

/-- The sorted relative paths of the wanted files below a directory. -/
def filesBelow (w : World) (selection : Selection) (root : Route) (access : Access := .full) :
    Except Failure (List String) := do
  let excluded ← excludedNames selection.settings.excludedDirs
  let walk : Walk := ⟨w, root, excluded, selection.settings.followLinks.truthy, selection.skipped,
    selection.wanted, access⟩
  return sortTexts (← walk.filesBelow (depthBound w.top) [])

/-- The number of bytes that are searched for a zero byte. -/
def sniffed : Nat := 8192

/-- Whether a file looks binary. -/
def isBinary (data : ByteArray) : Bool := (data.extract 0 sniffed).toList.contains 0

/-- A failure to reach a file, as a fault about it. -/
def noAccess (route : Route) (obstacle : Obstacle) : Failure :=
  .fault (.fileAccess (.str route.text)
    (.str ("OS error: " ++ (Failure.unreachable obstacle route.text).message)))

/-- Reads a file; none when it is too large or binary. -/
def readSource (w : World) (settings : Settings) (route : Route) (access : Access := .full) :
    Traced (Option String) := do
  match if access.denies .target route then .error .denied else w.find route with
  | .error obstacle => Traced.fail (noAccess route obstacle)
  | .ok (.file data) =>
    if (← settings.maxFileBytes) < data.size then
      Traced.log .debug s!"Skipping {route.text}: {data.size} bytes exceeds size limit"
      return none
    else if access.denies .bytes route then Traced.fail (noAccess route .denied)
    else if isBinary data then return none
    else return some (Text.Utf8.decode data)
  | .ok _ => Traced.fail (noAccess route .isDirectory)

/-- Reads a file; one that cannot be reached is noted and left out. -/
def readOrSkip (w : World) (settings : Settings) (root : Route) (path : String)
    (access : Access := .full) : Traced (Option String) :=
  (readSource w settings (root.join (Route.ofText path)) access).rescue fun
    | .fault (.fileAccess file reason) => some do
      Traced.log .debug s!"Skipping {path}: {(Fault.fileAccess file reason).text}"
      return none
    | _ => none

/-- Reads the files with the given paths, with those read so far in `files`, up to the limit. -/
def readAll (w : World) (settings : Settings) (root : Route) (access : Access) :
    List SourceFile → List String → Traced (List SourceFile)
  | files, [] => return files
  | files, path :: rest => do
    if ← Value.test .ge (.ofNat files.length) settings.maxFiles then
      let limit ← settings.maxFiles.toInteger
      Traced.log .warning s!"File limit ({limit}) reached, remaining files are not analyzed"
      return files
    else
      match ← readOrSkip w settings root path access with
      | none => readAll w settings root access files rest
      | some content => readAll w settings root access (files ++ [⟨path, content⟩]) rest

/-- The snapshot of the files below a directory. -/
def enumerate (w : World) (selection : Selection) (path : String) (access : Access := .full) :
    Traced (List SourceFile) := do
  let root ← validateRoot w (Route.ofText path) access
  let paths ← filesBelow w selection root access
  let files ← readAll w selection.settings root access [] paths
  Traced.log .debug s!"Enumerated {files.length} files under {root.text}"
  return files

end SourceSurvey.Corpus
