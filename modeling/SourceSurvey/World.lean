import SourceSurvey.Trace
import SourceSurvey.Tree.RealPath

/-!
# The world around a survey

Everything outside the program that a survey can see: the file tree, the current directory, the
environment, the answers of outside tools, the clock, and the width of the display.  How numbers are
averaged is left to the outside too.
-/

namespace SourceSurvey

/-- What a run of an outside tool gives: its two outputs and its exit code, or no run at all.  A run
is broken by seconds that the system cannot wait for, or by outputs that are no text; it then has
the name and the message of what went wrong. -/
inductive ToolAnswer where
  | done (output errors : Option String) (code : Int)
  | missing
  | timedOut
  | denied
  | interrupted
  | broken (label message : String)

/-- A look at a path: at what it leads to, at the entries of a directory, or at the bytes of a
file. -/
inductive Look where
  | target
  | entries
  | bytes
  deriving DecidableEq

/-- What the system keeps from the program.  It hides a path when a directory on the way must not be
searched, and withholds single looks at paths that it shows; while a path is resolved, links may be
overlooked for the same reasons.  From `depth` directories below each other on, there is no stack
left to go down to another. -/
structure Access where
  hides : Route → Bool
  withholds : Look → Route → Bool
  overlooks : Place → Bool
  depth : Option Nat

namespace Access

/-- Nothing is kept from the program. -/
def full : Access := ⟨fun _ => false, fun _ _ => false, fun _ => false, none⟩

/-- Whether a look at a path is denied. -/
def denies (access : Access) (look : Look) (route : Route) : Bool :=
  access.hides route || access.withholds look route

/-- Whether there is no stack left to go down from a directory. -/
def isSpent (access : Access) (below : Nat) : Bool := access.depth.any (· ≤ below)

@[simp] theorem hides_full (route : Route) : full.hides route = false := rfl

@[simp] theorem denies_full (look : Look) (route : Route) : full.denies look route = false := rfl

@[simp] theorem isSpent_full (below : Nat) : full.isSpent below = false := rfl

end Access

/-- The world around a survey.  A `mishap` breaks a call of a tool, whatever the tool would have
answered. -/
structure World where
  top : Node
  here : Place
  environment : List (String × String)
  tool : List String → ToolAnswer
  clock : Number
  accessDenied : Bool
  width : Nat
  mishap : ToolCall → Option (String × String) := fun _ => none
  mean : List Nat → Double := Double.mean

namespace World

/-- What a call of a tool gives. -/
def answerTo (w : World) (call : ToolCall) : ToolAnswer :=
  match w.mishap call with
  | some (label, message) => .broken label message
  | none => w.tool call.words

/-- The value of an environment variable. -/
def lookup? (w : World) (name : String) : Option String := w.environment.lookup name

/-- The current directory as a route. -/
def current (w : World) : Route := Tree.routeOf w.here

/-- The home directory as a route.  A text of slashes alone is the top, and one that begins with a
tilde stands for the home of someone who is not known. -/
def home (w : World) : Except Failure Route :=
  let text := (w.lookup? "HOME").getD "/"
  if text.startsWith "~" then .error .noHome
  else if text.toList.all (· = '/') then .ok ⟨"/", []⟩
  else .ok (Route.ofText text)

/-- Whether a route leads anywhere. -/
def reaches (w : World) (route : Route) : Except Failure Bool := Tree.reaches w.top w.here route

/-- The node that a route leads to. -/
def find (w : World) (route : Route) : Except Obstacle Node := Tree.find w.top w.here route

/-- Whether a route leads to a directory. -/
def isDirectory (w : World) (route : Route) : Bool :=
  match w.find route with
  | .ok node => node.isDirectory
  | .error _ => false

/-- Whether a route names a link. -/
def isLink (w : World) (route : Route) : Bool :=
  match Tree.findLink w.top w.here route with
  | .ok node => node.isLink
  | .error _ => false

/-- The bytes of the file that a route leads to. -/
def readBytes (w : World) (route : Route) : Except Failure ByteArray :=
  Tree.readBytes w.top w.here route

/-- The real path of a route, which fails when links are seen to lead in a circle. -/
def resolve (w : World) (route : Route) (access : Access := .full) : Except Failure Route :=
  if route.hasZero then .error (.unreachable .zeroInPath route.text)
  else
    let resolved := Tree.routeOf (Tree.realPath w.top w.here route access.overlooks)
    if access.denies .target resolved then .ok resolved
    else
      match w.find resolved with
      | .error .tooManyLinks => .error (.linkLoop resolved.text)
      | _ => .ok resolved

end World

end SourceSurvey
