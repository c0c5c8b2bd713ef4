import SourceSurvey.Fault
import SourceSurvey.Json.Fault
import SourceSurvey.Text.Utf8
import SourceSurvey.Toml.Fault

/-!
# Failures

Everything that can end an operation early: a misused value, a fault of the survey itself, a
document that cannot be read, a file that cannot be reached, markup that does not close, an error of
an outside tool, and an interrupt.  `Failure.message` is the wording and `Failure.label` the name of
the class.
-/

namespace SourceSurvey

/-- Why a file cannot be reached. -/
inductive Obstacle where
  /-- The path holds the character zero, which no name can have. -/
  | zeroInPath
  | missing
  | denied
  | notDirectory
  | isDirectory
  | nameTooLong
  | tooManyLinks
  deriving DecidableEq

namespace Obstacle

/-- The wording of an obstacle on the way to a path. -/
def message (path : String) : Obstacle → String
  | .zeroInPath => "embedded null byte"
  | .missing => "[Errno 2] No such file or directory: " ++ Text.quoted path
  | .denied => "[Errno 13] Permission denied: " ++ Text.quoted path
  | .notDirectory => "[Errno 20] Not a directory: " ++ Text.quoted path
  | .isDirectory => "[Errno 21] Is a directory: " ++ Text.quoted path
  | .nameTooLong => "[Errno 36] File name too long: " ++ Text.quoted path
  | .tooManyLinks => "[Errno 40] Too many levels of symbolic links: " ++ Text.quoted path

/-- The name of the class of an obstacle. -/
def label : Obstacle → String
  | .zeroInPath => "ValueError"
  | .missing => "FileNotFoundError"
  | .denied => "PermissionError"
  | .notDirectory => "NotADirectoryError"
  | .isDirectory => "IsADirectoryError"
  | .nameTooLong | .tooManyLinks => "OSError"

end Obstacle

/-- A failure. -/
inductive Failure where
  | misuse (cause : Misuse)
  | fault (cause : Fault)
  | notJson (document : List Char) (what : Json.Flaw) (left : Nat)
  | notToml (document : List Char) (what : Toml.Flaw) (left : Nat)
  | notUtf8 (cause : Text.Utf8.Fault)
  | unreachable (cause : Obstacle) (path : String)
  | linkLoop (path : String)
  | noHome
  | notRenderable (kind : Kind)
  | unopenedTag (tag : String) (position : Nat)
  | nothingToClose (tag : String) (position : Nat)
  /-- The parameters of a tag that cannot be read, with the part of them that is at fault if it is
  known. -/
  | badParameters (part : Option String) (parameters reason : String)
  | outside (label message : String)
  | interrupt
  deriving DecidableEq

namespace Failure

/-- The name of the class of a failure. -/
def label : Failure → String
  | .misuse cause => cause.label
  | .fault cause => cause.label
  | .notJson _ _ _ => "JSONDecodeError"
  | .notToml _ _ _ => "TOMLDecodeError"
  | .notUtf8 _ => "UnicodeDecodeError"
  | .unreachable cause _ => cause.label
  | .linkLoop _ | .noHome => "RuntimeError"
  | .notRenderable _ => "NotRenderableError"
  | .unopenedTag _ _ | .nothingToClose _ _ | .badParameters _ _ _ => "MarkupError"
  | .outside label _ => label
  | .interrupt => "KeyboardInterrupt"

/-- The wording of ill-formed UTF-8. -/
def utf8Text (f : Text.Utf8.Fault) : String :=
  let place :=
    if f.size ≤ 1 then
      s!"byte 0x{String.ofList (Text.hexPadded 2 f.byte)} in position {f.position}"
    else s!"bytes in position {f.position}-{f.position + f.size - 1}"
  s!"'utf-8' codec can't decode {place}: {f.why.reason}"

/-- The wording of a failure. -/
def message : Failure → String
  | .misuse cause => cause.message
  | .fault cause => cause.text
  | .notJson document what left => Json.describe document what left
  | .notToml document what left => Toml.describe document what left
  | .notUtf8 cause => utf8Text cause
  | .unreachable cause path => cause.message path
  | .linkLoop path => "Symlink loop from " ++ Text.quoted path
  | .noHome => "Could not determine home directory."
  | .notRenderable kind =>
    s!"unable to render {kind.name}; a string or other renderable object is required"
  | .unopenedTag tag position =>
    s!"closing tag '{tag}' at position {position} doesn't match any open tag"
  | .nothingToClose tag position =>
    s!"closing tag '{tag}' at position {position} has nothing to close"
  | .badParameters (some part) parameters reason =>
    s!"error parsing {Text.quoted part} in {Text.quoted parameters}; {reason}"
  | .badParameters none parameters reason => s!"error parsing {Text.quoted parameters}; {reason}"
  | .outside _ message => message
  | .interrupt => ""

end Failure

/-- A computation that may misuse a value, as one that may fail. -/
def orFail {α : Type} : Except Misuse α → Except Failure α
  | .ok a => .ok a
  | .error m => .error (.misuse m)

instance : MonadLift (Except Misuse) (Except Failure) := ⟨orFail⟩

end SourceSurvey
