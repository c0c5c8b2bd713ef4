/-!
# Arguments of a command line

Options have long names behind two dashes and may have short ones of one letter behind one dash.
Some take a value: behind an equals sign after a long name, in the rest of the argument after a
short one, or as the next argument.  Short options can share a dash.  Of several values for one
option the last counts.

* `Name`, the options;
* `read`: the values of the options, or a flaw.
-/

namespace SourceSurvey.CommandLine

/-- The options. -/
inductive Name where
  | path
  | json
  | part
  | noAudit
  | outdated
  | failOn
  | config
  | workers
  | verbose
  | version
  deriving DecidableEq

namespace Name

/-- The long names. -/
def longNames : List (String × Name) :=
  [("--path", .path), ("--json", .json), ("--section", .part), ("--no-audit", .noAudit),
    ("--outdated", .outdated), ("--fail-on", .failOn), ("--config", .config),
    ("--workers", .workers), ("--verbose", .verbose), ("--version", .version)]

/-- The short names. -/
def shortNames : List (Char × Name) :=
  [('C', .path), ('s', .part), ('c', .config), ('w', .workers), ('v', .verbose)]

/-- Whether an option takes a value. -/
def takesValue : Name → Bool
  | .path | .part | .failOn | .config | .workers => true
  | .json | .noAudit | .outdated | .verbose | .version => false

end Name

/-- What is wrong with a command line. -/
inductive Flaw where
  | unknownOption
  | missingValue
  | unwantedValue
  | surplusArgument
  | badValue
  deriving DecidableEq

/-- Options with their values in the order in which they are given; those without a value have an
empty one. -/
abbrev Given := List (Name × String)

/-- What an argument gives: options, and perhaps one that waits for the next argument. -/
structure Partial where
  given : Given
  waiting : Option Name

/-- Reads the letters behind a single dash. -/
def readShort : List Char → Except Flaw Partial
  | [] => .ok ⟨[], none⟩
  | c :: rest =>
    match Name.shortNames.lookup c with
    | none => .error .unknownOption
    | some name =>
      if name.takesValue then
        if rest.isEmpty then .ok ⟨[], some name⟩ else .ok ⟨[(name, String.ofList rest)], none⟩
      else (readShort rest).map fun p => ⟨(name, "") :: p.given, p.waiting⟩

/-- A text cut at its first equals sign. -/
def cutAtEquals (text : List Char) : List Char × Option (List Char) :=
  match text.dropWhile (· ≠ '=') with
  | [] => (text, none)
  | _ :: value => (text.takeWhile (· ≠ '='), some value)

/-- Reads an argument behind two dashes. -/
def readLong (argument : List Char) : Except Flaw Partial :=
  let (front, value) := cutAtEquals argument
  match Name.longNames.lookup (String.ofList front), value with
  | none, _ => .error .unknownOption
  | some name, some v =>
    if name.takesValue then .ok ⟨[(name, String.ofList v)], none⟩ else .error .unwantedValue
  | some name, none => .ok (if name.takesValue then ⟨[], some name⟩ else ⟨[(name, "")], none⟩)

/-- Reads one argument, which has to be an option. -/
def readArgument (argument : String) : Except Flaw Partial :=
  match argument.toList with
  | '-' :: '-' :: rest => readLong ('-' :: '-' :: rest)
  | '-' :: c :: rest => readShort (c :: rest)
  | _ => .error .surplusArgument

/-- Reads arguments, the first of which may be the value of an option that waits for it.  Two dashes
alone end the options, and nothing may follow them. -/
def readFrom : Option Name → List String → Except Flaw Given
  | some _, [] => .error .missingValue
  | none, [] => .ok []
  | some name, value :: rest => (readFrom none rest).map ((name, value) :: ·)
  | none, argument :: rest =>
    if argument = "--" then if rest.isEmpty then .ok [] else .error .surplusArgument
    else
      match readArgument argument with
      | .error flaw => .error flaw
      | .ok p => (readFrom p.waiting rest).map (p.given ++ ·)

/-- Reads the arguments of a command line. -/
def read (arguments : List String) : Except Flaw Given := readFrom none arguments

/-- The value of an option: the last one that is given. -/
def value? (given : Given) (name : Name) : Option String := given.reverse.lookup name

/-- Whether an option is given. -/
def isGiven (given : Given) (name : Name) : Bool := (value? given name).isSome

end SourceSurvey.CommandLine
