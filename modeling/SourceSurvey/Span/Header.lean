import SourceSurvey.Text.Class

/-!
# Headers of functions

The four shapes of text that announce a function.  `Header.match?` recognises a shape at the front
of a text and gives the function's name and what follows the header.

* a declaration: `function`, blanks, a name;
* an arrow: `const`, a name, `=`, perhaps `async`, parameters in parentheses on one line, `=>`;
* a body: a name, parameters without a closing parenthesis among them, an opening brace;
* an export: `export`, then `const` or `function`, a name.
-/

namespace SourceSurvey.Span

/-- What follows a word that stands in front. -/
def after? (word cs : List Char) : Option (List Char) :=
  if word.isPrefixOf cs then some (cs.drop word.length) else none

/-- A text without the blanks in front. -/
def skipBlanks (cs : List Char) : List Char := cs.dropWhile Text.isBlank

/-- What follows one blank or more. -/
def afterBlanks? : List Char → Option (List Char)
  | [] => none
  | c :: cs => if Text.isBlank c then some (skipBlanks cs) else none

/-- A name in front, and what follows it. -/
def name? (cs : List Char) : Option (List Char × List Char) :=
  match cs.takeWhile Text.isWord with
  | [] => none
  | name => some (name, cs.dropWhile Text.isWord)

/-- The shapes of headers. -/
inductive Header where
  | declaration
  | arrow
  | body
  | exported
  deriving DecidableEq

namespace Header

/-- All shapes, in the order in which they are searched. -/
def all : List Header := [.declaration, .arrow, .body, .exported]

/-- `function`, blanks and a name. -/
def declaration? (cs : List Char) : Option (List Char × List Char) := do
  let cs ← after? "function".toList cs
  let cs ← afterBlanks? cs
  name? cs

/-- What follows the last closing parenthesis of a line that an arrow follows. -/
def arrowTail? : List Char → Option (List Char)
  | [] => none
  | c :: cs =>
    if c = '\n' then none
    else
      match arrowTail? cs with
      | some rest => some rest
      | none => if c = ')' then after? ['=', '>'] (skipBlanks cs) else none

/-- What follows `async` and blanks, if they stand in front. -/
def skipAsync (cs : List Char) : List Char :=
  match after? "async".toList cs with
  | some rest => (afterBlanks? rest).getD cs
  | none => cs

/-- A constant with an arrow function. -/
def arrow? (cs : List Char) : Option (List Char × List Char) := do
  let cs ← after? "const".toList cs
  let cs ← afterBlanks? cs
  let (name, cs) ← name? cs
  let cs ← after? ['='] (skipBlanks cs)
  let cs ← after? ['('] (skipAsync (skipBlanks cs))
  let cs ← arrowTail? cs
  return (name, cs)

/-- A name with parameters and an opening brace. -/
def body? (cs : List Char) : Option (List Char × List Char) := do
  let (name, cs) ← name? cs
  let cs ← after? ['('] (skipBlanks cs)
  let cs ← after? [')'] (cs.dropWhile (· != ')'))
  let cs ← after? ['\x7b'] (skipBlanks cs)
  return (name, cs)

/-- An exported constant or function. -/
def exported? (cs : List Char) : Option (List Char × List Char) := do
  let cs ← after? "export".toList cs
  let cs ← afterBlanks? cs
  let cs ← (after? "const".toList cs).or (after? "function".toList cs)
  let cs ← afterBlanks? cs
  name? cs

/-- Recognises a header in front: its name and what follows it. -/
def match? : Header → List Char → Option (List Char × List Char)
  | .declaration => declaration?
  | .arrow => arrow?
  | .body => body?
  | .exported => exported?

end Header

end SourceSurvey.Span
