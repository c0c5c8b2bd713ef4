import SourceSurvey.Expression.Literal
import SourceSurvey.Failure
import SourceSurvey.Layout.Style

/-!
# Markup

Text with tags in square brackets, such as `[bold]`, which are not shown.  A tag starts with a small
letter, `#`, `/` or `@` and holds no further opening bracket.  Backslashes in front of a tag stand
for half as many, and an odd one makes the tag plain text.  A tag whose name starts with `@` names
an action, and what stands behind its equals sign gives the action's arguments.

* `pieces`: a text cut into plain parts and tags;
* `escape`: markup that shows a text as it is;
* `shown`: what markup shows, which fails on a closing tag without its opening one, and on a closed
  action whose arguments cannot be read.
-/

namespace SourceSurvey.Layout

/-- A part of a text with markup: plain, or a tag with the number of backslashes in front of it and
the position of its bracket. -/
inductive Piece where
  | plain (text : List Char)
  | tag (slashes : Nat) (body : List Char) (position : Nat)
  deriving DecidableEq

/-- Where a scan is: behind some backslashes, or in what may become a tag, of which the body is kept
in reverse. -/
inductive Mode where
  | outside (slashes : Nat)
  | inside (slashes : Nat) (body : List Char)

/-- Whether a character can start a tag. -/
def startsTag (c : Char) : Bool := ('a' ≤ c && c ≤ 'z') || c == '#' || c == '/' || c == '@'

/-- Backslashes. -/
def slashes (n : Nat) : List Char := List.replicate n '\\'

/-- A plain part, from its reverse, in front of other parts. -/
def plainBefore (reversed : List Char) (rest : List Piece) : List Piece :=
  if reversed.isEmpty then rest else .plain reversed.reverse :: rest

/-- What a scan has passed without finding a tag, in reverse. -/
def Mode.passed (mode : Mode) (plain : List Char) : List Char :=
  match mode with
  | .outside n => slashes n ++ plain
  | .inside n body => body ++ '[' :: slashes n ++ plain

/-- One character outside of tags: the mode behind it and the plain text in reverse. -/
def passOutside (n : Nat) (plain : List Char) (c : Char) : Mode × List Char :=
  if c = '\\' then (.outside (n + 1), plain)
  else if c = '[' then (.inside n [], plain)
  else (.outside 0, c :: slashes n ++ plain)

/-- Cuts a text into pieces, from a position and a mode, with the plain text before it in
reverse. -/
def piecesFrom (position : Nat) (mode : Mode) (plain : List Char) : List Char → List Piece
  | [] => plainBefore (mode.passed plain) []
  | c :: rest =>
    match mode with
    | .outside n =>
      let (mode, plain) := passOutside n plain c
      piecesFrom (position + 1) mode plain rest
    | .inside n [] =>
      if startsTag c then piecesFrom (position + 1) (.inside n [c]) plain rest
      else
        let (mode, plain) := passOutside 0 ('[' :: slashes n ++ plain) c
        piecesFrom (position + 1) mode plain rest
    | .inside n (b :: body) =>
      if c = ']' then
        plainBefore plain
          (.tag n (b :: body).reverse (position - (body.length + 2)) ::
            piecesFrom (position + 1) (.outside 0) [] rest)
      else if c = '[' then
        let trailing := (b :: body).takeWhile (· = '\\')
        let passed := (b :: body).dropWhile (· = '\\') ++ '[' :: slashes n ++ plain
        piecesFrom (position + 1) (.inside trailing.length []) passed rest
      else piecesFrom (position + 1) (.inside n (c :: b :: body)) plain rest

/-- Cuts a text into pieces. -/
def pieces (text : List Char) : List Piece := piecesFrom 0 (.outside 0) [] text

/-- A piece as markup that shows it. -/
def Piece.escaped : Piece → List Char
  | .plain text => text
  | .tag n body _ => slashes (2 * n + 1) ++ '[' :: body ++ [']']

/-- A text with a second backslash behind a single one at its end. -/
def closeSlash (text : List Char) : List Char :=
  match text.reverse with
  | '\\' :: '\\' :: _ => text
  | '\\' :: _ => text ++ ['\\']
  | _ => text

/-- Markup that shows a text as it is. -/
def escape (text : List Char) : List Char := closeSlash ((pieces text).flatMap Piece.escaped)

/-- Plain text without backslashes in front of brackets. -/
def unslash : List Char → List Char
  | '\\' :: '[' :: rest => '[' :: unslash rest
  | c :: rest => c :: unslash rest
  | [] => []

/-- A tag that has been opened: the name of its style, and what stands behind an equals sign. -/
structure OpenTag where
  name : String
  parameters : Option (List Char)
  deriving DecidableEq

/-- The tag that a body opens. -/
def openTag (body : List Char) : Except Misuse OpenTag := do
  let name ← styleName (body.takeWhile (· ≠ '='))
  match body.dropWhile (· ≠ '=') with
  | [] => return ⟨name, none⟩
  | _ :: parameters => return ⟨name, some parameters⟩

/-- The arguments of an action: what stands in brackets behind a name with points, if there is
nothing else, and no arguments behind a name alone. -/
def arguments (parameters : List Char) : List Char :=
  let text := Text.trim parameters
  match text.dropWhile fun c => Text.isWord c || c = '.' with
  | [] => ['(', ')']
  | '(' :: rest => if rest.getLast? = some ')' && !rest.contains '\n' then '(' :: rest else text
  | _ => text

/-- Checks the arguments of a tag that is closed, if it names an action. -/
def OpenTag.check (tag : OpenTag) : Except Failure Unit :=
  match tag.name.toList, tag.parameters with
  | '@' :: _, some (c :: more) =>
    let whole := String.ofList (c :: more)
    let part := arguments (c :: more)
    match Expression.check part with
    | .ok () => .ok ()
    | .error (.complaint why) =>
      .error (.badParameters (some (String.ofList part)) whole why.message)
    | .error flaw => .error (.badParameters none whole flaw.message)
  | _, _ => .ok ()

/-- The open tags behind a tag at a position, the nearest first. -/
def nest (open_ : List OpenTag) (body : List Char) (position : Nat) :
    Except Failure (List OpenTag) := do
  match body.takeWhile (· ≠ '=') with
  | '/' :: name =>
    if (Text.trim name).isEmpty then
      match open_ with
      | [] => throw (.nothingToClose "[/]" position)
      | tag :: others =>
        tag.check
        return others
    else
      let name ← styleName (Text.trim name)
      match open_.find? (·.name = name) with
      | some tag =>
        tag.check
        return open_.eraseP (·.name = name)
      | none => throw (.unopenedTag (String.ofList ('[' :: body ++ [']'])) position)
  | _ => return (← openTag body) :: open_

/-- Controls that are never shown: bell, backspace, vertical tab, form feed, carriage return. -/
def isDropped (c : Char) : Bool := [7, 8, 11, 12, 13].contains c.toNat

/-- What pieces show, given the open tags in front of them. -/
def shownFrom (open_ : List OpenTag) : List Piece → Except Failure (List Char)
  | [] => .ok []
  | .plain text :: rest => do return unslash text ++ (← shownFrom open_ rest)
  | .tag n body position :: rest => do
    if n % 2 = 1 then return slashes (n / 2) ++ '[' :: body ++ ']' :: (← shownFrom open_ rest)
    else return slashes (n / 2) ++ (← shownFrom (← nest open_ body position) rest)

/-- What a text with markup shows. -/
def shown (markup : String) : Except Failure (List Char) := do
  return (← shownFrom [] (pieces markup.toList)).filter fun c => !isDropped c

/-- A loosely typed text as markup that shows it. -/
def escaped (v : Value) : Except Misuse String := do
  return String.ofList (escape (← v.asText).toList)

end SourceSurvey.Layout
