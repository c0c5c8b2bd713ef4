import SourceSurvey.Text.Class

/-!
# Shapes of text

A shape is a list of pieces that stand one after the other.  `fits` tells whether a text starts with
a shape, and `occurs` whether a shape stands anywhere in a line.  Each piece passes what follows it
on to the test of the pieces behind it, and pieces of varying length try every length.
-/

namespace SourceSurvey.Rule

/-- A letter with its case taken off; the long s, the Kelvin sign and the two Turkish letters count
as the ASCII letters they fold to. -/
def foldCase (c : Char) : Char :=
  if c = '\u017f' then 's' else if c = '\u212a' then 'k'
  else if c = '\u0131' || c = '\u0130' then 'i' else c.toLower

/-- A piece of a shape. -/
inductive Piece where
  /-- The characters themselves. -/
  | word (cs : List Char)
  /-- The characters in either case, given in lower case. -/
  | letters (cs : List Char)
  /-- Any number of blanks. -/
  | blanks
  /-- One blank or more. -/
  | someBlanks
  /-- One of the characters. -/
  | oneOf (cs : List Char)
  /-- One of the characters or nothing. -/
  | maybe (cs : List Char)
  /-- Any characters of the line. -/
  | anything
  deriving DecidableEq

namespace Piece

/-- Tests what is left after any number of characters that satisfy `p`. -/
def skipping (p : Char → Bool) (next : List Char → Bool) : List Char → Bool
  | [] => next []
  | c :: cs => next (c :: cs) || (p c && skipping p next cs)

/-- Tests what is left behind a piece that stands in front. -/
def step (next : List Char → Bool) : Piece → List Char → Bool
  | .word w, cs => w.isPrefixOf cs && next (cs.drop w.length)
  | .letters w, cs => w.isPrefixOf ((cs.take w.length).map foldCase) && next (cs.drop w.length)
  | .blanks, cs => skipping Text.isBlank next cs
  | .someBlanks, cs =>
    match cs with
    | [] => false
    | c :: cs => Text.isBlank c && skipping Text.isBlank next cs
  | .oneOf set, cs =>
    match cs with
    | [] => false
    | c :: cs => set.contains c && next cs
  | .maybe set, cs =>
    next cs ||
      match cs with
      | [] => false
      | c :: cs => set.contains c && next cs
  | .anything, cs => skipping (· != '\n') next cs

end Piece

/-- Whether a text starts with a shape. -/
def fits : List Piece → List Char → Bool
  | [], _ => true
  | piece :: rest, cs => piece.step (fits rest) cs

/-- Whether a shape stands somewhere in a text. -/
def occurs (shape : List Piece) : List Char → Bool
  | [] => fits shape []
  | c :: cs => fits shape (c :: cs) || occurs shape cs

end SourceSurvey.Rule
