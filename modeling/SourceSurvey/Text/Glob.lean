/-!
# Wildcard patterns

Patterns for names: `*` is any text, `?` any character, and brackets hold a set of characters, with
ranges and with `!` in front for all others.  A bracket that is never closed stands for itself.  A
range whose ends are in the wrong order holds nothing and is taken out before the set is read, so
that `!` may come to the front.
-/

namespace SourceSurvey.Text.Glob

/-- A part of a pattern. -/
inductive Part where
  | star
  | any
  | char (c : Char)
  | set (negated : Bool) (ranges : List (Char × Char))
  deriving DecidableEq

/-- Cuts the inside of brackets at the hyphens that make ranges: each of them has at least `room`
characters before it. -/
def chunksFrom (room : Nat) (chunk : List Char) : List Char → List (List Char)
  | [] => [chunk.reverse]
  | c :: cs =>
    match room with
    | room + 1 => chunksFrom room (c :: chunk) cs
    | 0 => if c = '-' then chunk.reverse :: chunksFrom 2 [] cs else chunksFrom 0 (c :: chunk) cs

/-- The chunks with an empty last one turned into a hyphen at the end of the chunk before. -/
def closeChunks : List (List Char) → List (List Char)
  | [] => []
  | [chunk] => [chunk]
  | [chunk, []] => [chunk ++ ['-']]
  | chunk :: rest => chunk :: closeChunks rest

/-- Joins a chunk to those behind it where the range between them would be in the wrong order. -/
def dropEmptyRanges : List (List Char) → List (List Char)
  | [] => []
  | chunk :: rest =>
    match dropEmptyRanges rest with
    | [] => [chunk]
    | next :: more =>
      match chunk.getLast?, next with
      | some last, first :: tail =>
        if first < last then (chunk.dropLast ++ tail) :: more else chunk :: next :: more
      | _, _ => chunk :: next :: more

/-- Characters as ranges of one. -/
def singles (cs : List Char) : List (Char × Char) := cs.map fun c => (c, c)

/-- The ranges that chunks stand for: each hyphen between two chunks joins the characters at its
sides.  `low` is the character before the last hyphen. -/
def rangesOf (low : Option Char) : List (List Char) → List (Char × Char)
  | [] => []
  | chunk :: rest =>
    let (joined, body) :=
      match low, chunk with
      | some low, high :: tail => ([(low, high)], tail)
      | _, _ => ([], chunk)
    if rest.isEmpty then joined ++ singles body
    else joined ++ singles body.dropLast ++ rangesOf body.getLast? rest

/-- The number of characters at the front of a set that no hyphen can cut off. -/
def frontRoom : List Char → Nat
  | '!' :: _ => 2
  | _ => 1

/-- The set that chunks stand for.  A `!` in front is not the low end of a range, so a hyphen behind
it stands for itself. -/
def setOfChunks : List (List Char) → Part
  | ['!'] :: chunk :: rest => .set true (('-', '-') :: rangesOf none (chunk :: rest))
  | ('!' :: body) :: rest => .set true (rangesOf none (body :: rest))
  | chunks => .set false (rangesOf none chunks)

/-- The set that the inside of brackets stands for. -/
def setOf (inside : List Char) : Part :=
  setOfChunks (dropEmptyRanges (closeChunks (chunksFrom (frontRoom inside) [] inside)))

/-- The inside of brackets and what follows them; the first character of the set may be a
bracket. -/
def splitSet (cs : List Char) : Option (List Char × List Char) :=
  let (front, body) :=
    match cs with
    | '!' :: ']' :: rest => (['!', ']'], rest)
    | '!' :: rest => (['!'], rest)
    | ']' :: rest => ([']'], rest)
    | _ => ([], cs)
  match body.dropWhile (· != ']') with
  | _ :: after => some (front ++ body.takeWhile (· != ']'), after)
  | [] => none

/-- Reads a pattern; every step takes at least one character. -/
def parseFrom : Nat → List Char → List Part
  | 0, _ => []
  | _, [] => []
  | fuel + 1, c :: cs =>
    if c = '*' then .star :: parseFrom fuel cs
    else if c = '?' then .any :: parseFrom fuel cs
    else if c = '[' then
      match splitSet cs with
      | some (inside, after) => setOf inside :: parseFrom fuel after
      | none => .char '[' :: parseFrom fuel cs
    else .char c :: parseFrom fuel cs

/-- Reads a pattern. -/
def parse (pattern : String) : List Part := parseFrom pattern.length pattern.toList

/-- Tests what is left after any number of characters. -/
def skipping (next : List Char → Bool) : List Char → Bool
  | [] => next []
  | c :: cs => next (c :: cs) || skipping next cs

/-- Whether a character is in one of the ranges. -/
def inSet (ranges : List (Char × Char)) (c : Char) : Bool :=
  ranges.any fun (low, high) => low ≤ c && c ≤ high

/-- Whether a whole name fits a pattern. -/
def fits : List Part → List Char → Bool
  | [], cs => cs.isEmpty
  | .star :: rest, cs => skipping (fits rest) cs
  | .any :: rest, cs =>
    match cs with
    | [] => false
    | _ :: cs => fits rest cs
  | .char p :: rest, cs =>
    match cs with
    | [] => false
    | c :: cs => c == p && fits rest cs
  | .set negated ranges :: rest, cs =>
    match cs with
    | [] => false
    | c :: cs => (inSet ranges c != negated) && fits rest cs

/-- Whether a name fits a pattern given as text. -/
def accepts (pattern name : String) : Bool := fits (parse pattern) name.toList

end SourceSurvey.Text.Glob
