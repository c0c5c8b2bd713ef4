import SourceSurvey.Span.Block
import SourceSurvey.Span.Header

/-!
# Spans

Function-like regions of a text.  A span starts where a header is found and reaches to the end of
the first block from there on; it is empty when no block ends.  Headers of one shape do not overlap,
and the spans of several shapes are not merged.

* `Match`, `headers`: the headers of one shape in a text;
* `Span`, `spans`: the regions.
-/

namespace SourceSurvey.Span

/-- A header that was found: where it starts, how long it is, and the name in it. -/
structure Match where
  start : Nat
  size : Nat
  name : List Char
  deriving DecidableEq

/-- The headers in a text that starts at the offset `start`; the first `skip` characters belong to
the header found last. -/
def headersFrom (shape : Header) (start skip : Nat) : List Char → List Match
  | [] => []
  | c :: cs =>
    match skip with
    | skip + 1 => headersFrom shape (start + 1) skip cs
    | 0 =>
      match shape.match? (c :: cs) with
      | some (name, rest) =>
        let size := (c :: cs).length - rest.length
        ⟨start, size, name⟩ :: headersFrom shape (start + 1) (size - 1) cs
      | none => headersFrom shape (start + 1) 0 cs

/-- The headers of one shape in a text, from left to right without overlap. -/
def headers (shape : Header) (text : List Char) : List Match := headersFrom shape 0 0 text

end SourceSurvey.Span

namespace SourceSurvey

/-- A function-like region: its name, the line on which it starts, and its text. -/
structure Span where
  name : List Char
  line : Nat
  text : List Char
  deriving DecidableEq

namespace Span

/-- The number of the line that holds an offset. -/
def lineAt (text : List Char) (start : Nat) : Nat := (text.take start).count '\n' + 1

/-- The region that starts with a header. -/
def ofMatch (text : List Char) (m : Match) : Span :=
  ⟨m.name, lineAt text m.start, (text.drop m.start).take (blockEnd text m.start - m.start)⟩

/-- The regions of a text, shape by shape. -/
def spans (shapes : List Header) (text : List Char) : List Span :=
  shapes.flatMap fun shape => (headers shape text).map (ofMatch text)

end Span

end SourceSurvey
