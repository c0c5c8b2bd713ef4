/-!
# UTF-8

`decode` reads bytes as UTF-8 with one replacement character for every maximal ill-formed part, and
`decodeStrict` stops at the first such part and reports it.  The lead byte fixes the number of bytes
that follow and the bounds of the first of them (`leadOf`); all later ones lie between 0x80 and
0xBF.

A text that comes from elsewhere can hold a half of a pair alone, which is no character (`Wide`).
`encode` writes such texts, and fails at such a half.
-/

namespace SourceSurvey.Text

namespace Utf8

/-- What a lead byte asks for: the bytes that follow, the bits it gives, and the bounds of the next
byte. -/
structure Lead where
  following : Nat
  bits : Nat
  low : Nat
  high : Nat

/-- The demands of a lead byte of at least 0x80; none when no character starts with it. -/
def leadOf (b : Nat) : Option Lead :=
  if 0xC2 ≤ b && b ≤ 0xDF then some ⟨1, b - 0xC0, 0x80, 0xBF⟩
  else if b = 0xE0 then some ⟨2, 0, 0xA0, 0xBF⟩
  else if b = 0xED then some ⟨2, 0xD, 0x80, 0x9F⟩
  else if 0xE1 ≤ b && b ≤ 0xEF then some ⟨2, b - 0xE0, 0x80, 0xBF⟩
  else if b = 0xF0 then some ⟨3, 0, 0x90, 0xBF⟩
  else if b = 0xF4 then some ⟨3, 4, 0x80, 0x8F⟩
  else if 0xF1 ≤ b && b ≤ 0xF3 then some ⟨3, b - 0xF0, 0x80, 0xBF⟩
  else none

/-- Why a part of the bytes is no character. -/
inductive Flaw where
  | start
  | continuation
  | ending
  deriving DecidableEq, Repr

/-- The wording of a flaw. -/
def Flaw.reason : Flaw → String
  | .start => "invalid start byte"
  | .continuation => "invalid continuation byte"
  | .ending => "unexpected end of data"

/-- One step of reading: a character or a flaw, each with the number of bytes it takes. -/
inductive Step where
  | char (c : Char) (size : Nat)
  | flaw (why : Flaw) (size : Nat)

/-- Reads the bytes after a lead byte: `left` bytes are still due, `taken` bytes are read, and the
next one lies between `low` and `high`. -/
def follow (data : ByteArray) (pos bits taken low high : Nat) : Nat → Step
  | 0 => .char (Char.ofNat bits) taken
  | left + 1 =>
    match data[pos + taken]? with
    | none => .flaw .ending taken
    | some b =>
      if low ≤ b.toNat && b.toNat ≤ high then
        follow data pos (bits * 64 + (b.toNat - 0x80)) (taken + 1) 0x80 0xBF left
      else .flaw .continuation taken

/-- Reads one character at `pos`, where a byte stands. -/
def step (data : ByteArray) (pos : Nat) (b : Nat) : Step :=
  if b < 0x80 then .char (Char.ofNat b) 1
  else
    match leadOf b with
    | none => .flaw .start 1
    | some lead => follow data pos lead.bits 1 lead.low lead.high lead.following

/-- The bytes that a step takes; at least one. -/
def Step.size : Step → Nat
  | .char _ n => max n 1
  | .flaw _ n => max n 1

theorem Step.size_pos (s : Step) : 0 < s.size := by
  cases s <;> exact Nat.lt_of_lt_of_le Nat.zero_lt_one (Nat.le_max_right _ _)

/-- Reads on from `pos`, with what is read so far in `out`. -/
def decodeFrom (data : ByteArray) (pos : Nat) (out : String) : String :=
  if h : pos < data.size then
    match step data pos data[pos].toNat with
    | .char c n => decodeFrom data (pos + (Step.char c n).size) (out.push c)
    | .flaw why n => decodeFrom data (pos + (Step.flaw why n).size) (out.push '\ufffd')
  else out
termination_by data.size - pos
decreasing_by
  · have := Step.size_pos (Step.char c n)
    omega
  · have := Step.size_pos (Step.flaw why n)
    omega

/-- Reads bytes as UTF-8; each maximal ill-formed part becomes one U+FFFD. -/
def decode (data : ByteArray) : String := decodeFrom data 0 ""

/-- An ill-formed part: the byte it starts with, its first position, its size and what is wrong. -/
structure Fault where
  byte : Nat
  position : Nat
  size : Nat
  why : Flaw
  deriving DecidableEq, Repr

/-- Reads on from `pos` and stops at the first ill-formed part. -/
def decodeStrictFrom (data : ByteArray) (pos : Nat) (out : String) : Except Fault String :=
  if h : pos < data.size then
    match step data pos data[pos].toNat with
    | .char c n => decodeStrictFrom data (pos + (Step.char c n).size) (out.push c)
    | .flaw why n => .error ⟨data[pos].toNat, pos, n, why⟩
  else .ok out
termination_by data.size - pos
decreasing_by
  have := Step.size_pos (Step.char c n)
  omega

/-- Reads bytes as UTF-8 and stops at the first ill-formed part. -/
def decodeStrict (data : ByteArray) : Except Fault String := decodeStrictFrom data 0 ""

end Utf8

/-- A code point: a character or one half of a pair. -/
abbrev CodePoint := Fin 0x110000

/-- A text of code points. -/
abbrev Wide := List CodePoint

/-- The code point of a character. -/
def CodePoint.ofChar (c : Char) : CodePoint :=
  ⟨c.toNat, c.valid.elim (fun h => Nat.lt_trans h (by decide)) fun h => h.2⟩

/-- The character at a code point; a half of a pair is none. -/
def CodePoint.char? (p : CodePoint) : Option Char :=
  if h : p.val.isValidChar then some (Char.ofNatAux p.val h) else none

/-- The code points of a text of characters. -/
def Wide.ofText (text : String) : Wide := text.toList.map CodePoint.ofChar

/-- The text of characters, if there is no half of a pair in it. -/
def Wide.text? (text : Wide) : Option String := (text.mapM CodePoint.char?).map String.ofList

/-- The bytes of a text, if there is no half of a pair in it. -/
def Utf8.encode (text : Wide) : Option ByteArray := text.text?.map String.toUTF8

end SourceSurvey.Text
