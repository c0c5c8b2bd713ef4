/-!
# Dates and times

Calendar dates, times of day and their combination with an optional offset, as configuration files
hold them, and their texts.
-/

namespace SourceSurvey

/-- A calendar date. -/
structure Day where
  year : Nat
  month : Nat
  day : Nat
  deriving DecidableEq

/-- A time of day with microseconds. -/
structure Clock where
  hour : Nat
  minute : Nat
  second : Nat
  micro : Nat
  deriving DecidableEq

/-- A date, a time of day, or both with an optional offset in minutes. -/
inductive Moment where
  | date (day : Day)
  | time (clock : Clock)
  | stamp (day : Day) (clock : Clock) (offset : Option Int)
  deriving DecidableEq

/-- A number with zeros in front up to a width. -/
def zeroPadded (width n : Nat) : String :=
  let digits := Nat.toDigits 10 n
  String.ofList (List.replicate (width - digits.length) '0' ++ digits)

/-- A date as year, month and day. -/
def Day.text (d : Day) : String :=
  zeroPadded 4 d.year ++ "-" ++ zeroPadded 2 d.month ++ "-" ++ zeroPadded 2 d.day

/-- A time of day; microseconds are written when there are any. -/
def Clock.text (t : Clock) : String :=
  zeroPadded 2 t.hour ++ ":" ++ zeroPadded 2 t.minute ++ ":" ++ zeroPadded 2 t.second ++
    (if t.micro = 0 then "" else "." ++ zeroPadded 6 t.micro)

/-- An offset in minutes with its sign. -/
def offsetText (minutes : Int) : String :=
  (if minutes < 0 then "-" else "+") ++ zeroPadded 2 (minutes.natAbs / 60) ++ ":" ++
    zeroPadded 2 (minutes.natAbs % 60)

/-- The text of a moment. -/
def Moment.text : Moment → String
  | .date d => d.text
  | .time t => t.text
  | .stamp d t none => d.text ++ " " ++ t.text
  | .stamp d t (some minutes) => d.text ++ " " ++ t.text ++ offsetText minutes

end SourceSurvey
