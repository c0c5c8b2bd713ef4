import SourceSurvey.Double.Basic

/-!
# Decimal texts of doubles

`Double.shortest` gives the fewest significant digits that still round to the number; of several
such decimals it takes the one nearest to the number.  `Double.text` writes them, positionally for
decimal exponents from -4 to 15 and with an exponent otherwise.  `Double.fixed` writes a given
number of places, rounding the exact value with ties to even.
-/

namespace SourceSurvey.Double

/-- The order of `a * 10 ^ p` and `b * 2 ^ e`. -/
def orderDecimal (a : Nat) (p : Int) (b : Nat) (e : Int) : Ordering :=
  let left :=
    a * (if 0 ≤ p then Nat.pow 10 p.toNat else 1) * (if 0 ≤ e then 1 else Nat.pow 2 (-e).toNat)
  let right :=
    b * (if 0 ≤ e then Nat.pow 2 e.toNat else 1) * (if 0 ≤ p then 1 else Nat.pow 10 (-p).toNat)
  compare left right

/-- The power of ten of the leading digit of `m * 2 ^ e`, which is not zero. -/
def leadingPower (m : Nat) (e : Int) : Int :=
  let guess := ((m.log2 : Int) + e) * 30103 / 100000
  if (orderDecimal 1 (guess + 1) m e).isLE then guess + 1
  else if (orderDecimal 1 guess m e).isLE then guess
  else guess - 1

/-- Whether `a * 10 ^ p` rounds to the number with significand `m` and exponent `e`. -/
def roundsTo (m : Nat) (e : Int) (a : Nat) (p : Int) : Bool :=
  let below := 4 * m - (if m = Nat.pow 2 52 && e ≠ -1074 then 1 else 2)
  let above := 4 * m + 2
  let low := orderDecimal a p below (e - 2)
  let high := orderDecimal a p above (e - 2)
  if m % 2 = 0 then low.isGE && high.isLE else low.isGT && high.isLT

/-- The two multiples of `10 ^ p` around `m * 2 ^ e`: the quotient, which is the lower one. -/
def floorAt (m : Nat) (e : Int) (p : Int) : Nat :=
  let num :=
    m * (if 0 ≤ e then Nat.pow 2 e.toNat else 1) * (if 0 ≤ p then 1 else Nat.pow 10 (-p).toNat)
  let den := (if 0 ≤ e then 1 else Nat.pow 2 (-e).toNat) * (if 0 ≤ p then Nat.pow 10 p.toNat else 1)
  num / den

/-- Of two neighbouring multiples of `10 ^ p` that both round to the number, whether the upper one
is nearer, or as near and even. -/
def upperNearer (m : Nat) (e : Int) (a : Nat) (p : Int) : Bool :=
  match orderDecimal (2 * a + 1) p (2 * m) e with
  | .lt => true
  | .eq => a % 2 = 1
  | .gt => false

/-- Searches the shortest decimal, from grid `10 ^ p` downwards. -/
def shortestFrom (m : Nat) (e : Int) (p : Int) : Nat → Nat × Int
  | 0 => (floorAt m e p, p)
  | tries + 1 =>
    let a := floorAt m e p
    match roundsTo m e a p, roundsTo m e (a + 1) p with
    | true, true => if upperNearer m e a p then (a + 1, p) else (a, p)
    | true, false => (a, p)
    | false, true => (a + 1, p)
    | false, false => shortestFrom m e (p - 1) tries

/-- The fewest digits, as an integer and a power of ten, that round to `m * 2 ^ e`. -/
def shortest (m : Nat) (e : Int) : Nat × Int := shortestFrom m e (leadingPower m e) 17

/-- Digits without the zeros at their end. -/
def stripZeros (ds : List Char) : List Char := (ds.reverse.dropWhile (· == '0')).reverse

/-- The decimal exponents that are written positionally. -/
def isPositional (exponent : Int) : Bool := -4 ≤ exponent && exponent < 16

/-- An exponent with its sign and at least two digits. -/
def exponentText (exponent : Int) : List Char :=
  let digits := Nat.toDigits 10 exponent.natAbs
  'e' :: (if exponent < 0 then '-' else '+') ::
    (if digits.length < 2 then '0' :: digits else digits)

/-- The digits `ds`, of which the first has the weight `10 ^ exponent`, as a decimal numeral. -/
def layOut (ds : List Char) (exponent : Int) : List Char :=
  if isPositional exponent then
    if exponent < 0 then
      '0' :: '.' :: (List.replicate (-exponent - 1).toNat '0' ++ ds)
    else
      let whole := exponent.toNat + 1
      let front := ds.take whole ++ List.replicate (whole - ds.length) '0'
      let back := ds.drop whole
      front ++ '.' :: (if back.isEmpty then ['0'] else back)
  else
    match ds with
    | [] => []
    | [d] => d :: exponentText exponent
    | d :: more => d :: '.' :: (more ++ exponentText exponent)

/-- The numeral of a nonnegative finite number. -/
def magnitudeText (m : Nat) (e : Int) : List Char :=
  if m = 0 then ['0', '.', '0']
  else
    let (a, p) := shortest m e
    let ds := Nat.toDigits 10 a
    layOut (stripZeros ds) (p + ds.length - 1)

/-- The shortest text of a number. -/
def text : Double → String
  | .nan => "nan"
  | .infinite s => if s then "-inf" else "inf"
  | .finite s m e _ => String.ofList ((if s then ['-'] else []) ++ magnitudeText m e)

/-- A natural number with a point before its last `places` digits. -/
def withPoint (n places : Nat) : List Char :=
  let ds := Nat.toDigits 10 n
  let padded := List.replicate (places + 1 - ds.length) '0' ++ ds
  let whole := padded.length - places
  padded.take whole ++ (if places = 0 then [] else '.' :: padded.drop whole)

/-- The number with a fixed count of places; the exact value is rounded, a tie to even. -/
def fixed (places : Nat) : Double → String
  | .nan => "nan"
  | .infinite s => if s then "-inf" else "inf"
  | .finite s m e _ =>
    let (num, den) := scaled (m * Nat.pow 10 places) 1 (-e)
    String.ofList ((if s then ['-'] else []) ++ withPoint (roundQuotient num den) places)

/-- The number as a percentage without places. -/
def percent (x : Double) : String := fixed 0 (mul x (ofNat 100)) ++ "%"

end SourceSurvey.Double
