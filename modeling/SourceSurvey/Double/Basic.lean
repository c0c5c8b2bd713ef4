/-!
# Double-precision numbers

The binary floating-point numbers with 53 significant bits and exponents from -1074 to 971, with
exact arithmetic on their significands.  Every operation computes the exact rational result first
and rounds it once, to the nearest number and to the even significand on a tie (`roundQuotient`,
`ofRatio`).

* `Double`, `Fits`;
* `ofRatio`, `ofScaled`, `ofNat`, `ofInt?`, `ofDecimal`, `mul`;
* `order?` and `orderInt?`, which have no answer for a NaN;
* `truncate?`, the integer part of a finite number.
-/

namespace SourceSurvey

/-- A significand and exponent in canonical form: 53 bits, or fewer at the least exponent. -/
def Fits (m : Nat) (e : Int) : Prop :=
  m < Nat.pow 2 53 ∧ -1074 ≤ e ∧ e ≤ 971 ∧ (Nat.pow 2 52 ≤ m ∨ e = -1074)

instance (m : Nat) (e : Int) : Decidable (Fits m e) := by unfold Fits; infer_instance

/-- A double-precision number: `finite s m e _` is `m * 2 ^ e`, negated when `s` holds. -/
inductive Double where
  | nan
  | infinite (negative : Bool)
  | finite (negative : Bool) (significand : Nat) (exponent : Int) (fits : Fits significand exponent)
  deriving DecidableEq

namespace Double

/-- The quotient rounded to the nearest integer, a half to the even one. -/
def roundQuotient (n d : Nat) : Nat :=
  let q := n / d
  let twice := 2 * (n % d)
  if twice < d then q else if d < twice then q + 1 else if q % 2 = 0 then q else q + 1

/-- `n / d` divided by `2 ^ e`, as a numerator and a denominator. -/
def scaled (n d : Nat) (e : Int) : Nat × Nat :=
  if 0 ≤ e then (n, d * Nat.pow 2 e.toNat) else (n * Nat.pow 2 (-e).toNat, d)

/-- A zero with the given sign. -/
def zero (negative : Bool) : Double := .finite negative 0 (-1074) (by decide)

/-- The number with this significand and exponent, infinite when the exponent is too large. -/
def assemble (negative : Bool) (m : Nat) (e : Int) : Double :=
  if h : Fits m e then .finite negative m e h else .infinite negative

/-- The exponent at which `n / d`, which is not zero, has 53 bits before its point. -/
def exponentFor (n d : Nat) : Int :=
  let guess : Int := (n.log2 : Int) - d.log2 - 53
  let (num, den) := scaled n d guess
  max (if num / den < Nat.pow 2 53 then guess else guess + 1) (-1074)

/-- The number nearest to `n / d`. -/
def ofRatio (negative : Bool) (n d : Nat) : Double :=
  if n = 0 then zero negative
  else
    let e := exponentFor n d
    let (num, den) := scaled n d e
    let m := roundQuotient num den
    if m = Nat.pow 2 53 then assemble negative (Nat.pow 2 52) (e + 1) else assemble negative m e

/-- The number nearest to `m * 2 ^ e`. -/
def ofScaled (negative : Bool) (m : Nat) (e : Int) : Double :=
  let (num, den) := scaled m 1 (-e)
  ofRatio negative num den

/-- The number nearest to a natural number. -/
def ofNat (n : Nat) : Double := ofRatio false n 1

/-- The number nearest to an integer; none when it is out of range. -/
def ofInt? (i : Int) : Option Double :=
  match ofRatio (decide (i < 0)) i.natAbs 1 with
  | .infinite _ => none
  | x => some x

/-- The number nearest to `digits * 10 ^ e`.  Exponents far outside the range are settled without
the power of ten. -/
def ofDecimal (negative : Bool) (digits : Nat) (e : Int) : Double :=
  let size : Int := (Nat.toDigits 10 digits).length
  if digits = 0 then zero negative
  else if e + size > 400 then .infinite negative
  else if e + size < -400 then zero negative
  else if 0 ≤ e then ofRatio negative (digits * Nat.pow 10 e.toNat) 1
  else ofRatio negative digits (Nat.pow 10 (-e).toNat)

/-- The number nearest to the mean of numbers of which there are some. -/
def mean (numbers : List Nat) : Double := ofRatio false (numbers.foldr (· + ·) 0) numbers.length

/-- Whether a number is a zero of either sign. -/
def isZero : Double → Bool
  | .finite _ m _ _ => m = 0
  | _ => false

/-- Whether the sign is minus, also of a zero. -/
def isNegative : Double → Bool
  | .nan => false
  | .infinite s => s
  | .finite s _ _ _ => s

/-- The product, rounded once. -/
def mul : Double → Double → Double
  | .nan, _ => .nan
  | _, .nan => .nan
  | .infinite s, y => if y.isZero then .nan else .infinite (s != y.isNegative)
  | x, .infinite s => if x.isZero then .nan else .infinite (s != x.isNegative)
  | .finite s m e _, .finite t n f _ => ofScaled (s != t) (m * n) (e + f)

/-- A significand with its sign. -/
def signed (negative : Bool) (m : Nat) : Int := if negative then -(m : Int) else m

/-- The order of `a * 2 ^ e` and `b * 2 ^ f`. -/
def orderScaled (a : Int) (e : Int) (b : Int) (f : Int) : Ordering :=
  let least := min e f
  compare (a * Int.pow 2 (e - least).toNat) (b * Int.pow 2 (f - least).toNat)

/-- The order of two numbers; none when one is a NaN. -/
def order? : Double → Double → Option Ordering
  | .nan, _ => none
  | _, .nan => none
  | .infinite s, .infinite t => some (compare (signed s 1) (signed t 1))
  | .infinite s, _ => some (if s then .lt else .gt)
  | _, .infinite t => some (if t then .gt else .lt)
  | .finite s m e _, .finite t n f _ => some (orderScaled (signed s m) e (signed t n) f)

/-- The order of a number and an integer; none for a NaN. -/
def orderInt? : Double → Int → Option Ordering
  | .nan, _ => none
  | .infinite s, _ => some (if s then .lt else .gt)
  | .finite s m e _, i => some (orderScaled (signed s m) e i 0)

/-- The integer part of a finite number. -/
def truncate? : Double → Option Int
  | .finite s m e _ =>
    some (signed s (if 0 ≤ e then m * Nat.pow 2 e.toNat else m / Nat.pow 2 (-e).toNat))
  | _ => none

end Double

end SourceSurvey
