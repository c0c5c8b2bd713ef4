import SourceSurvey.Double.Decimal
import SourceSurvey.Value.Order

/-!
# Values as numbers

Integer parts, products and number formats of loosely typed values.
-/

namespace SourceSurvey

namespace Number

/-- The double nearest to a number. -/
def toDouble : Number → Except Misuse Double
  | .float x => .ok x
  | .int i =>
    match Double.ofInt? i with
    | some x => .ok x
    | none => .error .integerTooLarge

/-- The number as a value. -/
def toValue : Number → Value
  | .int i => .int i
  | .float x => .float x

/-- The product: exact for two integers, rounded otherwise. -/
def mul : Number → Number → Except Misuse Number
  | .int i, .int j => .ok (.int (i * j))
  | a, b => do
    let x ← a.toDouble
    let y ← b.toDouble
    return .float (x.mul y)

end Number

/-- The integer part of a double. -/
def Double.integerPart (x : Double) : Except Misuse Int :=
  match x with
  | .nan => .error .integerOfNaN
  | .infinite _ => .error .integerOfInfinity
  | .finite .. => .ok (x.truncate?.getD 0)

/-- Reads a text as an integer. -/
def integerOfText (s : String) : Except Misuse Int :=
  match Text.readInteger s.toList with
  | .ok i => .ok i
  | .error .malformed => .error (.badInteger s)
  | .error (.tooManyDigits n) => .error (.tooManyDigits n)

/-- Reads a text as a double. -/
def doubleOfText (s : String) : Except Misuse Double :=
  match Text.readDouble s.toList with
  | some x => .ok x
  | none => .error (.badDecimal s)

namespace Value

/-- The integer that a value stands for: the integer part of a number, or what a text reads as. -/
def toInteger (v : Value) : Except Misuse Int :=
  match v with
  | .bool b => .ok (if b then 1 else 0)
  | .int i => .ok i
  | .float x => x.integerPart
  | .str s => integerOfText s
  | _ => .error (.notNumeric v.kind)

/-- The integer that a value is, with no reading and no rounding. -/
def asInteger (v : Value) : Except Misuse Int :=
  match v with
  | .bool b => .ok (if b then 1 else 0)
  | .int i => .ok i
  | _ => .error (.notInteger v.kind)

/-- A text or list repeated a whole number of times. -/
def repeated (v : Value) (times : Int) : Value :=
  match v with
  | .str s => .str (String.join (List.replicate times.toNat s))
  | .list items => .list (List.replicate times.toNat items).flatten
  | _ => v

/-- The greatest number of members that a sequence can have. -/
def greatestSize : Int := 0x7fffffffffffffff

/-- A sequence times a value, which has to be an integer. -/
def repeatedBy (v count : Value) : Except Misuse Value :=
  match count.number? with
  | some (.int n) =>
    if -greatestSize - 1 ≤ n ∧ n ≤ greatestSize then .ok (v.repeated n) else .error .sizeTooLarge
  | _ => .error (.repeatedBy count.kind)

/-- Whether a value is a sequence that can be repeated. -/
def isSequence : Value → Bool
  | .str _ | .list _ => true
  | _ => false

/-- The product of two values: of numbers, or a sequence repeated. -/
def times (a b : Value) : Except Misuse Value :=
  match a.number?, b.number? with
  | some x, some y => (x.mul y).map Number.toValue
  | _, _ =>
    if a.isSequence then a.repeatedBy b
    else if b.isSequence then b.repeatedBy a
    else .error (.noProduct a.kind b.kind)

/-- A value as a double to be formatted under the given code. -/
def formatted (v : Value) (code : Char) : Except Misuse Double :=
  match v.number? with
  | some x => x.toDouble
  | none =>
    match v with
    | .str _ => .error (.numberFormat code v.kind)
    | _ => .error (.noFormat v.kind)

/-- A number with a fixed count of places. -/
def fixed (v : Value) (places : Nat) : Except Misuse String :=
  (v.formatted 'f').map (Double.fixed places)

/-- A number as a percentage without places. -/
def percent (v : Value) : Except Misuse String := (v.formatted '%').map Double.percent

end Value

end SourceSurvey
