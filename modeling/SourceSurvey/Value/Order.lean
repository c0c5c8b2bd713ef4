import SourceSurvey.Value.Misuse

/-!
# Order and agreement of values

Numbers are ordered by value whatever their kind, truth values counting as zero and one; texts are
ordered by code points and lists item by item.  All other pairs have no order.  A NaN is neither
below nor above anything.

* `Value.number?`, the number that a value is;
* `Value.agrees`, equality by meaning, for which `1`, `1.0` and `true` are one;
* `Value.test`, a comparison by order.
-/

namespace SourceSurvey

/-- A number of either kind. -/
inductive Number where
  | int (i : Int)
  | float (x : Double)
  deriving DecidableEq

namespace Number

/-- The order of two numbers; none when one is a NaN. -/
def order? : Number → Number → Option Ordering
  | .int i, .int j => some (compare i j)
  | .int i, .float y => (y.orderInt? i).map Ordering.swap
  | .float x, .int j => x.orderInt? j
  | .float x, .float y => x.order? y

end Number

/-- Whether a comparison holds of two things in the given order. -/
def Comparison.holds : Comparison → Ordering → Bool
  | .lt, o => o.isLT
  | .le, o => o.isLE
  | .gt, o => o.isGT
  | .ge, o => o.isGE

/-- Whether a comparison holds of two numbers; never of a NaN. -/
def Comparison.ofNumbers (how : Comparison) (a b : Number) : Bool :=
  match a.order? b with
  | some o => how.holds o
  | none => false

namespace Value

/-- The number that a value is. -/
def number? : Value → Option Number
  | .bool b => some (.int (if b then 1 else 0))
  | .int i => some (.int i)
  | .float x => some (.float x)
  | _ => none

/-- Whether two values are numbers of the same size. -/
def sameNumber (a b : Value) : Bool :=
  match a.number?, b.number? with
  | some x, some y => x.order? y == some .eq
  | _, _ => false

mutual

/-- Equality by meaning. -/
def agrees : Value → Value → Bool
  | .list xs, b =>
    match b with
    | .list ys => agreesList xs ys
    | _ => false
  | .obj xs, b =>
    match b with
    | .obj ys => xs.length == ys.length && agreesFields xs ys
    | _ => false
  | .null, b => b.kind == .null
  | .str s, b => b.isText s
  | .moment m, b => b == .moment m
  | .bool x, b => sameNumber (.bool x) b
  | .int x, b => sameNumber (.int x) b
  | .float x, b => sameNumber (.float x) b

/-- Lists agree item by item. -/
def agreesList : List Value → List Value → Bool
  | [], [] => true
  | x :: xs, y :: ys => agrees x y && agreesList xs ys
  | _, _ => false

/-- Each field has its equal among the others. -/
def agreesFields : List (String × Value) → List (String × Value) → Bool
  | [], _ => true
  | (k, x) :: xs, ys =>
    (match ys.lookup k with
      | some y => agrees x y
      | none => false) && agreesFields xs ys

end

/-- The order of two texts by code points. -/
def textOrder (a b : String) : Ordering := compare a b

mutual

/-- Compares two values by order. -/
def test (how : Comparison) : Value → Value → Except Misuse Bool
  | .list xs, .list ys => testList how xs ys
  | .str s, .str t => .ok (how.holds (textOrder s t))
  | a, b =>
    match a.number?, b.number? with
    | some x, some y => .ok (how.ofNumbers x y)
    | _, _ => .error (.unordered how a.kind b.kind)

/-- Compares two lists at the first place where they differ, or by length. -/
def testList (how : Comparison) : List Value → List Value → Except Misuse Bool
  | [], ys => .ok (how.holds (compare 0 ys.length))
  | _ :: _, [] => .ok (how.holds .gt)
  | x :: xs, y :: ys => if agrees x y then testList how xs ys else test how x y

end

end Value

end SourceSurvey
