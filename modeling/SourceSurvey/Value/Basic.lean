import SourceSurvey.Double.Basic
import SourceSurvey.Value.Moment

/-!
# Values

The loosely typed values that reports, manifests and configuration files are made of.  Objects keep
the order of their fields.

* `Value`, with decidable equality;
* `Kind` and `Value.kind`, with the names under which kinds appear in messages;
* `Value.truthy`, which holds of everything but nothing, zero and the empty.
-/

namespace SourceSurvey

/-- A loosely typed value. -/
inductive Value where
  | null
  | bool (b : Bool)
  | int (i : Int)
  | float (x : Double)
  | str (s : String)
  | list (items : List Value)
  | obj (fields : List (String × Value))
  | moment (m : Moment)

/-- The kinds of value. -/
inductive Kind where
  | null
  | bool
  | int
  | float
  | str
  | list
  | obj
  | date
  | time
  | stamp
  deriving DecidableEq

/-- The name of a kind in messages. -/
def Kind.name : Kind → String
  | .null => "NoneType"
  | .bool => "bool"
  | .int => "int"
  | .float => "float"
  | .str => "str"
  | .list => "list"
  | .obj => "dict"
  | .date => "datetime.date"
  | .time => "datetime.time"
  | .stamp => "datetime.datetime"

namespace Value

/-- The kind of a value. -/
def kind : Value → Kind
  | .null => .null
  | .bool _ => .bool
  | .int _ => .int
  | .float _ => .float
  | .str _ => .str
  | .list _ => .list
  | .obj _ => .obj
  | .moment (.date _) => .date
  | .moment (.time _) => .time
  | .moment (.stamp _ _ _) => .stamp

/-- Whether a value counts as true. -/
def truthy : Value → Bool
  | .null => false
  | .bool b => b
  | .int i => i != 0
  | .float x => !x.isZero
  | .str s => s != ""
  | .list items => !items.isEmpty
  | .obj fields => !fields.isEmpty
  | .moment _ => true

/-- Whether a value is the given text. -/
def isText (v : Value) (s : String) : Bool :=
  match v with
  | .str t => t == s
  | _ => false

/-- A natural number as a value. -/
def ofNat (n : Nat) : Value := .int n

/-- A list of texts as a value. -/
def ofTexts (texts : List String) : Value := .list (texts.map .str)

mutual

/-- Equality of values is decided along their structure. -/
def decEq : (a b : Value) → Decidable (a = b)
  | .null, b =>
    match b with
    | .null => isTrue rfl
    | .bool _ | .int _ | .float _ | .str _ | .list _ | .obj _ | .moment _ => isFalse (by simp)
  | .bool x, b =>
    match b with
    | .bool y => decidable_of_iff (x = y) (by simp)
    | .null | .int _ | .float _ | .str _ | .list _ | .obj _ | .moment _ => isFalse (by simp)
  | .int x, b =>
    match b with
    | .int y => decidable_of_iff (x = y) (by simp)
    | .null | .bool _ | .float _ | .str _ | .list _ | .obj _ | .moment _ => isFalse (by simp)
  | .float x, b =>
    match b with
    | .float y => decidable_of_iff (x = y) (by simp)
    | .null | .bool _ | .int _ | .str _ | .list _ | .obj _ | .moment _ => isFalse (by simp)
  | .str x, b =>
    match b with
    | .str y => decidable_of_iff (x = y) (by simp)
    | .null | .bool _ | .int _ | .float _ | .list _ | .obj _ | .moment _ => isFalse (by simp)
  | .list x, b =>
    match b with
    | .list y => @decidable_of_iff _ (x = y) (by simp) (decEqList x y)
    | .null | .bool _ | .int _ | .float _ | .str _ | .obj _ | .moment _ => isFalse (by simp)
  | .obj x, b =>
    match b with
    | .obj y => @decidable_of_iff _ (x = y) (by simp) (decEqFields x y)
    | .null | .bool _ | .int _ | .float _ | .str _ | .list _ | .moment _ => isFalse (by simp)
  | .moment x, b =>
    match b with
    | .moment y => decidable_of_iff (x = y) (by simp)
    | .null | .bool _ | .int _ | .float _ | .str _ | .list _ | .obj _ => isFalse (by simp)

/-- Equality of lists of values. -/
def decEqList : (a b : List Value) → Decidable (a = b)
  | [], [] => isTrue rfl
  | [], _ :: _ => isFalse (by simp)
  | _ :: _, [] => isFalse (by simp)
  | x :: xs, y :: ys =>
    @decidable_of_iff _ (x = y ∧ xs = ys) (by simp)
      (@instDecidableAnd _ _ (decEq x y) (decEqList xs ys))

/-- Equality of the fields of objects. -/
def decEqFields : (a b : List (String × Value)) → Decidable (a = b)
  | [], [] => isTrue rfl
  | [], _ :: _ => isFalse (by simp)
  | _ :: _, [] => isFalse (by simp)
  | (k, x) :: xs, (l, y) :: ys =>
    @decidable_of_iff _ (k = l ∧ x = y ∧ xs = ys) (by simp [and_assoc])
      (@instDecidableAnd _ _ _ (@instDecidableAnd _ _ (decEq x y) (decEqFields xs ys)))

end

instance : DecidableEq Value := decEq

end Value

end SourceSurvey
