import Mathlib.Tactic
import SourceSurvey.Value.Order

/-!
# Comparisons of numbers

A comparison of two values that are numbers never fails, and between integers it is the comparison
of the integers (`Comparison.Relates`).
-/

namespace SourceSurvey

theorem Value.test_of_number {a b : Value} {x y : Number} (ha : a.number? = some x)
    (hb : b.number? = some y) (how : Comparison) :
    Value.test how a b = .ok (how.ofNumbers x y) := by
  cases a <;> cases b <;> simp_all [Value.test, Value.number?]

/-- A value that can be compared with a number is a number. -/
theorem Value.number?_right_of_test {a b : Value} {x : Number} {how : Comparison} {r : Bool}
    (h : a.test how b = .ok r) (ha : a.number? = some x) :
    ∃ y, b.number? = some y ∧ how.ofNumbers x y = r := by
  cases hb : b.number? with
  | none => cases a <;> cases b <;> simp_all [Value.test, Value.number?]
  | some y =>
    rw [Value.test_of_number ha hb] at h
    exact ⟨y, rfl, Except.ok.inj h⟩

theorem Value.number?_left_of_test {a b : Value} {y : Number} {how : Comparison} {r : Bool}
    (h : a.test how b = .ok r) (hb : b.number? = some y) :
    ∃ x, a.number? = some x ∧ how.ofNumbers x y = r := by
  cases ha : a.number? with
  | none => cases a <;> cases b <;> simp_all [Value.test, Value.number?]
  | some x =>
    rw [Value.test_of_number ha hb] at h
    exact ⟨x, rfl, Except.ok.inj h⟩

/-- The relation that a comparison stands for. -/
def Comparison.Relates {α : Type} [LinearOrder α] : Comparison → α → α → Prop
  | .lt, a, b => a < b
  | .le, a, b => a ≤ b
  | .gt, a, b => b < a
  | .ge, a, b => b ≤ a

theorem Comparison.holds_compare {α : Type} [LinearOrder α] (how : Comparison) (a b : α) :
    how.holds (compare a b) = true ↔ how.Relates a b := by
  cases how with
  | lt => exact Ordering.isLT_iff_eq_lt.trans compare_lt_iff_lt
  | le => exact Ordering.isLE_iff_ne_gt.trans compare_le_iff_le
  | gt => exact Ordering.isGT_iff_eq_gt.trans compare_gt_iff_gt
  | ge => exact Ordering.isGE_iff_ne_lt.trans compare_ge_iff_ge

theorem Comparison.ofNumbers_int (how : Comparison) (i j : ℤ) :
    how.ofNumbers (.int i) (.int j) = true ↔ how.Relates i j := how.holds_compare i j

@[simp] theorem Comparison.ofNumbers_int_lt (i j : ℤ) :
    Comparison.lt.ofNumbers (.int i) (.int j) = decide (i < j) := by
  rw [Bool.eq_iff_iff, ofNumbers_int, decide_eq_true_eq]
  rfl

@[simp] theorem Comparison.ofNumbers_int_gt (i j : ℤ) :
    Comparison.gt.ofNumbers (.int i) (.int j) = decide (j < i) := by
  rw [Bool.eq_iff_iff, ofNumbers_int, decide_eq_true_eq]
  rfl

@[simp] theorem Value.test_ofNat_pos (n : ℕ) :
    Value.test .gt (.ofNat n) (.int 0) = .ok (decide (0 < n)) := by
  rw [Value.test_of_number rfl rfl, Comparison.ofNumbers_int_gt]
  simp

end SourceSurvey
