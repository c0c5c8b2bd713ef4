import SourceSurvey.Proofs.Double.Order
import SourceSurvey.Proofs.Value.Order

/-!
# The order of numbers of both kinds

Integers and doubles stand on one line, the rational line with its two ends (`Number.place`).  A
comparison of two numbers holds just when none of them is a NaN and their places stand in the
relation that it names (`Comparison.ofNumbers_iff`), so that comparisons can be chained whatever the
kinds of the numbers.
-/

namespace SourceSurvey

/-! ## Places -/

/-- The place of a number on the rational line with its two ends. -/
def Number.place : Number → WithBot (WithTop ℚ)
  | .int i => (((i : ℚ) : WithTop ℚ) : WithBot (WithTop ℚ))
  | .float x => x.place

theorem Number.place_int_strictMono : StrictMono fun i : ℤ => (Number.int i).place :=
  Double.coe_strictMono.comp Int.cast_strictMono

@[simp] theorem Number.place_int_le
    {i j : ℤ} : (Number.int i).place ≤ (Number.int j).place ↔ i ≤ j :=
  Number.place_int_strictMono.le_iff_le

/-- A double that is no NaN is ordered against an integer by their places. -/
theorem Double.orderInt?_eq {x : Double} (hx : x ≠ .nan) (i : ℤ) :
    x.orderInt? i = some (compare x.place (Number.int i).place) := by
  cases x with
  | nan => exact absurd rfl hx
  | infinite s =>
    cases s with
    | false =>
      exact congrArg some (compare_gt_iff_gt.2 (WithBot.coe_lt_coe.2 (WithTop.coe_lt_top _))).symm
    | true => exact congrArg some (compare_lt_iff_lt.2 (WithBot.bot_lt_coe _)).symm
  | finite s m e h =>
    rw [Double.orderInt?, Double.orderScaled_eq, zpow_zero, mul_one]
    exact congrArg some (Double.compare_map Double.coe_strictMono (Double.ratio s m e) (i : ℚ)).symm

/-- **Numbers that are no NaN are ordered by their places.** -/
theorem Number.order?_eq {x y : Number} (hx : x ≠ .float .nan) (hy : y ≠ .float .nan) :
    x.order? y = some (compare x.place y.place) := by
  cases x with
  | int i =>
    cases y with
    | int j => exact congrArg some (Double.compare_map Number.place_int_strictMono i j).symm
    | float y =>
      have hy : y ≠ .nan := fun h => hy (congrArg _ h)
      rw [Number.order?, Double.orderInt?_eq hy, Option.map_some, ← Std.OrientedCmp.eq_swap]
      rfl
  | float x =>
    have hx : x ≠ .nan := fun h => hx (congrArg _ h)
    cases y with
    | int j => exact Double.orderInt?_eq hx j
    | float y =>
      have hy : y ≠ .nan := fun h => hy (congrArg _ h)
      exact Double.order?_eq hx hy

/-! ## Comparisons -/

@[simp] theorem Number.order?_nan_left (y : Number) : (Number.float .nan).order? y = none := by
  cases y <;> rfl

@[simp] theorem Number.order?_nan_right (x : Number) : x.order? (.float .nan) = none := by
  cases x with
  | int i => rfl
  | float x => cases x <;> rfl

/-- **A comparison of numbers** is one of places, and never holds of a NaN. -/
theorem Comparison.ofNumbers_iff (how : Comparison) (x y : Number) :
    how.ofNumbers x y = true ↔ x ≠ .float .nan ∧ y ≠ .float .nan ∧ how.Relates x.place y.place := by
  unfold Comparison.ofNumbers
  by_cases hx : x = .float .nan
  · subst hx
    simp
  by_cases hy : y = .float .nan
  · subst hy
    simp
  rw [Number.order?_eq hx hy]
  simp only [hx, hy, ne_eq, not_false_eq_true, true_and]
  exact how.holds_compare _ _

/-- A strictly increasing map keeps what a comparison says. -/
theorem Comparison.relates_map {α β : Type} [LinearOrder α] [LinearOrder β] {f : α → β}
    (hf : StrictMono f) (how : Comparison) (a b : α) :
    how.Relates (f a) (f b) ↔ how.Relates a b := by
  cases how with
  | lt => exact hf.lt_iff_lt
  | le => exact hf.le_iff_le
  | gt => exact hf.lt_iff_lt
  | ge => exact hf.le_iff_le

end SourceSurvey
