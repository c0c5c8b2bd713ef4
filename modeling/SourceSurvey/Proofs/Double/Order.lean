import SourceSurvey.Proofs.Double.Rounding

/-!
# The order of doubles

Every double that is no NaN has a place on the rational line with two ends, `Double.place`, and
`order?` compares places (`order?_eq`).  No operation on finite doubles gives a NaN.
-/

namespace SourceSurvey.Double

/-- The signed value of a significand and an exponent. -/
def ratio (negative : Bool) (m : ℕ) (e : ℤ) : ℚ := (signed negative m : ℚ) * 2 ^ e

/-- The place of a double on the rational line with its two ends.  A NaN has none, and is put at the
lower end. -/
def place : Double → WithBot (WithTop ℚ)
  | .nan => ⊥
  | .infinite s => if s then ⊥ else ((⊤ : WithTop ℚ) : WithBot (WithTop ℚ))
  | .finite s m e _ => ((ratio s m e : WithTop ℚ) : WithBot (WithTop ℚ))

/-- A strictly increasing map keeps the order of two things. -/
theorem compare_map {α β : Type} [LinearOrder α] [LinearOrder β] {f : α → β}
    (hf : StrictMono f) (a b : α) :
    compare (f a) (f b) = compare a b := by
  rw [← cmp_eq_compare, ← cmp_eq_compare, hf.cmp_map_eq]

theorem coe_strictMono : StrictMono fun q : ℚ => ((q : WithTop ℚ) : WithBot (WithTop ℚ)) :=
  WithBot.coe_strictMono.comp WithTop.coe_strictMono

/-- Scaling both sides to the lesser exponent keeps their order. -/
theorem orderScaled_eq (a : ℤ) (e : ℤ) (b : ℤ) (f : ℤ) :
    orderScaled a e b f = compare ((a : ℚ) * 2 ^ e) ((b : ℚ) * 2 ^ f) := by
  have hscale : ∀ (c g : ℤ), min e f ≤ g →
      ((c * 2 ^ (g - min e f).toNat : ℤ) : ℚ) * 2 ^ (min e f) = (c : ℚ) * 2 ^ g := by
    intro c g hg
    obtain ⟨k, hk⟩ := Int.eq_ofNat_of_zero_le (by omega : 0 ≤ g - min e f)
    have hge : g = k + min e f := by omega
    rw [hk, Int.toNat_natCast]
    push_cast
    rw [mul_assoc, ← zpow_natCast, ← zpow_add₀ (by norm_num), ← hge]
  have hpos := two_zpow_pos (min e f)
  rw [← hscale a e (min_le_left _ _), ← hscale b f (min_le_right _ _), orderScaled]
  change compare (a * 2 ^ (e - min e f).toNat) (b * 2 ^ (f - min e f).toNat) = _
  have hmono : StrictMono fun z : ℤ => (z : ℚ) * 2 ^ min e f := fun x y hxy =>
    mul_lt_mul_of_pos_right (by exact_mod_cast hxy) hpos
  exact (compare_map hmono _ _).symm

theorem compare_place_finite {s t : Bool} {m n : ℕ} {e f : ℤ} (h : Fits m e) (h' : Fits n f) :
    compare (finite s m e h).place (finite t n f h').place = compare (ratio s m e) (ratio t n f) :=
  compare_map coe_strictMono _ _

/-- **Doubles that are no NaN are ordered by their places.** -/
theorem order?_eq {x y : Double} (hx : x ≠ .nan) (hy : y ≠ .nan) :
    x.order? y = some (compare x.place y.place) := by
  cases x with
  | nan => exact absurd rfl hx
  | infinite s =>
    cases y with
    | nan => exact absurd rfl hy
    | infinite t =>
      cases s <;> cases t <;> refine congrArg some (Eq.symm ?_)
      · exact compare_eq_iff_eq.2 rfl
      · exact compare_gt_iff_gt.2 (WithBot.bot_lt_coe _)
      · exact compare_lt_iff_lt.2 (WithBot.bot_lt_coe _)
      · exact compare_eq_iff_eq.2 rfl
    | finite t n f h =>
      cases s <;> refine congrArg some (Eq.symm ?_)
      · exact compare_gt_iff_gt.2 (WithBot.coe_lt_coe.2 (WithTop.coe_lt_top _))
      · exact compare_lt_iff_lt.2 (WithBot.bot_lt_coe _)
  | finite s m e h =>
    cases y with
    | nan => exact absurd rfl hy
    | infinite t =>
      cases t <;> refine congrArg some (Eq.symm ?_)
      · exact compare_lt_iff_lt.2 (WithBot.coe_lt_coe.2 (WithTop.coe_lt_top _))
      · exact compare_gt_iff_gt.2 (WithBot.bot_lt_coe _)
    | finite t n f h' =>
      rw [compare_place_finite, order?, orderScaled_eq]
      rfl

/-! ## No NaN -/

theorem ofRatio_ne_nan (s : Bool) (n d : ℕ) : ofRatio s n d ≠ .nan := by
  have hassemble : ∀ m e, assemble s m e ≠ .nan := by
    intro m e
    unfold assemble
    split_ifs <;> simp
  unfold ofRatio
  split_ifs with hn
  · simp [zero]
  · dsimp only
    split_ifs
    · exact hassemble _ _
    · exact hassemble _ _

theorem mul_ne_nan {s t : Bool} {m n : ℕ} {e f : ℤ} (h : Fits m e) (h' : Fits n f) :
    (finite s m e h).mul (finite t n f h') ≠ .nan := ofRatio_ne_nan _ _ _

end SourceSurvey.Double
