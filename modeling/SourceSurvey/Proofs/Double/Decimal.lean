import SourceSurvey.Double.Decimal
import SourceSurvey.Proofs.Double.Rounding

/-!
# Shortest decimals

The decimal that `Double.shortest` finds lies in the rounding interval of its double
(`rounds_shortest`), so that reading it gives the double back (`ofDecimal_eq_finite`).  At seventeen
digits the grid of decimals is finer than the interval, so the search never comes to its last
resort.
-/

namespace SourceSurvey.Double

/-! ## Comparison of decimals with binary numbers -/

theorem ten_zpow_pos (p : ℤ) : (0 : ℚ) < 10 ^ p := zpow_pos (by norm_num) p

/-- An integer power as a quotient of two natural powers, one of them trivial. -/
theorem zpow_eq_div (b : ℕ) (p : ℤ) :
    (b : ℚ) ^ p = ((if 0 ≤ p then b ^ p.toNat else 1 : ℕ) : ℚ) /
      ((if 0 ≤ p then 1 else b ^ (-p).toNat : ℕ) : ℚ) := by
  split_ifs with h
  · obtain ⟨k, rfl⟩ := Int.eq_ofNat_of_zero_le h
    simp
  · obtain ⟨k, hk⟩ := Int.eq_ofNat_of_zero_le (show 0 ≤ -p by omega)
    obtain rfl : p = -(k : ℤ) := by omega
    simp

/-- The two sides that `orderDecimal` compares are the two numbers times one factor. -/
theorem orderDecimal_eq (a : ℕ) (p : ℤ) (b : ℕ) (e : ℤ) : ∃ (left right : ℕ) (k : ℚ), 0 < k ∧
    orderDecimal a p b e = compare left right ∧ (left : ℚ) = a * 10 ^ p * k ∧
      (right : ℚ) = b * 2 ^ e * k := by
  have h10 := zpow_eq_div 10 p
  have h2 := zpow_eq_div 2 e
  have hp : 0 < (if 0 ≤ p then 1 else 10 ^ (-p).toNat : ℕ) := by split_ifs <;> positivity
  have he : 0 < (if 0 ≤ e then 1 else 2 ^ (-e).toNat : ℕ) := by split_ifs <;> positivity
  refine ⟨_, _, ((if 0 ≤ p then 1 else 10 ^ (-p).toNat : ℕ) : ℚ) *
    ((if 0 ≤ e then 1 else 2 ^ (-e).toNat : ℕ) : ℚ), ?_, rfl, ?_, ?_⟩
  · exact mul_pos (by exact_mod_cast hp) (by exact_mod_cast he)
  · rw [show (10 : ℚ) = ((10 : ℕ) : ℚ) by norm_num, h10]
    have hp' : ((if 0 ≤ p then 1 else 10 ^ (-p).toNat : ℕ) : ℚ) ≠ 0 := by exact_mod_cast hp.ne'
    rw [Nat.cast_mul, Nat.cast_mul]
    simp only [Nat.pow_eq]
    field_simp
  · rw [show (2 : ℚ) = ((2 : ℕ) : ℚ) by norm_num, h2]
    have he' : ((if 0 ≤ e then 1 else 2 ^ (-e).toNat : ℕ) : ℚ) ≠ 0 := by exact_mod_cast he.ne'
    rw [Nat.cast_mul, Nat.cast_mul]
    simp only [Nat.pow_eq]
    field_simp

section Order

variable (a : ℕ) (p : ℤ) (b : ℕ) (e : ℤ)

@[simp] theorem orderDecimal_isLE : (orderDecimal a p b e).isLE ↔ (a : ℚ) * 10 ^ p ≤ b * 2 ^ e := by
  obtain ⟨l, r, k, hk, ho, hl, hr⟩ := orderDecimal_eq a p b e
  rw [ho, Nat.isLE_compare, ← mul_le_mul_iff_of_pos_right hk, ← hl, ← hr, Nat.cast_le]

@[simp] theorem orderDecimal_isGE : (orderDecimal a p b e).isGE ↔ (b : ℚ) * 2 ^ e ≤ a * 10 ^ p := by
  obtain ⟨l, r, k, hk, ho, hl, hr⟩ := orderDecimal_eq a p b e
  rw [ho, Nat.isGE_compare, ← mul_le_mul_iff_of_pos_right hk, ← hl, ← hr, Nat.cast_le]

@[simp] theorem orderDecimal_isLT : (orderDecimal a p b e).isLT ↔ (a : ℚ) * 10 ^ p < b * 2 ^ e := by
  obtain ⟨l, r, k, hk, ho, hl, hr⟩ := orderDecimal_eq a p b e
  rw [ho, Ordering.isLT_iff_eq_lt, Nat.compare_eq_lt, ← mul_lt_mul_iff_of_pos_right hk, ← hl,
    ← hr, Nat.cast_lt]

@[simp] theorem orderDecimal_isGT : (orderDecimal a p b e).isGT ↔ (b : ℚ) * 2 ^ e < a * 10 ^ p := by
  obtain ⟨l, r, k, hk, ho, hl, hr⟩ := orderDecimal_eq a p b e
  rw [ho, Ordering.isGT_iff_eq_gt, Nat.compare_eq_gt, ← mul_lt_mul_iff_of_pos_right hk, ← hl,
    ← hr, Nat.cast_lt]

end Order

/-! ## The rounding interval in decimals -/

/-- `roundsTo` decides whether a decimal lies in the rounding interval. -/
theorem roundsTo_iff {m : ℕ} (hm : 0 < m) (e : ℤ) (a : ℕ) (p : ℤ) :
    roundsTo m e a p = true ↔ Rounds m e ((a : ℚ) * 10 ^ p) := by
  have hquarter : (2 : ℚ) ^ e = 4 * 2 ^ (e - 2) := by
    rw [show e = e - 2 + 1 + 1 by omega, two_zpow_succ, two_zpow_succ, show e - 2 + 1 + 1 - 2 =
      e - 2 by omega]
    ring
  have hlow : (((4 * m - if m = 2 ^ 52 && e ≠ -1074 then 1 else 2 : ℕ) : ℚ) * 2 ^ (e - 2)) =
      ((m : ℚ) - lowGap m e) * 2 ^ e := by
    rw [hquarter, Nat.cast_sub (by split_ifs <;> omega), lowGap]
    by_cases h : m = 2 ^ 52 ∧ e ≠ -1074
    · rw [if_pos h, if_pos (by simpa using h)]; push_cast; ring
    · rw [if_neg h, if_neg (by simpa using h)]; push_cast; ring
  have hhigh : (((4 * m + 2 : ℕ) : ℚ) * 2 ^ (e - 2)) = ((m : ℚ) + 1 / 2) * 2 ^ e := by
    rw [hquarter]; push_cast; ring
  simp only [roundsTo, Nat.pow_eq]
  by_cases heven : m % 2 = 0
  · rw [if_pos heven, Bool.and_eq_true, orderDecimal_isGE, orderDecimal_isLE, hlow, hhigh]
    exact ⟨fun h => ⟨h.1, h.2, fun _ => heven⟩, fun h => ⟨h.low, h.high⟩⟩
  · rw [if_neg heven, Bool.and_eq_true, orderDecimal_isGT, orderDecimal_isLT, hlow, hhigh]
    constructor
    · rintro ⟨h1, h2⟩
      refine ⟨h1.le, h2.le, ?_⟩
      rintro (h | h)
      · exact absurd h h1.ne'
      · exact absurd h h2.ne
    · intro h
      refine ⟨lt_of_le_of_ne h.low fun heq => heven (h.even (Or.inl heq.symm)),
        lt_of_le_of_ne h.high fun heq => heven (h.even (Or.inr heq))⟩

/-- `floorAt` gives the multiple of a power of ten at or below a number. -/
theorem floorAt_bounds (m : ℕ) (e p : ℤ) :
    (floorAt m e p : ℚ) * 10 ^ p ≤ m * 2 ^ e ∧
    (m : ℚ) * 2 ^ e < (floorAt m e p + 1 : ℕ) * 10 ^ p := by
  have h10 := zpow_eq_div 10 p
  have h2 := zpow_eq_div 2 e
  have h10n : 0 < (if 0 ≤ p then 10 ^ p.toNat else 1 : ℕ) := by split_ifs <;> positivity
  have h10d : 0 < (if 0 ≤ p then 1 else 10 ^ (-p).toNat : ℕ) := by split_ifs <;> positivity
  have h2d : 0 < (if 0 ≤ e then 1 else 2 ^ (-e).toNat : ℕ) := by split_ifs <;> positivity
  unfold floorAt
  simp only [Nat.cast_ofNat] at h10 h2
  rw [h10, h2]
  generalize (if 0 ≤ p then 10 ^ p.toNat else 1 : ℕ) = x at *
  generalize (if 0 ≤ p then 1 else 10 ^ (-p).toNat : ℕ) = y at *
  generalize (if 0 ≤ e then 2 ^ e.toNat else 1 : ℕ) = u at *
  generalize (if 0 ≤ e then 1 else 2 ^ (-e).toNat : ℕ) = v at *
  have hy : (0 : ℚ) < y := by exact_mod_cast h10d
  have hv : (0 : ℚ) < v := by exact_mod_cast h2d
  have hden : 0 < v * x := Nat.mul_pos h2d h10n
  constructor
  · rw [← mul_div_assoc, ← mul_div_assoc, div_le_div_iff₀ hy hv]
    have := Nat.div_mul_le_self (m * u * y) (v * x)
    have hq : ((m * u * y / (v * x) : ℕ) : ℚ) * (v * x) ≤ m * u * y := by exact_mod_cast this
    linarith
  · rw [← mul_div_assoc, ← mul_div_assoc, div_lt_div_iff₀ hv hy]
    have := Nat.lt_div_mul_add (a := m * u * y) hden
    have hq : (m * u * y : ℚ) < (m * u * y / (v * x) : ℕ) * (v * x) + v * x := by
      exact_mod_cast this
    push_cast
    linarith

/-! ## The search for the shortest decimal -/

/-- The decimal logarithm of a power of two is not underestimated by much: the positive powers. -/
theorem ten_pow_le_two_pow : ∀ k < 1024, 10 ^ (k * 30103 / 100000) ≤ 10 * 2 ^ k := by
  decide +kernel

/-- The negative powers. -/
theorem two_pow_le_ten_pow : ∀ k < 1075, 2 ^ k ≤ 10 ^ ((k * 30103 + 99999) / 100000 + 1) := by
  decide +kernel

/-- One power of ten below the estimate lies below a power of two. -/
theorem ten_zpow_le_two_zpow {l : ℤ} (hlow : -1074 ≤ l) (hhigh : l ≤ 1023) :
    (10 : ℚ) ^ (l * 30103 / 100000 - 1) ≤ 2 ^ l := by
  rcases le_total 0 l with h | h
  · obtain ⟨k, rfl⟩ := Int.eq_ofNat_of_zero_le h
    have hk := ten_pow_le_two_pow k (by omega)
    have hkq : (10 : ℚ) ^ (k * 30103 / 100000) ≤ 10 * 2 ^ k := by exact_mod_cast hk
    rw [show (k : ℤ) * 30103 / 100000 = ((k * 30103 / 100000 : ℕ) : ℤ) by push_cast; rfl,
      zpow_sub_one₀ (by norm_num), zpow_natCast, zpow_natCast]
    linarith
  · obtain ⟨k, hk⟩ := Int.eq_ofNat_of_zero_le (show 0 ≤ -l by omega)
    obtain rfl : l = -(k : ℤ) := by omega
    have hk := two_pow_le_ten_pow k (by omega)
    have hkq : (2 : ℚ) ^ k ≤ 10 ^ ((k * 30103 + 99999) / 100000 + 1) := by exact_mod_cast hk
    have hexp : -(k : ℤ) * 30103 / 100000 - 1 = -(((k * 30103 + 99999) / 100000 + 1 : ℕ) : ℤ) := by
      push_cast; omega
    rw [hexp, zpow_neg, zpow_neg, zpow_natCast, zpow_natCast]
    exact inv_anti₀ (by positivity) hkq

/-- The power of ten from which the search starts is not above the number. -/
theorem leadingPower_le {m : ℕ} {e : ℤ} (hm : 0 < m) (h : Fits m e) :
    (10 : ℚ) ^ leadingPower m e ≤ m * 2 ^ e := by
  dsimp only [leadingPower]
  split_ifs with h1 h2
  · simpa using (orderDecimal_isLE _ _ _ _).1 h1
  · simpa using (orderDecimal_isLE _ _ _ _).1 h2
  · have hlog : (2 : ℚ) ^ m.log2 ≤ m := by exact_mod_cast Nat.log2_self_le hm.ne'
    have hlt : m.log2 < 53 := (Nat.log2_lt hm.ne').2 h.lt
    have hl := h.least
    have hg := h.greatest
    calc (10 : ℚ) ^ (((m.log2 : ℤ) + e) * 30103 / 100000 - 1) ≤ 2 ^ ((m.log2 : ℤ) + e) :=
          ten_zpow_le_two_zpow (by omega) (by omega)
      _ = 2 ^ m.log2 * 2 ^ e := by rw [zpow_add₀ (by norm_num), zpow_natCast]
      _ ≤ m * 2 ^ e := mul_le_mul_of_nonneg_right hlog (two_zpow_pos e).le

/-- On the grid of seventeen digits one of the two neighbours of a number rounds to it. -/
theorem rounds_of_fine {m : ℕ} {e p : ℤ} (hfits : Fits m e)
    (hp : (10 : ℚ) ^ 16 * 10 ^ p ≤ m * 2 ^ e) :
    Rounds m e ((floorAt m e p : ℚ) * 10 ^ p) ∨
      Rounds m e (((floorAt m e p + 1 : ℕ) : ℚ) * 10 ^ p) := by
  obtain ⟨hlow, hhigh⟩ := floorAt_bounds m e p
  have hpos := two_zpow_pos e
  have hm : (m : ℚ) + 1 ≤ 2 ^ 53 := by exact_mod_cast hfits.lt
  have hten := ten_zpow_pos p
  -- a step of the grid is smaller than the interval, also where its lower half is narrow
  have hgap : (10 : ℚ) ^ p < (lowGap m e + 1 / 2) * 2 ^ e := by
    unfold lowGap
    split_ifs with h
    · obtain ⟨rfl, -⟩ := h
      push_cast at hp
      nlinarith
    · nlinarith
  have hstep : ((floorAt m e p + 1 : ℕ) : ℚ) * 10 ^ p = floorAt m e p * 10 ^ p + 10 ^ p := by
    push_cast; ring
  rw [hstep] at hhigh ⊢
  generalize (floorAt m e p : ℚ) * 10 ^ p = x at *
  by_cases h : ((m : ℚ) - lowGap m e) * 2 ^ e < x
  · refine Or.inl ⟨h.le, by nlinarith, ?_⟩
    rintro (heq | heq)
    · exact absurd heq h.ne'
    · nlinarith
  · refine Or.inr ⟨?_, ?_, ?_⟩
    · have : 0 < lowGap m e := by unfold lowGap; split_ifs <;> norm_num
      nlinarith
    · nlinarith
    · have : 0 < lowGap m e := by unfold lowGap; split_ifs <;> norm_num
      rintro (heq | heq) <;> nlinarith

/-- A step of the search finds a decimal that rounds to the number, or goes on with a finer grid. -/
theorem shortestFrom_succ (m : ℕ) (e p : ℤ) (tries : ℕ) :
    (∃ a, shortestFrom m e p (tries + 1) = (a, p) ∧ roundsTo m e a p = true) ∨
      (shortestFrom m e p (tries + 1) = shortestFrom m e (p - 1) tries ∧
        ¬ roundsTo m e (floorAt m e p) p = true ∧ ¬ roundsTo m e (floorAt m e p + 1) p = true) := by
  dsimp only [shortestFrom]
  cases h1 : roundsTo m e (floorAt m e p) p <;> cases h2 : roundsTo m e (floorAt m e p + 1) p
  · exact Or.inr ⟨rfl, by simp, by simp⟩
  · exact Or.inl ⟨_, rfl, h2⟩
  · exact Or.inl ⟨_, rfl, h1⟩
  · refine Or.inl ?_
    split_ifs
    · exact ⟨_, rfl, h2⟩
    · exact ⟨_, rfl, h1⟩

/-- A search that meets a good grid within its tries ends with a decimal in the rounding
interval. -/
theorem rounds_shortestFrom {m : ℕ} {e : ℤ} (hm : 0 < m) (hfits : Fits m e) (p : ℤ) (tries : ℕ)
    (hp : (10 : ℚ) ^ 16 * 10 ^ (p - tries) ≤ m * 2 ^ e) :
    Rounds m e ((shortestFrom m e p (tries + 1)).1 * 10 ^ (shortestFrom m e p (tries + 1)).2) := by
  induction tries generalizing p with
  | zero =>
    rcases shortestFrom_succ m e p 0 with ⟨a, heq, ha⟩ | ⟨-, h1, h2⟩
    · rw [heq]
      exact (roundsTo_iff hm e a p).1 ha
    · rw [roundsTo_iff hm] at h1 h2
      exact ((rounds_of_fine hfits (by simpa using hp)).elim h1 h2).elim
  | succ tries ih =>
    rcases shortestFrom_succ m e p (tries + 1) with ⟨a, heq, ha⟩ | ⟨heq, -⟩
    · rw [heq]
      exact (roundsTo_iff hm e a p).1 ha
    · rw [heq]
      refine ih (p - 1) ?_
      rwa [show p - 1 - (tries : ℤ) = p - ((tries + 1 : ℕ) : ℤ) by push_cast; ring]

/-- **The shortest decimal of a double lies in its rounding interval.** -/
theorem rounds_shortest {m : ℕ} {e : ℤ} (hm : 0 < m) (hfits : Fits m e) :
    Rounds m e ((shortest m e).1 * 10 ^ (shortest m e).2) := by
  refine rounds_shortestFrom hm hfits _ 16 ?_
  calc (10 : ℚ) ^ 16 * 10 ^ (leadingPower m e - (16 : ℕ)) = 10 ^ leadingPower m e := by
        rw [zpow_sub₀ (by norm_num), zpow_natCast]
        field_simp
    _ ≤ m * 2 ^ e := leadingPower_le hm hfits

/-! ## Reading a decimal -/

/-- Numbers in a rounding interval are within the range of exponents that is looked at. -/
theorem Rounds.range {m : ℕ} {e : ℤ} {x : ℚ} (hm : 0 < m) (hfits : Fits m e) (hx : Rounds m e x) :
    (10 : ℚ) ^ (-324 : ℤ) ≤ x ∧ x < 10 ^ (309 : ℤ) := by
  have hm1 : (1 : ℚ) ≤ m := by exact_mod_cast hm
  have hm2 : (m : ℚ) + 1 ≤ 2 ^ 53 := by exact_mod_cast hfits.lt
  have hgap := lowGap_le m e
  have hleast : (2 : ℚ) ^ (-1074 : ℤ) ≤ 2 ^ e := zpow_le_zpow_right₀ (by norm_num) hfits.least
  have hgreatest : (2 : ℚ) ^ e ≤ 2 ^ (971 : ℤ) := zpow_le_zpow_right₀ (by norm_num) hfits.greatest
  have hpos := two_zpow_pos e
  have hsmall : (2 * 2 ^ 1074 : ℚ) ≤ 10 ^ 324 := by
    exact_mod_cast (show 2 * 2 ^ 1074 ≤ 10 ^ 324 by decide +kernel)
  have hlarge : (2 ^ 53 * 2 ^ 971 : ℚ) < 10 ^ 309 := by
    exact_mod_cast (show 2 ^ 53 * 2 ^ 971 < 10 ^ 309 by decide +kernel)
  constructor
  · calc (10 : ℚ) ^ (-324 : ℤ) = (10 ^ 324)⁻¹ := by rw [zpow_neg]; rfl
      _ ≤ (2 * 2 ^ 1074)⁻¹ := inv_anti₀ (by positivity) hsmall
      _ = 1 / 2 * 2 ^ (-1074 : ℤ) := by rw [mul_inv, zpow_neg, one_div]; rfl
      _ ≤ 1 / 2 * 2 ^ e := by linarith
      _ ≤ (m - lowGap m e) * 2 ^ e := mul_le_mul_of_nonneg_right (by linarith) hpos.le
      _ ≤ x := hx.low
  · calc x ≤ (m + 1 / 2) * 2 ^ e := hx.high
      _ ≤ 2 ^ 53 * 2 ^ e := mul_le_mul_of_nonneg_right (by linarith) hpos.le
      _ ≤ 2 ^ 53 * 2 ^ (971 : ℤ) := by linarith
      _ < 10 ^ (309 : ℤ) := hlarge

/-- A number against the powers of ten that the length of its numeral gives. -/
theorem length_toDigits_bounds {n : ℕ} (hn : 0 < n) :
    (10 : ℚ) ^ (((Nat.toDigits 10 n).length : ℤ) - 1) ≤ n ∧
      (n : ℚ) < 10 ^ ((Nat.toDigits 10 n).length : ℤ) := by
  obtain ⟨k, hk⟩ :=
    Nat.exists_eq_add_one_of_ne_zero (Nat.length_toDigits_pos (b := 10) (n := n)).ne'
  have hhigh : n < 10 ^ (k + 1) := (Nat.length_toDigits_le_iff (by norm_num) (by omega)).1 hk.le
  have hlow : 10 ^ k ≤ n := by
    rcases Nat.eq_zero_or_pos k with rfl | hpos
    · rw [pow_zero]; exact hn
    · by_contra hlt
      have := (Nat.length_toDigits_le_iff (b := 10) (by norm_num) hpos).2 (not_le.1 hlt)
      omega
  rw [hk]
  constructor
  · rw [Nat.cast_add_one, add_sub_cancel_right, zpow_natCast]
    exact_mod_cast hlow
  · rw [zpow_natCast]
    exact_mod_cast hhigh

/-- **A decimal in the rounding interval of a double is read as that double.** -/
theorem ofDecimal_eq_finite {m : ℕ} {e : ℤ} (hm : 0 < m) (hfits : Fits m e) {digits : ℕ} {p : ℤ}
    (hx : Rounds m e ((digits : ℚ) * 10 ^ p)) (s : Bool) :
    ofDecimal s digits p = .finite s m e hfits := by
  obtain ⟨hlow, hhigh⟩ := hx.range hm hfits
  have hdigits : 0 < digits := by
    rcases Nat.eq_zero_or_pos digits with rfl | h
    · have := ten_zpow_pos (-324)
      simp only [Nat.cast_zero, zero_mul] at hlow
      linarith
    · exact h
  obtain ⟨hlen1, hlen2⟩ := length_toDigits_bounds hdigits
  set len : ℤ := ((Nat.toDigits 10 digits).length : ℤ) with hlen
  have h1 : p + len < 310 := by
    have hlt : (10 : ℚ) ^ (len - 1 + p) < 10 ^ (309 : ℤ) := by
      rw [zpow_add₀ (by norm_num)]
      exact (mul_le_mul_of_nonneg_right hlen1 (ten_zpow_pos p).le).trans_lt hhigh
    have := (zpow_lt_zpow_iff_right₀ (by norm_num : (1 : ℚ) < 10)).1 hlt
    omega
  have h2 : -324 < p + len := by
    have hlt : (10 : ℚ) ^ (-324 : ℤ) < 10 ^ (len + p) := by
      rw [zpow_add₀ (by norm_num)]
      exact hlow.trans_lt (mul_lt_mul_of_pos_right hlen2 (ten_zpow_pos p))
    have := (zpow_lt_zpow_iff_right₀ (by norm_num : (1 : ℚ) < 10)).1 hlt
    omega
  simp only [ofDecimal, Nat.pow_eq, ← hlen, if_neg hdigits.ne',
    if_neg (show ¬ p + len > 400 by omega), if_neg (show ¬ p + len < -400 by omega)]
  split_ifs with hp
  · obtain ⟨k, rfl⟩ := Int.eq_ofNat_of_zero_le hp
    refine ofRatio_eq_finite (by positivity) Nat.one_pos hfits ?_ s
    simpa using hx
  · obtain ⟨k, hk⟩ := Int.eq_ofNat_of_zero_le (show 0 ≤ -p by omega)
    obtain rfl : p = -(k : ℤ) := by omega
    refine ofRatio_eq_finite hdigits (by positivity) hfits ?_ s
    rw [neg_neg, Int.toNat_natCast, Nat.cast_pow, Nat.cast_ofNat]
    rwa [zpow_neg, zpow_natCast, ← div_eq_mul_inv] at hx

end SourceSurvey.Double
