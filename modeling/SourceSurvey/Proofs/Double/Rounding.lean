import Mathlib
import SourceSurvey.Double.Basic

/-!
# Rounding of rationals to doubles

`Double.ofRatio` as a statement about rational numbers.  A rational lies in the rounding interval of
a significand `m` and an exponent `e` (`Rounds m e x`) when it is at most half a unit in the last
place away from `m * 2 ^ e`; below a power of two the unit is half as large.  The ends of the
interval belong to it when `m` is even.

* `exponentFor_spec`: the exponent that `ofRatio` works with;
* `roundQuotient_eq`: the nearest integer, the even one on a tie;
* `ofRatio_eq_finite`: a rational in the rounding interval of a double rounds to that double;
* `ofRatio_isFinite`: a quotient that is not too large rounds to a finite double.
-/

namespace SourceSurvey

theorem Fits.lt {m : ℕ} {e : ℤ} (h : Fits m e) : m < 2 ^ 53 := h.1
theorem Fits.least {m : ℕ} {e : ℤ} (h : Fits m e) : -1074 ≤ e := h.2.1
theorem Fits.greatest {m : ℕ} {e : ℤ} (h : Fits m e) : e ≤ 971 := h.2.2.1
theorem Fits.normal {m : ℕ} {e : ℤ} (h : Fits m e) : 2 ^ 52 ≤ m ∨ e = -1074 := h.2.2.2

namespace Double

/-! ## Quotients -/

theorem scaled_den_pos {n d : ℕ} (hd : 0 < d) (e : ℤ) : 0 < (scaled n d e).2 := by
  unfold scaled
  split_ifs
  · exact Nat.mul_pos hd (Nat.two_pow_pos _)
  · exact hd

theorem scaled_div (n d : ℕ) (e : ℤ) :
    ((scaled n d e).1 : ℚ) / (scaled n d e).2 = (n : ℚ) / d / 2 ^ e := by
  unfold scaled
  split_ifs with h
  · obtain ⟨k, rfl⟩ := Int.eq_ofNat_of_zero_le h
    simp only [Int.toNat_natCast, Nat.cast_mul, Nat.pow_eq, Nat.cast_pow, Nat.cast_ofNat,
      zpow_natCast]
    rw [div_div]
  · obtain ⟨k, hk⟩ := Int.eq_ofNat_of_zero_le (show 0 ≤ -e by omega)
    obtain rfl : e = -(k : ℤ) := by omega
    simp only [neg_neg, Int.toNat_natCast, Nat.cast_mul, Nat.pow_eq, Nat.cast_pow,
      Nat.cast_ofNat, zpow_neg, zpow_natCast]
    rw [div_inv_eq_mul, mul_div_right_comm]

/-- The nearest integer to a quotient, the even one when two are equally near. -/
theorem roundQuotient_eq {n d k : ℕ} (hd : 0 < d) (hlow : (k : ℚ) - 1 / 2 ≤ (n : ℚ) / d)
    (hhigh : (n : ℚ) / d ≤ (k : ℚ) + 1 / 2)
    (heven : (n : ℚ) / d = (k : ℚ) - 1 / 2 ∨ (n : ℚ) / d = (k : ℚ) + 1 / 2 → k % 2 = 0) :
    roundQuotient n d = k := by
  have hdq : (0 : ℚ) < d := by exact_mod_cast hd
  rw [le_div_iff₀ hdq] at hlow
  rw [div_le_iff₀ hdq] at hhigh
  rw [div_eq_iff hdq.ne', div_eq_iff hdq.ne'] at heven
  have hn : (n : ℚ) = d * (n / d : ℕ) + (n % d : ℕ) := by exact_mod_cast (Nat.div_add_mod n d).symm
  have hr : n % d < d := Nat.mod_lt _ hd
  unfold roundQuotient
  generalize n / d = q at *
  generalize n % d = r at *
  have hrq : (r : ℚ) < d := by exact_mod_cast hr
  -- only the two neighbours of the quotient are near enough
  have hk1 : k < q + 2 := by
    have : (k : ℚ) * d < (q + 2) * d := by nlinarith
    exact_mod_cast lt_of_mul_lt_mul_right this hdq.le
  have hk2 : q < k + 1 := by
    have : (q : ℚ) * d < (k + 1) * d := by nlinarith [(Nat.cast_nonneg r : (0 : ℚ) ≤ r)]
    exact_mod_cast lt_of_mul_lt_mul_right this hdq.le
  obtain rfl | rfl : k = q ∨ k = q + 1 := by omega
  · have h2 : 2 * r ≤ d := by
      have : (2 : ℚ) * r ≤ d := by linarith
      exact_mod_cast this
    rcases h2.lt_or_eq with h | h
    · simp [h]
    · have hk : k % 2 = 0 := heven (Or.inr (by rw [hn, ← h]; push_cast; ring))
      simp [← h, hk]
  · have h2 : d ≤ 2 * r := by
      have : (d : ℚ) ≤ 2 * r := by push_cast at hlow; linarith
      exact_mod_cast this
    rcases h2.lt_or_eq with h | h
    · simp [h, h.not_gt]
    · have hk : (q + 1) % 2 = 0 := heven (Or.inl (by rw [hn, h]; push_cast; ring))
      have hq : q % 2 ≠ 0 := by omega
      simp [h, hq]

/-! ## The exponent -/

theorem two_zpow_pos (e : ℤ) : (0 : ℚ) < 2 ^ e := zpow_pos (by norm_num) e

theorem two_zpow_succ (e : ℤ) : (2 : ℚ) ^ (e + 1) = 2 * 2 ^ e := by
  rw [zpow_add_one₀ (by norm_num)]; ring

/-- A quotient against the powers of two that the lengths of its parts suggest. -/
theorem div_bounds {n d : ℕ} (hn : 0 < n) (hd : 0 < d) :
    (2 : ℚ) ^ 52 * 2 ^ ((n.log2 : ℤ) - d.log2 - 53) < (n : ℚ) / d ∧
      (n : ℚ) / d < (2 : ℚ) ^ 54 * 2 ^ ((n.log2 : ℤ) - d.log2 - 53) := by
  have hn1 : (2 : ℚ) ^ n.log2 ≤ n := by exact_mod_cast Nat.log2_self_le hn.ne'
  have hn2 : (n : ℚ) < 2 ^ (n.log2 + 1) := by exact_mod_cast Nat.lt_log2_self
  have hd1 : (2 : ℚ) ^ d.log2 ≤ d := by exact_mod_cast Nat.log2_self_le hd.ne'
  have hd2 : (d : ℚ) < 2 ^ (d.log2 + 1) := by exact_mod_cast Nat.lt_log2_self
  have hdq : (0 : ℚ) < d := by exact_mod_cast hd
  have hsplit : (2 : ℚ) ^ ((n.log2 : ℤ) - d.log2 - 53) = 2 ^ n.log2 / 2 ^ d.log2 / 2 ^ 53 := by
    rw [zpow_sub₀ (by norm_num), zpow_sub₀ (by norm_num), zpow_natCast, zpow_natCast]
    norm_num
  have hL : (0 : ℚ) < 2 ^ d.log2 := by positivity
  have hN : (0 : ℚ) < 2 ^ n.log2 := by positivity
  rw [hsplit]
  rw [pow_succ] at hn2 hd2
  constructor
  · rw [lt_div_iff₀ hdq]
    calc (2 : ℚ) ^ 52 * (2 ^ n.log2 / 2 ^ d.log2 / 2 ^ 53) * d
        = 2 ^ n.log2 * (d / (2 ^ d.log2 * 2)) := by field_simp
      _ < 2 ^ n.log2 * 1 := by
          apply mul_lt_mul_of_pos_left _ hN
          rw [div_lt_one (by positivity)]
          exact hd2
      _ ≤ n := by rw [mul_one]; exact hn1
  · rw [div_lt_iff₀ hdq]
    calc (n : ℚ) < 2 ^ n.log2 * 2 * 1 := by rw [mul_one]; exact hn2
      _ ≤ 2 ^ n.log2 * 2 * (d / 2 ^ d.log2) := by
          apply mul_le_mul_of_nonneg_left _ (by positivity)
          rw [le_div_iff₀ hL, one_mul]
          exact hd1
      _ = (2 : ℚ) ^ 54 * (2 ^ n.log2 / 2 ^ d.log2 / 2 ^ 53) * d := by field_simp

/-- The exponent of a quotient: it has 53 bits before its point, or fewer at the least exponent. -/
structure Exponent (x : ℚ) (e : ℤ) : Prop where
  least : -1074 ≤ e
  below : x < 2 ^ 53 * 2 ^ e
  above : e = -1074 ∨ 2 ^ 52 * 2 ^ e ≤ x

/-- There is only one exponent for a number. -/
theorem Exponent.unique {x : ℚ} {e f : ℤ} (he : Exponent x e) (hf : Exponent x f) : e = f := by
  have key : ∀ {e f : ℤ}, Exponent x e → Exponent x f → ¬ e < f := by
    intro e f he hf h
    rcases hf.above with h2 | h2
    · have := he.least; omega
    · have hle : (2 : ℚ) ^ (e + 1) ≤ 2 ^ f := zpow_le_zpow_right₀ (by norm_num) (by omega)
      rw [two_zpow_succ] at hle
      have := he.below
      nlinarith
  have h1 := key he hf
  have h2 := key hf he
  omega

theorem exponentFor_spec {n d : ℕ} (hn : 0 < n) (hd : 0 < d) :
    Exponent ((n : ℚ) / d) (exponentFor n d) := by
  obtain ⟨hlow, hhigh⟩ := div_bounds hn hd
  set g : ℤ := (n.log2 : ℤ) - d.log2 - 53 with hg
  -- the guess is one too low when the quotient has a bit more
  have hquot : (scaled n d g).1 / (scaled n d g).2 < 2 ^ 53 ↔ (n : ℚ) / d < 2 ^ 53 * 2 ^ g := by
    have hden := scaled_den_pos (n := n) hd g
    have hden' : (0 : ℚ) < (scaled n d g).2 := by exact_mod_cast hden
    rw [Nat.div_lt_iff_lt_mul hden, ← div_lt_iff₀ (two_zpow_pos g), ← scaled_div,
      div_lt_iff₀ hden']
    exact_mod_cast Iff.rfl
  obtain ⟨e, he, hbelow, habove⟩ : ∃ e : ℤ, exponentFor n d = max e (-1074) ∧
      (n : ℚ) / d < 2 ^ 53 * 2 ^ e ∧ 2 ^ 52 * 2 ^ e ≤ (n : ℚ) / d := by
    by_cases h : (scaled n d g).1 / (scaled n d g).2 < 2 ^ 53
    · refine ⟨g, ?_, hquot.1 h, hlow.le⟩
      simp only [exponentFor, Nat.pow_eq, ← hg, if_pos h]
    · refine ⟨g + 1, ?_, ?_, ?_⟩
      · simp only [exponentFor, Nat.pow_eq, ← hg, if_neg h]
      · rw [two_zpow_succ]; linarith
      · have := not_lt.1 (mt hquot.2 h)
        rw [two_zpow_succ]; linarith
  rw [he]
  refine ⟨le_max_right _ _, hbelow.trans_le ?_, ?_⟩
  · exact mul_le_mul_of_nonneg_left (zpow_le_zpow_right₀ (by norm_num) (le_max_left _ _))
      (by norm_num)
  · rcases le_total e (-1074) with h | h
    · exact Or.inl (max_eq_right h)
    · exact Or.inr (by rw [max_eq_left h]; exact habove)

/-! ## The rounding interval -/

/-- How far below a significand its rounding interval reaches, in units in the last place. -/
def lowGap (m : ℕ) (e : ℤ) : ℚ := if m = 2 ^ 52 ∧ e ≠ -1074 then 1 / 4 else 1 / 2

/-- A rational lies in the rounding interval of a significand and an exponent. -/
structure Rounds (m : ℕ) (e : ℤ) (x : ℚ) : Prop where
  low : ((m : ℚ) - lowGap m e) * 2 ^ e ≤ x
  high : x ≤ ((m : ℚ) + 1 / 2) * 2 ^ e
  even : x = ((m : ℚ) - lowGap m e) * 2 ^ e ∨ x = ((m : ℚ) + 1 / 2) * 2 ^ e → m % 2 = 0

theorem lowGap_le (m : ℕ) (e : ℤ) : lowGap m e ≤ 1 / 2 := by
  unfold lowGap
  split_ifs <;> norm_num

theorem ofRatio_of {n d : ℕ} (hn : 0 < n) {e : ℤ} (he : exponentFor n d = e) {k : ℕ}
    (hk : roundQuotient (scaled n d e).1 (scaled n d e).2 = k) (s : Bool) :
    ofRatio s n d = if k = 2 ^ 53 then assemble s (2 ^ 52) (e + 1) else assemble s k e := by
  simp only [ofRatio, if_neg hn.ne', he, hk, Nat.pow_eq]

theorem assemble_of_fits {m : ℕ} {e : ℤ} (h : Fits m e) (s : Bool) :
    assemble s m e = .finite s m e h := dif_pos h

/-- Below a power of two the quotient has the exponent before it, and rounds up to the power. -/
theorem ofRatio_eq_finite_below {n d : ℕ} {e : ℤ} (hn : 0 < n) (hd : 0 < d)
    (h : Fits (2 ^ 52) e) (he : e ≠ -1074)
    (hlow : ((2 : ℚ) ^ 52 - 1 / 4) * 2 ^ e ≤ (n : ℚ) / d) (hhigh : (n : ℚ) / d < 2 ^ 52 * 2 ^ e)
    (s : Bool) : ofRatio s n d = .finite s (2 ^ 52) e h := by
  have hpow : (2 : ℚ) ^ e = 2 * 2 ^ (e - 1) := by
    rw [← two_zpow_succ, sub_add_cancel]
  have hpos := two_zpow_pos (e - 1)
  have hexp : exponentFor n d = e - 1 := by
    refine (exponentFor_spec hn hd).unique ⟨?_, ?_, Or.inr ?_⟩
    · have := h.least; omega
    · rw [hpow] at hhigh; linarith
    · rw [hpow] at hlow; nlinarith
  have hround : roundQuotient (scaled n d (e - 1)).1 (scaled n d (e - 1)).2 = 2 ^ 53 := by
    refine roundQuotient_eq (scaled_den_pos hd _) ?_ ?_ fun _ => by norm_num
    · rw [scaled_div, le_div_iff₀ hpos]
      rw [hpow] at hlow
      push_cast
      linarith
    · rw [scaled_div, div_le_iff₀ hpos]
      rw [hpow] at hhigh
      push_cast
      linarith
  rw [ofRatio_of hn hexp hround, if_pos rfl]
  have hback : e - 1 + 1 = e := by omega
  rw [hback]
  exact assemble_of_fits h s

/-- **A rational in the rounding interval of a double rounds to that double.** -/
theorem ofRatio_eq_finite {n d m : ℕ} {e : ℤ} (hn : 0 < n) (hd : 0 < d) (h : Fits m e)
    (hx : Rounds m e ((n : ℚ) / d)) (s : Bool) : ofRatio s n d = .finite s m e h := by
  have hpos := two_zpow_pos e
  have hm : (m : ℚ) + 1 ≤ 2 ^ 53 := by exact_mod_cast h.lt
  by_cases hcase : m = 2 ^ 52 ∧ e ≠ -1074 ∧ (n : ℚ) / d < 2 ^ 52 * 2 ^ e
  · obtain ⟨rfl, he, hlt⟩ := hcase
    refine ofRatio_eq_finite_below hn hd h he ?_ hlt s
    have hlow := hx.low
    rw [lowGap, if_pos ⟨rfl, he⟩] at hlow
    exact_mod_cast hlow
  · have hexp : exponentFor n d = e := by
      refine (exponentFor_spec hn hd).unique ⟨h.least, ?_, ?_⟩
      · have := hx.high
        nlinarith
      · rcases h.normal with hm52 | he
        · by_cases he : e = -1074
          · exact Or.inl he
          · refine Or.inr ?_
            rcases hm52.eq_or_lt with heq | hlt
            · exact not_lt.1 fun hlt => hcase ⟨heq.symm, he, hlt⟩
            · have hge : (2 : ℚ) ^ 52 + 1 ≤ m := by exact_mod_cast hlt
              have := hx.low
              have := lowGap_le m e
              nlinarith
        · exact Or.inl he
    have hround : roundQuotient (scaled n d e).1 (scaled n d e).2 = m := by
      refine roundQuotient_eq (scaled_den_pos hd _) ?_ ?_ ?_
      · rw [scaled_div, le_div_iff₀ hpos]
        have := hx.low
        have := lowGap_le m e
        nlinarith
      · rw [scaled_div, div_le_iff₀ hpos]
        exact hx.high
      · rw [scaled_div, div_eq_iff hpos.ne', div_eq_iff hpos.ne']
        rintro (heq | heq)
        · refine hx.even (Or.inl (le_antisymm ?_ hx.low))
          have := lowGap_le m e
          nlinarith
        · exact hx.even (Or.inr heq)
    rw [ofRatio_of hn hexp hround, if_neg h.lt.ne]
    exact assemble_of_fits h s

/-! ## Finite results -/

theorem roundQuotient_bounds (n d : ℕ) :
    n / d ≤ roundQuotient n d ∧ roundQuotient n d ≤ n / d + 1 := by
  unfold roundQuotient
  dsimp only
  split_ifs <;> omega

/-- **A quotient that is not too large rounds to a finite double.** -/
theorem ofRatio_isFinite {n d : ℕ} (hd : 0 < d) (h : (n : ℚ) / d < 2 ^ (1023 : ℤ)) (s : Bool) :
    ∃ m e hfits, ofRatio s n d = .finite s m e hfits := by
  rcases Nat.eq_zero_or_pos n with rfl | hn
  · exact ⟨0, -1074, by decide, rfl⟩
  have hexp := exponentFor_spec hn hd
  set e := exponentFor n d with he
  set k := roundQuotient (scaled n d e).1 (scaled n d e).2 with hk
  have hpos := two_zpow_pos e
  have hden : 0 < (scaled n d e).2 := scaled_den_pos hd e
  have hdenq : (0 : ℚ) < (scaled n d e).2 := by exact_mod_cast hden
  have hbounds := roundQuotient_bounds (scaled n d e).1 (scaled n d e).2
  have hbelow : (scaled n d e).1 / (scaled n d e).2 < 2 ^ 53 := by
    rw [Nat.div_lt_iff_lt_mul hden]
    have := hexp.below
    rw [← div_lt_iff₀ hpos, ← scaled_div, div_lt_iff₀ hdenq] at this
    exact_mod_cast this
  have hgreatest : e ≤ 970 := by
    rcases hexp.above with hleast | habove
    · omega
    · have hlt : (2 : ℚ) ^ ((52 : ℤ) + e) < 2 ^ (1023 : ℤ) := by
        rw [zpow_add₀ (by norm_num)]
        exact lt_of_le_of_lt (by exact_mod_cast habove) h
      have := (zpow_lt_zpow_iff_right₀ (by norm_num : (1 : ℚ) < 2)).1 hlt
      omega
  have hnormal : 2 ^ 52 ≤ k ∨ e = -1074 := by
    rcases hexp.above with hleast | habove
    · exact Or.inr hleast
    · refine Or.inl (le_trans ?_ hbounds.1)
      rw [Nat.le_div_iff_mul_le hden]
      rw [← le_div_iff₀ hpos, ← scaled_div, le_div_iff₀ hdenq] at habove
      exact_mod_cast habove
  have hleast := hexp.least
  rw [ofRatio_of hn he.symm hk.symm]
  by_cases htop : k = 2 ^ 53
  · have hfits : Fits (2 ^ 52) (e + 1) := ⟨by norm_num, by omega, by omega, Or.inl le_rfl⟩
    exact ⟨_, _, hfits, by rw [if_pos htop, assemble_of_fits hfits]⟩
  · have hbelow : k < 2 ^ 53 := by omega
    have hfits : Fits k e := ⟨hbelow, hleast, by omega, hnormal⟩
    exact ⟨_, _, hfits, by rw [if_neg htop, assemble_of_fits hfits]⟩

end Double

end SourceSurvey
