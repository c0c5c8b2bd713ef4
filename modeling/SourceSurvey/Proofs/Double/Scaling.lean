import SourceSurvey.Proofs.Double.Order

/-!
# Doubles times 1024

Multiplying a double by 1024 is exact as long as the product is below 2 ^ 1024, and gives infinity
from there on (`mul_kilo_of_lt`, `mul_kilo_of_le`).
-/

namespace SourceSurvey.Double

/-! ## Exact results and overflow -/

/-- A number with at most 53 bits that is not too large has a canonical form. -/
theorem exists_fits {k : ℕ} {f : ℤ} (hk : k < 2 ^ 53) (hf : -1074 ≤ f)
    (hlt : (k : ℚ) * 2 ^ f < 2 ^ (1024 : ℤ)) :
    ∃ m e, Fits m e ∧ (m : ℚ) * 2 ^ e = k * 2 ^ f := by
  -- a number with too few bits is doubled until it has 53 of them or the least exponent
  obtain ⟨j, hj⟩ := Int.eq_ofNat_of_zero_le (by omega : 0 ≤ f + 1074)
  induction j generalizing k f with
  | zero =>
    obtain rfl : f = -1074 := by omega
    exact ⟨k, -1074, ⟨hk, le_rfl, by omega, .inr rfl⟩, rfl⟩
  | succ j ih =>
    by_cases hbits : 2 ^ 52 ≤ k
    · refine ⟨k, f, ⟨hk, hf, ?_, .inl hbits⟩, rfl⟩
      have hpow : (2 : ℚ) ^ ((52 : ℤ) + f) < 2 ^ (1024 : ℤ) := by
        refine lt_of_le_of_lt ?_ hlt
        rw [zpow_add₀ (by norm_num)]
        exact mul_le_mul_of_nonneg_right (by exact_mod_cast hbits) (two_zpow_pos f).le
      have := (zpow_lt_zpow_iff_right₀ (by norm_num : (1 : ℚ) < 2)).1 hpow
      omega
    · have hdouble : ((2 * k : ℕ) : ℚ) * 2 ^ (f - 1) = k * 2 ^ f := by
        have hpow : (2 : ℚ) ^ f = 2 * 2 ^ (f - 1) := by rw [← two_zpow_succ, sub_add_cancel]
        rw [hpow]
        push_cast
        ring
      obtain ⟨m, e, hfits, hvalue⟩ :=
        ih (k := 2 * k) (f := f - 1) (by omega) (by omega) (hdouble ▸ hlt) (by omega)
      exact ⟨m, e, hfits, hvalue.trans hdouble⟩

/-- A quotient that is the value of a double rounds to it. -/
theorem ofRatio_of_value {n d m : ℕ} {e : ℤ} (hd : 0 < d) (h : Fits m e) (hm : 0 < m)
    (hvalue : (n : ℚ) / d = m * 2 ^ e) (s : Bool) : ofRatio s n d = .finite s m e h := by
  have hpos := two_zpow_pos e
  have hgap : 0 < lowGap m e := by
    unfold lowGap
    split_ifs <;> norm_num
  have hn : 0 < n := by
    rcases Nat.eq_zero_or_pos n with rfl | hn
    · have hmq : (0 : ℚ) < m := by exact_mod_cast hm
      have : (0 : ℚ) < m * 2 ^ e := by positivity
      simp [← hvalue] at this
    · exact hn
  refine ofRatio_eq_finite hn hd h ⟨?_, ?_, ?_⟩ s
  · rw [hvalue]
    nlinarith
  · rw [hvalue]
    nlinarith
  · rw [hvalue]
    rintro (heq | heq)
    · nlinarith
    · nlinarith

/-- A quotient of at least 2 ^ 1024 rounds to infinity. -/
theorem ofRatio_of_le {n d : ℕ} (hd : 0 < d) (h : 2 ^ (1024 : ℤ) ≤ (n : ℚ) / d) (s : Bool) :
    ofRatio s n d = .infinite s := by
  have hn : 0 < n := by
    rcases Nat.eq_zero_or_pos n with rfl | hn
    · rw [Nat.cast_zero, zero_div] at h
      exact absurd (two_zpow_pos 1024) h.not_gt
    · exact hn
  have hexp := exponentFor_spec hn hd
  have hlarge : 971 < exponentFor n d := by
    have hpow : (2 : ℚ) ^ (1024 : ℤ) < 2 ^ ((53 : ℤ) + exponentFor n d) := by
      rw [zpow_add₀ (by norm_num)]
      exact lt_of_le_of_lt h (by exact_mod_cast hexp.below)
    have := (zpow_lt_zpow_iff_right₀ (by norm_num : (1 : ℚ) < 2)).1 hpow
    omega
  have hassemble : ∀ m e, 971 < e → assemble s m e = .infinite s := by
    intro m e he
    refine dif_neg fun hfits => ?_
    have := hfits.greatest
    omega
  rw [ofRatio_of hn rfl rfl]
  split_ifs
  · exact hassemble _ _ (by omega)
  · exact hassemble _ _ hlarge

/-! ## Times 1024 -/

/-- The double 1024. -/
def kilo : Double := .finite false (2 ^ 52) (-42) (by decide)

@[simp] theorem ofInt?_kilo : ofInt? 1024 = some kilo := by decide +kernel

theorem mul_kilo_finite (s : Bool) (m : ℕ) (e : ℤ) (h : Fits m e) :
    ∃ n d : ℕ, 0 < d ∧ (n : ℚ) / d = m * 2 ^ e * 1024 ∧
      (finite s m e h).mul kilo = ofRatio s n d := by
  refine ⟨(scaled (m * 2 ^ 52) 1 (-(e + -42))).1, (scaled (m * 2 ^ 52) 1 (-(e + -42))).2,
    scaled_den_pos Nat.one_pos _, ?_, ?_⟩
  · rw [scaled_div, zpow_neg, div_inv_eq_mul, zpow_add₀ (by norm_num)]
    push_cast
    norm_num
    ring
  · simp only [mul, kilo, ofScaled, Bool.bne_false]

/-- A product below 2 ^ 1024 is exact. -/
theorem mul_kilo_of_lt {s : Bool} {m : ℕ} {e : ℤ} (h : Fits m e) (hm : 0 < m)
    (hlt : (m : ℚ) * 2 ^ e * 1024 < 2 ^ (1024 : ℤ)) :
    ∃ (m' : ℕ) (e' : ℤ) (h' : Fits m' e'), 0 < m' ∧ (m' : ℚ) * 2 ^ e' = m * 2 ^ e * 1024 ∧
      (finite s m e h).mul kilo = finite s m' e' h' := by
  obtain ⟨n, d, hd, hvalue, hmul⟩ := mul_kilo_finite s m e h
  have hshift : (m : ℚ) * 2 ^ (e + 10) = m * 2 ^ e * 1024 := by
    rw [zpow_add₀ (by norm_num)]
    norm_num
    ring
  obtain ⟨m', e', hfits, hexact⟩ := exists_fits h.lt (by have := h.least; omega) (hshift ▸ hlt)
  have hm' : 0 < m' := by
    rcases Nat.eq_zero_or_pos m' with rfl | hm'
    · have hmq : (0 : ℚ) < m := by exact_mod_cast hm
      have : (0 : ℚ) < m * 2 ^ (e + 10) := by positivity
      simp [← hexact] at this
    · exact hm'
  refine ⟨m', e', hfits, hm', hexact.trans hshift, ?_⟩
  rw [hmul]
  exact ofRatio_of_value hd hfits hm' (hvalue.trans (hexact.trans hshift).symm) s

/-- A product from 2 ^ 1024 on is infinite. -/
theorem mul_kilo_of_le {s : Bool} {m : ℕ} {e : ℤ} (h : Fits m e)
    (hle : 2 ^ (1024 : ℤ) ≤ (m : ℚ) * 2 ^ e * 1024) : (finite s m e h).mul kilo = .infinite s := by
  obtain ⟨n, d, hd, hvalue, hmul⟩ := mul_kilo_finite s m e h
  rw [hmul]
  exact ofRatio_of_le hd (hvalue ▸ hle) s

@[simp] theorem mul_kilo_infinite (s : Bool) : (infinite s).mul kilo = .infinite s := by
  cases s <;> rfl

/-- A double above zero times 1024 and once more: finite below 2 ^ 1004, and infinite from there
on. -/
theorem mul_kilo_twice {m : ℕ} {e : ℤ} (h : Fits m e) (hm : 0 < m) :
    ((m : ℚ) * 2 ^ e < 2 ^ (1004 : ℤ) →
      ∃ m' e' h', ((finite false m e h).mul kilo).mul kilo = finite false m' e' h') ∧
    (2 ^ (1004 : ℤ) ≤ (m : ℚ) * 2 ^ e →
      ((finite false m e h).mul kilo).mul kilo = .infinite false) := by
  have hpow : (2 : ℚ) ^ (1024 : ℤ) = 2 ^ (1004 : ℤ) * 1024 * 1024 := by
    rw [show (1024 : ℤ) = 1004 + 20 by norm_num, zpow_add₀ (by norm_num), mul_assoc]
    norm_num
  have hpos := two_zpow_pos 1004
  generalize (2 : ℚ) ^ (1004 : ℤ) = bound at hpow hpos ⊢
  by_cases hlt : (m : ℚ) * 2 ^ e * 1024 < 2 ^ (1024 : ℤ)
  · obtain ⟨m', e', h', hm', hvalue, hmul⟩ := mul_kilo_of_lt (s := false) h hm hlt
    rw [hmul]
    constructor
    · intro hsmall
      have hagain : (m' : ℚ) * 2 ^ e' * 1024 < 2 ^ (1024 : ℤ) := by
        rw [hvalue, hpow]
        linarith
      obtain ⟨m'', e'', h'', -, -, hmul'⟩ := mul_kilo_of_lt (s := false) h' hm' hagain
      exact ⟨m'', e'', h'', hmul'⟩
    · intro hlarge
      refine mul_kilo_of_le h' ?_
      rw [hvalue, hpow]
      linarith
  · rw [mul_kilo_of_le h (not_lt.1 hlt), mul_kilo_infinite]
    refine ⟨fun hsmall => absurd ?_ hlt, fun _ => rfl⟩
    rw [hpow]
    linarith only [hsmall, hpos]

end SourceSurvey.Double
