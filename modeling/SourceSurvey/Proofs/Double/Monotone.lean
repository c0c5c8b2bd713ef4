import SourceSurvey.Proofs.Double.Order

/-!
# Rounding keeps the order

A greater quotient never rounds to a lesser double (`ofRatio_mono`).  The argument goes by the value
that a quotient is rounded to before the range of exponents is looked at, `rounded`: a greater
quotient has no lesser exponent, at the same exponent it has no lesser significand, and at a greater
exponent the least significand is already as large as the greatest one before.
-/

namespace SourceSurvey.Double

/-! ## Rounding to an integer -/

/-- The rounded quotient is at most a half away, and even where it is a half away. -/
theorem roundQuotient_spec {n d : ℕ} (hd : 0 < d) :
    2 * n ≤ (2 * roundQuotient n d + 1) * d ∧ (2 * roundQuotient n d) * d ≤ 2 * n + d ∧
      (2 * n = (2 * roundQuotient n d + 1) * d ∨ (2 * roundQuotient n d) * d = 2 * n + d →
        roundQuotient n d % 2 = 0) := by
  have hdiv := Nat.div_add_mod n d
  have hmod := Nat.mod_lt n hd
  set q := n / d with hq
  set r := n % d with hr
  have hprod : ∀ k : ℕ, (2 * k + 1) * d = 2 * (d * k) + d ∧ (2 * k) * d = 2 * (d * k) := by
    intro k
    constructor <;> ring
  have hsucc : d * (q + 1) = d * q + d := by ring
  unfold roundQuotient
  rw [← hq, ← hr]
  dsimp only
  split_ifs with hlow hhigh heven
  · rw [(hprod q).1, (hprod q).2]
    omega
  · rw [(hprod (q + 1)).1, (hprod (q + 1)).2, hsucc]
    omega
  · rw [(hprod q).1, (hprod q).2]
    omega
  · rw [(hprod (q + 1)).1, (hprod (q + 1)).2, hsucc]
    omega

/-- A greater quotient has no lesser rounded quotient. -/
theorem roundQuotient_mono {n d n' d' : ℕ} (hd : 0 < d) (hd' : 0 < d')
    (h : (n : ℚ) / d ≤ (n' : ℚ) / d') :
    roundQuotient n d ≤ roundQuotient n' d' := by
  obtain ⟨-, hlow, heven⟩ := roundQuotient_spec (n := n) hd
  obtain ⟨hhigh, -, heven'⟩ := roundQuotient_spec (n := n') hd'
  set k := roundQuotient n d
  set k' := roundQuotient n' d'
  by_contra hlt
  -- both quotients are then the same half, and of two neighbours one is not even
  have hdq : (0 : ℚ) < d := by exact_mod_cast hd
  have hdq' : (0 : ℚ) < d' := by exact_mod_cast hd'
  have hlowq : (k : ℚ) - 1 / 2 ≤ (n : ℚ) / d := by
    have : ((2 * k) * d : ℚ) ≤ 2 * n + d := by exact_mod_cast hlow
    rw [le_div_iff₀ hdq]
    linarith
  have hhighq : (n' : ℚ) / d' ≤ (k' : ℚ) + 1 / 2 := by
    have : (2 * n' : ℚ) ≤ (2 * k' + 1) * d' := by exact_mod_cast hhigh
    rw [div_le_iff₀ hdq']
    linarith
  have hk : (k' : ℚ) + 1 ≤ k := by exact_mod_cast not_le.1 hlt
  have hkeq : k = k' + 1 := by
    have : (k : ℚ) ≤ k' + 1 := by linarith
    have : k ≤ k' + 1 := by exact_mod_cast this
    omega
  have htie : (n : ℚ) / d = (k : ℚ) - 1 / 2 := by linarith
  have htie' : (n' : ℚ) / d' = (k' : ℚ) + 1 / 2 := by linarith
  have hkeven : k % 2 = 0 := by
    refine heven (Or.inr ?_)
    rw [div_eq_iff hdq.ne'] at htie
    have : ((2 * k) * d : ℚ) = 2 * n + d := by linarith
    exact_mod_cast this
  have hkeven' : k' % 2 = 0 := by
    refine heven' (Or.inl ?_)
    rw [div_eq_iff hdq'.ne'] at htie'
    have : (2 * n' : ℚ) = (2 * k' + 1) * d' := by linarith
    exact_mod_cast this
  omega

/-! ## Rounding to 53 bits -/

/-- The significand that a quotient is rounded to. -/
def significandFor (n d : ℕ) : ℕ :=
  roundQuotient (scaled n d (exponentFor n d)).1 (scaled n d (exponentFor n d)).2

/-- The value that a quotient is rounded to, in whatever range it is. -/
def rounded (n d : ℕ) : ℚ := if n = 0 then 0 else significandFor n d * 2 ^ exponentFor n d

variable {n d n' d' : ℕ}

theorem significandFor_le (hn : 0 < n) (hd : 0 < d) : significandFor n d ≤ 2 ^ 53 := by
  have hexp := exponentFor_spec hn hd
  have hden := scaled_den_pos (n := n) hd (exponentFor n d)
  have hdenq : (0 : ℚ) < (scaled n d (exponentFor n d)).2 := by exact_mod_cast hden
  have hbelow := hexp.below
  rw [← div_lt_iff₀ (two_zpow_pos _), ← scaled_div, div_lt_iff₀ hdenq] at hbelow
  have hquot : (scaled n d (exponentFor n d)).1 / (scaled n d (exponentFor n d)).2 < 2 ^ 53 := by
    rw [Nat.div_lt_iff_lt_mul hden]
    exact_mod_cast hbelow
  exact (roundQuotient_bounds _ _).2.trans hquot

theorem le_significandFor (hn : 0 < n) (hd : 0 < d) (he : exponentFor n d ≠ -1074) :
    2 ^ 52 ≤ significandFor n d := by
  have habove := (exponentFor_spec hn hd).above.resolve_left he
  have hden := scaled_den_pos (n := n) hd (exponentFor n d)
  have hdenq : (0 : ℚ) < (scaled n d (exponentFor n d)).2 := by exact_mod_cast hden
  rw [← le_div_iff₀ (two_zpow_pos _), ← scaled_div, le_div_iff₀ hdenq] at habove
  refine le_trans ?_ (roundQuotient_bounds _ _).1
  rw [Nat.le_div_iff_mul_le hden]
  exact_mod_cast habove

/-- A greater number has no lesser exponent. -/
theorem Exponent.le_of_le {x y : ℚ} {e f : ℤ} (he : Exponent x e) (hf : Exponent y f)
    (h : x ≤ y) : e ≤ f := by
  by_contra hlt
  have hstep : (2 : ℚ) ^ (f + 1) ≤ 2 ^ e := zpow_le_zpow_right₀ (by norm_num) (by omega)
  rw [two_zpow_succ] at hstep
  rcases he.above with hleast | habove
  · have := hf.least
    omega
  · have := hf.below
    linarith

theorem rounded_nonneg (n d : ℕ) : 0 ≤ rounded n d := by
  unfold rounded
  split_ifs
  · exact le_rfl
  · have := two_zpow_pos (exponentFor n d)
    positivity

/-- Rounding to 53 bits keeps the order. -/
theorem rounded_mono (hd : 0 < d) (hd' : 0 < d') (h : (n : ℚ) / d ≤ (n' : ℚ) / d') :
    rounded n d ≤ rounded n' d' := by
  rcases Nat.eq_zero_or_pos n with rfl | hn
  · exact (if_pos rfl).trans_le (rounded_nonneg n' d')
  have hdq : (0 : ℚ) < d := by exact_mod_cast hd
  have hnq : (0 : ℚ) < n := by exact_mod_cast hn
  have hn' : 0 < n' := by
    rcases Nat.eq_zero_or_pos n' with rfl | hn'
    · rw [Nat.cast_zero, zero_div] at h
      exact absurd (div_pos hnq hdq) h.not_gt
    · exact hn'
  have hexp := (exponentFor_spec hn hd).le_of_le (exponentFor_spec hn' hd') h
  rw [rounded, rounded, if_neg hn.ne', if_neg hn'.ne']
  rcases hexp.eq_or_lt with heq | hlt
  · -- at the same exponent the significands are rounded from the same unit
    have hunit : ((scaled n d (exponentFor n d)).1 : ℚ) / (scaled n d (exponentFor n d)).2 ≤
        ((scaled n' d' (exponentFor n' d')).1 : ℚ) / (scaled n' d' (exponentFor n' d')).2 := by
      rw [scaled_div, scaled_div, heq]
      exact div_le_div_of_nonneg_right h (two_zpow_pos _).le
    have hround : significandFor n d ≤ significandFor n' d' :=
      roundQuotient_mono (scaled_den_pos hd _) (scaled_den_pos hd' _) hunit
    rw [heq]
    exact mul_le_mul_of_nonneg_right (by exact_mod_cast hround) (two_zpow_pos _).le
  · have hleast := (exponentFor_spec hn hd).least
    have hlow : (2 : ℚ) ^ 52 ≤ significandFor n' d' := by
      exact_mod_cast le_significandFor hn' hd' (by omega)
    have hhigh : (significandFor n d : ℚ) ≤ 2 ^ 53 := by exact_mod_cast significandFor_le hn hd
    calc (significandFor n d : ℚ) * 2 ^ exponentFor n d ≤ 2 ^ 53 * 2 ^ exponentFor n d :=
          mul_le_mul_of_nonneg_right hhigh (two_zpow_pos _).le
      _ = 2 ^ 52 * 2 ^ (exponentFor n d + 1) := by rw [two_zpow_succ]; ring
      _ ≤ 2 ^ 52 * 2 ^ exponentFor n' d' :=
          mul_le_mul_of_nonneg_left (zpow_le_zpow_right₀ (by norm_num) (by omega)) (by norm_num)
      _ ≤ significandFor n' d' * 2 ^ exponentFor n' d' :=
          mul_le_mul_of_nonneg_right hlow (two_zpow_pos _).le

/-! ## Finite results -/

/-- A finite result has the rounded value. -/
theorem ratio_of_ofRatio {m : ℕ} {e : ℤ} {h : Fits m e}
    (hfinite : ofRatio false n d = .finite false m e h) :
    ratio false m e = rounded n d := by
  rcases Nat.eq_zero_or_pos n with rfl | hn
  · have hzero : (Double.finite false m e h) = zero false := hfinite.symm.trans (if_pos rfl)
    obtain ⟨-, rfl, rfl⟩ := Double.finite.inj hzero
    simp [ratio, signed, rounded]
  have hassemble : ∀ {k : ℕ} {f : ℤ}, assemble false k f = .finite false m e h → k = m ∧ f = e := by
    intro k f hk
    unfold assemble at hk
    split_ifs at hk
    obtain ⟨-, hm, he⟩ := Double.finite.inj hk
    exact ⟨hm, he⟩
  rw [ofRatio_of hn rfl rfl, ← significandFor] at hfinite
  rw [rounded, if_neg hn.ne']
  split_ifs at hfinite with htop
  · obtain ⟨rfl, rfl⟩ := hassemble hfinite
    simp only [ratio, signed, htop]
    rw [two_zpow_succ]
    push_cast
    ring
  · obtain ⟨rfl, rfl⟩ := hassemble hfinite
    rfl

/-- **Rounding keeps the order** of quotients that round to finite doubles. -/
theorem ofRatio_mono (hd : 0 < d) (hd' : 0 < d') (h : (n : ℚ) / d ≤ (n' : ℚ) / d')
    (hlimit : (n' : ℚ) / d' < 2 ^ (1023 : ℤ)) :
    (ofRatio false n d).place ≤ (ofRatio false n' d').place := by
  obtain ⟨m, e, hfits, hfinite⟩ := ofRatio_isFinite hd (h.trans_lt hlimit) false
  obtain ⟨m', e', hfits', hfinite'⟩ := ofRatio_isFinite hd' hlimit false
  have hrounded := rounded_mono hd hd' h
  rw [← ratio_of_ofRatio hfinite, ← ratio_of_ofRatio hfinite'] at hrounded
  rw [hfinite, hfinite']
  simp only [place]
  exact_mod_cast hrounded

end SourceSurvey.Double
