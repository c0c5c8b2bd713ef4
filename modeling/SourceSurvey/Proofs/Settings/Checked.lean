import SourceSurvey.Proofs.Double.Scaling
import SourceSurvey.Proofs.Trace
import SourceSurvey.Proofs.Value.Place
import SourceSurvey.Settings.Load

/-!
# Checked settings

What the checks of settings guarantee for later use (`Checked`), and what they do not.  The limit on
the size of files is checked to be above zero, by a comparison that a NaN and infinity pass too.  It
has a value in bytes just when it is no such number and not so large that it becomes one
(`Measurable`, `maxFileBytes_spec`).  The limit on the number of files is always safe
(`limit_spec`).
-/

namespace SourceSurvey

/-! ## Comparisons with integers -/

theorem Value.test_int_ok {v : Value} {how : Comparison} {i : ℤ} {b : Bool}
    (h : v.test how (.int i) = .ok b) :
    ∃ x, v.number? = some x ∧ how.ofNumbers x (.int i) = b :=
  Value.number?_left_of_test h rfl

/-- A finite double against an integer is a comparison of rationals. -/
theorem Comparison.ofNumbers_finite (how : Comparison) (s : Bool) (m : ℕ) (e : ℤ)
    (h : Fits m e) (i : ℤ) :
    how.ofNumbers (.float (.finite s m e h)) (.int i) = true ↔
    how.Relates (Double.ratio s m e) (i : ℚ) := by
  rw [Comparison.ofNumbers_iff, ← how.relates_map Double.coe_strictMono]
  simp [Number.place, Double.place]

theorem Comparison.ofNumbers_int_finite (how : Comparison) (i : ℤ) (s : Bool) (m : ℕ) (e : ℤ)
    (h : Fits m e) :
    how.ofNumbers (.int i) (.float (.finite s m e h)) = true ↔
    how.Relates (i : ℚ) (Double.ratio s m e) := by
  rw [Comparison.ofNumbers_iff, ← how.relates_map Double.coe_strictMono]
  simp [Number.place, Double.place]

theorem Value.eq_float_of_number? {v : Value} {x : Double} (h : v.number? = some (.float x)) :
    v = .float x := by
  cases v <;> simp [Value.number?] at h
  rw [h]

theorem Double.ratio_pos_iff {s : Bool} {m : ℕ} {e : ℤ} :
    0 < Double.ratio s m e ↔ s = false ∧ 0 < m := by
  have hpos := Double.two_zpow_pos e
  unfold Double.ratio Double.signed
  rw [mul_pos_iff_of_pos_right hpos]
  cases s with
  | false => simp
  | true => simp

namespace Settings

/-! ## What is checked -/

/-- The two limits on files have passed their checks. -/
structure Checked (s : Settings) : Prop where
  maxFileSize : s.maxFileSize.test .le (.int 0) = .ok false
  maxFiles : s.maxFiles.test .lt (.int 1) = .ok false

@[simp] theorem refuseIf_ok {test : Except Misuse Bool} {reason : String} {u : Unit} :
    Thresholds.refuseIf test reason = .ok u ↔ test = .ok false := by
  unfold Thresholds.refuseIf
  rw [bind_eq_ok]
  constructor
  · rintro ⟨b, hb, h⟩
    cases b with
    | true => cases h
    | false => exact hb
  · exact fun h => ⟨false, h, rfl⟩

theorem checked_of_check {s : Settings} (h : s.check = .ok ()) : Checked s := by
  simp only [check, bind_eq_ok, refuseIf_ok] at h
  obtain ⟨_, -, _, -, _, -, _, hsize, _, hfiles, -⟩ := h
  exact ⟨hsize, hfiles⟩

@[simp] theorem explained_eq_ok {α : Type} {front : String} {x : Except Failure α} {a : α} :
    explained front x = .ok a ↔ x = .ok a := by
  cases x <;> simp [explained]

/-- Settings that are loaded have passed the checks. -/
theorem checked_of_load {w : World} {file : Option Route} {overrides : Overrides} {s : Settings}
    (h : load w file overrides = .ok s) : Checked s := by
  simp only [load, bind_eq_ok, explained_eq_ok, orFail_ok, ofFields] at h
  obtain ⟨merged, -, thresholds, -, filled, -, _, hcheck, hs⟩ := h
  obtain rfl := Except.ok.inj hs
  exact checked_of_check hcheck

/-! ## The limit on the size of files -/

/-- A size that is no NaN, not infinite, and not so large that it is infinite in bytes. -/
def Measurable : Value → Prop
  | .float .nan => False
  | .float (.infinite _) => False
  | .float (.finite s m e _) => Double.ratio s m e < 2 ^ (1004 : ℤ)
  | _ => True

theorem maxFileBytes_of_int {s : Settings} {i : ℤ} (h : s.maxFileSize.number? = some (.int i)) :
    s.maxFileBytes = .ok (i * 1024 * 1024) := by
  have htimes : s.maxFileSize.times (.int 1024) = .ok (.int (i * 1024)) := by
    simp only [Value.times, h]
    rfl
  rw [maxFileBytes, htimes]
  rfl

@[simp] theorem times_kilo (x : Double) :
    (Value.float x).times (.int 1024) = .ok (.float (x.mul .kilo)) := by
  simp only [Value.times, Value.number?, Number.mul, Number.toDouble, Double.ofInt?_kilo]
  rfl

theorem maxFileBytes_of_float {s : Settings} {x : Double} (h : s.maxFileSize = .float x) :
    s.maxFileBytes = ((x.mul .kilo).mul .kilo).integerPart := by
  rw [maxFileBytes, h, times_kilo]
  change ((Value.float (x.mul .kilo)).times (.int 1024) >>= Value.toInteger) = _
  rw [times_kilo]
  rfl

/-- A double that does not come out as zero or less: a NaN, infinity, or a finite double above
zero. -/
theorem positive_cases {x : Double} (h : Comparison.le.ofNumbers (.float x) (.int 0) = false) :
    x = .nan ∨ x = .infinite false ∨ ∃ m e hfits, 0 < m ∧ x = .finite false m e hfits := by
  cases x with
  | nan => exact .inl rfl
  | infinite s =>
    cases s with
    | false => exact .inr (.inl rfl)
    | true => cases h
  | finite s m e hfits =>
    have hpos : 0 < Double.ratio s m e := by
      refine not_le.1 fun hle => ?_
      rw [(Comparison.ofNumbers_finite .le s m e hfits 0).2 (by exact_mod_cast hle)] at h
      cases h
    obtain ⟨rfl, hm⟩ := Double.ratio_pos_iff.1 hpos
    exact .inr (.inr ⟨m, e, hfits, hm, rfl⟩)

/-- **Which limits on the size of files have a value in bytes.** -/
theorem maxFileBytes_spec {s : Settings} (h : Checked s) :
    (Measurable s.maxFileSize ∧ ∃ n, 0 ≤ n ∧ s.maxFileBytes = .ok n) ∨
      (¬ Measurable s.maxFileSize ∧ ∃ m, s.maxFileBytes = .error m) := by
  obtain ⟨x, hx, hle⟩ := Value.test_int_ok h.maxFileSize
  cases x with
  | int i =>
    have hi : 0 < i := by
      refine not_le.1 fun hi => ?_
      rw [(Comparison.ofNumbers_int .le i 0).2 hi] at hle
      cases hle
    refine .inl ⟨?_, i * 1024 * 1024, by positivity, maxFileBytes_of_int hx⟩
    cases hsize : s.maxFileSize with
    | float y =>
      rw [hsize] at hx
      cases hx
    | _ => exact trivial
  | float x =>
    have hsize := Value.eq_float_of_number? hx
    rw [maxFileBytes_of_float hsize, hsize]
    rcases positive_cases hle with rfl | rfl | ⟨m, e, hfits, hm, rfl⟩
    · exact .inr ⟨id, _, rfl⟩
    · exact .inr ⟨id, _, rfl⟩
    · obtain ⟨hsmall, hlarge⟩ := Double.mul_kilo_twice hfits hm
      have hratio : Double.ratio false m e = (m : ℚ) * 2 ^ e := rfl
      by_cases hlt : (m : ℚ) * 2 ^ e < 2 ^ (1004 : ℤ)
      · obtain ⟨m', e', h', hbytes⟩ := hsmall hlt
        rw [hbytes]
        exact .inl ⟨hlt, _, Int.natCast_nonneg _, rfl⟩
      · rw [hlarge (not_lt.1 hlt)]
        exact .inr ⟨hlt, _, rfl⟩

/-! ## The limit on the number of files -/

/-- The number of files is compared without a failure, and is a number of files where it is
reached. -/
theorem limit_spec {s : Settings} (h : Checked s) (n : ℕ) :
    ∃ reached, Value.test .ge (.ofNat n) s.maxFiles = .ok reached ∧
      (reached = true → ∃ limit, s.maxFiles.toInteger = .ok limit) ∧ (n = 0 → reached = false) := by
  obtain ⟨x, hx, hlt⟩ := Value.test_int_ok h.maxFiles
  have hreached := Value.test_of_number (a := .ofNat n) rfl hx .ge
  cases x with
  | int i =>
    refine ⟨_, hreached, fun _ => ?_, ?_⟩
    · cases hfiles : s.maxFiles with
      | bool b => exact ⟨_, rfl⟩
      | int j => exact ⟨_, rfl⟩
      | _ =>
        rw [hfiles] at hx
        cases hx
    · rintro rfl
      refine Bool.eq_false_iff.2 fun hge => ?_
      have hi : i ≤ 0 := (Comparison.ofNumbers_int .ge 0 i).1 hge
      rw [(Comparison.ofNumbers_int .lt i 1).2 (show i < 1 by omega)] at hlt
      cases hlt
  | float x =>
    rw [Value.eq_float_of_number? hx] at hreached ⊢
    cases x with
    | nan => exact ⟨_, hreached, fun hge => (Bool.false_ne_true hge).elim, fun _ => rfl⟩
    | infinite negative =>
      cases negative with
      | false => exact ⟨_, hreached, fun hge => (Bool.false_ne_true hge).elim, fun _ => rfl⟩
      | true => cases hlt
    | finite negative m e hfits =>
      refine ⟨_, hreached, fun _ => ⟨_, rfl⟩, ?_⟩
      rintro rfl
      refine Bool.eq_false_iff.2 fun hge => ?_
      have hratio : Double.ratio negative m e ≤ ((0 : ℤ) : ℚ) :=
        (Comparison.ofNumbers_int_finite .ge 0 negative m e hfits).1 hge
      rw [(Comparison.ofNumbers_finite .lt negative m e hfits 1).2
        (lt_of_le_of_lt hratio (by norm_num))] at hlt
      cases hlt

end Settings

end SourceSurvey
