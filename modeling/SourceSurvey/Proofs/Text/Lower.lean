import Mathlib.Tactic
import SourceSurvey.Text.Class
import SourceSurvey.Text.Lower

/-!
# Lower case forms

What the lower case of a text keeps.  The table of runs is checked once, run by run
(`lowerRuns_sound`): a lower case form is a character that the table does not move again, it is no
blank, and it is a character of ASCII only if it comes from there or from the Kelvin sign.

* `lowerCode_cases`: a code point stays, or a run moves it;
* `lowerCode_spec`: what is known of a form (`Form`);
* `lowerChar_lowerChar`, `isBlank_lowerChar`: characters;
* `lowerAfter_cons`, `lowerAfter_of_isSettled`: texts, where one character may become two.
-/

namespace SourceSurvey.Text

/-- A run of the table: every `step`-th code point from the first to the last, with its shift. -/
abbrev Run := ℕ × ℕ × ℕ × ℤ

/-- A run moves a code point. -/
def Run.Moves : Run → ℕ → Prop
  | (first, last, step, _), n => first ≤ n ∧ n ≤ last ∧ (n - first) % step = 0

/-- Where a run moves a code point. -/
def Run.form (run : Run) (n : ℕ) : ℕ := (n + run.2.2.2).toNat

theorem lowerCode_cases (runs : List Run) (n : ℕ) :
    lowerCode runs n = n ∨ ∃ run ∈ runs, run.Moves n ∧ lowerCode runs n = run.form n := by
  induction runs with
  | nil => exact .inl rfl
  | cons run rest ih =>
    obtain ⟨first, last, step, shift⟩ := run
    rw [lowerCode]
    split_ifs with hfirst hlast hstep
    · exact .inl rfl
    · exact .inr ⟨_, List.mem_cons_self, ⟨by omega, hlast, hstep⟩, rfl⟩
    · exact .inl rfl
    · rcases ih with hstays | ⟨run, hrun, hmoves⟩
      · exact .inl hstays
      · exact .inr ⟨run, List.mem_cons_of_mem _ hrun, hmoves⟩

/-! ## A check of the table -/

-- the checks are written with the tests on numbers that the kernel evaluates at once

/-- The least form of a run. -/
def Run.least : Run → ℕ
  | (first, _, _, shift) => (first + shift).toNat

/-- The greatest form of a run. -/
def Run.greatest : Run → ℕ
  | (_, last, _, shift) => (last + shift).toNat

/-- Whether a table leaves the forms of a run where they are: its runs lie below the forms or
between them, up to one that lies above. -/
def Run.stays (run : Run) : List Run → Bool
  | [] => true
  | (first, last, step, _) :: rest =>
    Nat.blt run.greatest first ||
      ((Nat.blt last run.least ||
          (Nat.ble first run.least && Nat.blt 0 ((run.least - first) % step) &&
            (Nat.beq run.1 run.2.1 || Nat.beq (run.2.2.1 % step) 0))) &&
        run.stays rest)

/-- Whether two ranges of code points have none in common. -/
def apart (first last : ℕ) (range : ℕ × ℕ) : Bool := Nat.blt last range.1 || Nat.blt range.2 first

/-- What is checked of a run of the table. -/
def Run.sound (run : Run) : Bool :=
  Nat.blt 0 run.least && run.stays lowerRuns &&
    apart run.least run.greatest (0xD800, 0xDFFF) && Nat.blt run.greatest 0x110000 &&
    apart run.least run.greatest (0x130, 0x130) &&
    blankRanges.all (fun range => apart run.1 run.2.1 range &&
      apart run.least run.greatest range) &&
    (Nat.ble 0x80 run.least || Nat.blt run.2.1 0x80 || Nat.beq run.1 0x212A &&
      Nat.beq run.2.1 0x212A)

theorem lowerRuns_sound : lowerRuns.all Run.sound = true := by
  decide +kernel

@[simp] theorem apart_iff {first last : ℕ} {range : ℕ × ℕ} :
    apart first last range = true ↔ last < range.1 ∨ range.2 < first := by
  simp [apart, Nat.blt_eq]

theorem form_bounds {run : Run} {n : ℕ} (hpos : 0 < run.least) (h : run.Moves n) :
    run.least ≤ run.form n ∧ run.form n ≤ run.greatest ∧ run.form n - run.least = n - run.1 := by
  obtain ⟨first, last, step, shift⟩ := run
  obtain ⟨hfirst, hlast, -⟩ := h
  simp only [Run.least, Run.form, Run.greatest] at hpos ⊢
  omega

/-- The forms of a run fall between the code points of another one if its least form does and their
steps agree. -/
theorem form_between {run : Run} {first step n : ℕ} (hpos : 0 < run.least) (hmoves : run.Moves n)
    (hfirst : first ≤ run.least) (hleast : 0 < (run.least - first) % step)
    (hsteps : run.1 = run.2.1 ∨ run.2.2.1 % step = 0) : 0 < (run.form n - first) % step := by
  obtain ⟨hbelow, -, hdistance⟩ := form_bounds hpos hmoves
  have hdvd : step ∣ n - run.1 := by
    obtain ⟨low, high, own, shift⟩ := run
    obtain ⟨hlow, hhigh, hown⟩ := hmoves
    rcases hsteps with hlone | hsteps
    · dsimp only at hlone ⊢
      obtain rfl : n = low := by omega
      simp
    · exact (Nat.dvd_of_mod_eq_zero hsteps).trans (Nat.dvd_of_mod_eq_zero hown)
  obtain ⟨k, hk⟩ := hdvd
  rwa [show run.form n - first = run.least - first + step * k by omega, Nat.add_mul_mod_self_left]

/-- A table that leaves the forms of a run leaves each of them. -/
theorem lowerCode_of_stays {run : Run} {runs : List Run} {n : ℕ} (hpos : 0 < run.least)
    (hmoves : run.Moves n) (h : run.stays runs = true) :
    lowerCode runs (run.form n) = run.form n := by
  obtain ⟨hleast, hgreatest, -⟩ := form_bounds hpos hmoves
  induction runs with
  | nil => rfl
  | cons other rest ih =>
    obtain ⟨first, last, step, shift⟩ := other
    simp only [Run.stays, Bool.or_eq_true, Bool.and_eq_true, Nat.blt_eq, Nat.ble_eq,
      Nat.beq_eq] at h
    rw [lowerCode]
    split_ifs with hfirst hlast hstep
    · rfl
    · rcases h with habove | ⟨hbelow | ⟨⟨hlow, hbetween⟩, hsteps⟩, -⟩
      · omega
      · omega
      · exact absurd hstep (form_between hpos hmoves hlow hbetween hsteps).ne'
    · rfl
    · rcases h with habove | ⟨-, hrest⟩
      · omega
      · exact ih hrest

theorem inRanges_eq_false {ranges : List (ℕ × ℕ)} {n : ℕ}
    (h : ∀ range ∈ ranges, n < range.1 ∨ range.2 < n) :
    inRanges ranges n = false := by
  induction ranges with
  | nil => rfl
  | cons range rest ih =>
    obtain ⟨lo, hi⟩ := range
    obtain ⟨hhere, hrest⟩ := List.forall_mem_cons.1 h
    rw [inRanges, ih hrest, Bool.or_false]
    split_ifs with hlo
    · rfl
    · exact decide_eq_false (by dsimp only at hhere; omega)

/-- What is known of the lower case form of a code point that the table moves. -/
structure Form (n m : ℕ) : Prop where
  settled : lowerCode lowerRuns m = m
  valid : m.isValidChar
  undotted : m ≠ 0x130
  notBlank : inRanges blankRanges n = false ∧ inRanges blankRanges m = false
  ascii : m < 0x80 → n < 0x80 ∨ n = 0x212A

theorem form_of_moves {run : Run} {n : ℕ} (hrun : run ∈ lowerRuns)
    (hmoves : run.Moves n) : Form n (run.form n) := by
  have hsound := List.all_eq_true.1 lowerRuns_sound run hrun
  simp only [Run.sound, Bool.and_eq_true, Bool.or_eq_true, Nat.blt_eq, Nat.ble_eq,
    Nat.beq_eq, apart_iff, List.all_eq_true] at hsound
  obtain ⟨⟨⟨⟨⟨⟨hpos, hstays⟩, hsurrogates⟩, hgreatest⟩, hundotted⟩, hblank⟩, hascii⟩ := hsound
  obtain ⟨hleast, hmost, -⟩ := form_bounds hpos hmoves
  have hown : run.1 ≤ n ∧ n ≤ run.2.1 := ⟨hmoves.1, hmoves.2.1⟩
  refine ⟨lowerCode_of_stays hpos hmoves hstays, ?_, ?_, ⟨?_, ?_⟩, ?_⟩
  · unfold Nat.isValidChar
    omega
  · omega
  · refine inRanges_eq_false fun range hrange => ?_
    have := (hblank range hrange).1
    omega
  · refine inRanges_eq_false fun range hrange => ?_
    have := (hblank range hrange).2
    omega
  · omega

/-- **A code point stays, or it has a lower case form.** -/
theorem lowerCode_spec (n : ℕ) : lowerCode lowerRuns n = n ∨ Form n (lowerCode lowerRuns n) := by
  rcases lowerCode_cases lowerRuns n with hstays | ⟨run, hrun, hmoves, hform⟩
  · exact .inl hstays
  · exact .inr (hform ▸ form_of_moves hrun hmoves)

/-! ## Characters -/

theorem toNat_toLower (c : Char) :
    c.toLower.toNat = if 0x41 ≤ c.toNat ∧ c.toNat ≤ 0x5A then c.toNat + 32 else c.toNat := by
  have hrange : c.val ≥ 'A'.val ∧ c.val ≤ 'Z'.val ↔ 0x41 ≤ c.toNat ∧ c.toNat ≤ 0x5A := by
    simp [UInt32.le_iff_toNat_le]
  by_cases h : 0x41 ≤ c.toNat ∧ c.toNat ≤ 0x5A
  · have hlower : c.toLower.toNat = (c.val + ('a'.val - 'A'.val)).toNat :=
      congrArg Char.toNat (dif_pos (hrange.2 h))
    have hadd : (c.val + ('a'.val - 'A'.val)).toNat = (c.val.toNat + 32) % 2 ^ 32 :=
      UInt32.toNat_add _ _
    have hsmall : c.val.toNat ≤ 0x5A := h.2
    rw [hlower, hadd, if_pos h, Nat.mod_eq_of_lt (by omega)]
    rfl
  · have hlower : c.toLower = c := dif_neg (mt hrange.1 h)
    rw [hlower, if_neg h]

theorem toNat_ofNat {n : ℕ} (h : n.isValidChar) : (Char.ofNat n).toNat = n := by
  rw [Char.ofNat, dif_pos h]
  rfl

/-- The table also holds the mapping of ASCII. -/
@[simp] theorem toNat_lowerChar (c : Char) : (lowerChar c).toNat = lowerCode lowerRuns c.toNat := by
  unfold lowerChar
  split_ifs with hascii
  · have hruns : lowerRuns = (0x41, 0x5A, 1, 32) :: (0xC0, 0xD6, 1, 32) :: lowerRuns.drop 2 := rfl
    rw [toNat_toLower, hruns, lowerCode, lowerCode]
    split_ifs <;> omega
  · refine toNat_ofNat ?_
    rcases lowerCode_spec c.toNat with hstays | hform
    · rw [hstays]
      exact c.valid
    · exact hform.valid

/-- **Lower case is lower case already.** -/
@[simp] theorem lowerChar_lowerChar (c : Char) : lowerChar (lowerChar c) = lowerChar c := by
  rw [← Char.toNat_inj, toNat_lowerChar, toNat_lowerChar]
  rcases lowerCode_spec c.toNat with hstays | hform
  · rw [hstays, hstays]
  · exact hform.settled

/-- A character is a blank just when its lower case form is. -/
@[simp] theorem isBlank_lowerChar (c : Char) : isBlank (lowerChar c) = isBlank c := by
  rw [isBlank, isBlank, toNat_lowerChar]
  rcases lowerCode_spec c.toNat with hstays | hform
  · rw [hstays]
  · rw [hform.notBlank.1, hform.notBlank.2]

/-- Beside the characters of ASCII, only the Kelvin sign has a lower case form in ASCII. -/
theorem ascii_of_lowerChar {c : Char} (h : (lowerChar c).toNat < 0x80) :
    c.toNat < 0x80 ∨ c = '\u212a' := by
  rw [toNat_lowerChar] at h
  rcases lowerCode_spec c.toNat with hstays | hform
  · exact .inl (hstays ▸ h)
  · exact (hform.ascii h).imp_right fun hkelvin => Char.toNat_inj.1 hkelvin

/-- A character that the lower case of a text leaves as it is. -/
structure IsSettled (c : Char) : Prop where
  lower : lowerChar c = c
  notSigma : c ≠ 'Σ'
  notDotted : c ≠ 'İ'

theorem isSettled_lowerChar {c : Char} (h : c ≠ 'İ') : IsSettled (lowerChar c) := by
  refine ⟨lowerChar_lowerChar c, fun hsigma => ?_, fun hdotted => ?_⟩
  · have hfixed := lowerChar_lowerChar c
    rw [hsigma] at hfixed
    exact absurd hfixed (by decide)
  · rcases lowerCode_spec c.toNat with hstays | hform
    · refine h ?_
      rwa [← toNat_lowerChar, Char.toNat_inj, hdotted, eq_comm] at hstays
    · refine hform.undotted ?_
      rw [← toNat_lowerChar, hdotted]
      rfl

/-! ## Texts -/

/-- One character becomes one or more, which are settled, and blanks just when it is. -/
theorem lowerAfter_cons (before : List Char) (c : Char) (after : List Char) :
    ∃ forms ≠ [], lowerAfter before (c :: after) = forms ++ lowerAfter (c :: before) after ∧
      ∀ d ∈ forms, IsSettled d ∧ isBlank d = isBlank c := by
  by_cases hsigma : c = 'Σ'
  · subst hsigma
    -- which of the two forms it takes depends on its place, but both are settled
    refine ⟨_, by simp, rfl, ?_⟩
    simp only [if_pos, List.mem_singleton, forall_eq]
    split_ifs
    · exact ⟨⟨by decide, by decide, by decide⟩, by decide⟩
    · exact ⟨⟨by decide, by decide, by decide⟩, by decide⟩
  · by_cases hdotted : c = 'İ'
    · subst hdotted
      refine ⟨['i', '\u0307'], by simp, by simp [lowerAfter], ?_⟩
      simp only [List.mem_cons, List.not_mem_nil, or_false, forall_eq_or_imp, forall_eq]
      exact ⟨⟨⟨by decide, by decide, by decide⟩, by decide⟩,
        ⟨by decide, by decide, by decide⟩, by decide⟩
    · refine ⟨[lowerChar c], by simp, by simp [lowerAfter, hsigma, hdotted], ?_⟩
      simpa using isSettled_lowerChar hdotted

variable {before cs : List Char}

theorem isSettled_of_mem_lowerAfter {d : Char} (h : d ∈ lowerAfter before cs) : IsSettled d := by
  induction cs generalizing before with
  | nil => simp [lowerAfter] at h
  | cons c after ih =>
    obtain ⟨forms, -, hforms, hall⟩ := lowerAfter_cons before c after
    rw [hforms, List.mem_append] at h
    exact h.elim (fun hd => (hall d hd).1) ih

/-- Settled characters stay as they are, in any place. -/
theorem lowerAfter_of_isSettled (h : ∀ c ∈ cs, IsSettled c) : lowerAfter before cs = cs := by
  induction cs generalizing before with
  | nil => rfl
  | cons c after ih =>
    obtain ⟨hc, hafter⟩ := List.forall_mem_cons.1 h
    rw [lowerAfter, if_neg hc.notSigma, if_neg hc.notDotted, hc.lower, ih hafter]
    rfl

/-- The first character keeps being a blank or not. -/
theorem head?_lowerAfter : (lowerAfter before cs).head?.map isBlank = cs.head?.map isBlank := by
  cases cs with
  | nil => rfl
  | cons c after =>
    obtain ⟨forms, hne, hforms, hall⟩ := lowerAfter_cons before c after
    obtain ⟨d, ds, rfl⟩ := List.exists_cons_of_ne_nil hne
    rw [hforms]
    exact congrArg some (hall d List.mem_cons_self).2

/-- So does the last one. -/
theorem getLast?_lowerAfter :
    (lowerAfter before cs).getLast?.map isBlank = cs.getLast?.map isBlank := by
  induction cs generalizing before with
  | nil => rfl
  | cons c after ih =>
    obtain ⟨forms, hne, hforms, hall⟩ := lowerAfter_cons before c after
    rw [hforms, List.getLast?_append]
    -- the forms of a character are last only if nothing comes behind it
    cases after with
    | nil =>
      have hlast := (hall _ (List.getLast_mem hne)).2
      simpa [lowerAfter, List.getLast?_eq_some_getLast hne] using hlast
    | cons c' after =>
      have hrest : (lowerAfter (c :: before) (c' :: after)).getLast?.map isBlank = _ := ih
      rw [List.getLast?_cons_cons, ← hrest]
      cases hlast : (lowerAfter (c :: before) (c' :: after)).getLast? with
      | none => simp [hlast] at hrest
      | some d => rfl

end SourceSurvey.Text
