import Mathlib.Tactic
import SourceSurvey.Json.Reader
import SourceSurvey.Json.Writer

/-!
# Strings read back

A string is written with escapes for everything outside the printed ASCII characters, as a pair of
code units for a character beyond the basic plane.  `readString_stringText`: reading what is written
gives the string back.  `ascii_stringText`: what is written is ASCII.
-/

namespace SourceSurvey.Json

/-! ## Code units -/

theorem hexPadded_four {n : ℕ} (hn : n < 65536) :
    Text.hexPadded 4 n = [Nat.digitChar (n / 4096), Nat.digitChar (n / 256 % 16),
      Nat.digitChar (n / 16 % 16), Nat.digitChar (n % 16)] := by
  have hdigits : ∀ k < 16, Nat.toDigits 16 k = [Nat.digitChar k] := fun k hk =>
    Nat.toDigits_of_lt_base hk
  have hstep : ∀ {k}, 16 ≤ k → Nat.toDigits 16 k = Nat.toDigits 16 (k / 16) ++
      [Nat.digitChar (k % 16)] :=
    fun hk => Nat.toDigits_of_base_le (by norm_num) hk
  have hzero : ∀ k < 16, k = 0 → '0' = Nat.digitChar k := fun k _ h => by rw [h]; rfl
  unfold Text.hexPadded
  rcases Nat.lt_or_ge n 16 with h1 | h1
  · rw [hdigits n h1, ← hzero (n / 4096) (by omega) (by omega),
      ← hzero (n / 256 % 16) (by omega) (by omega), ← hzero (n / 16 % 16) (by omega) (by omega),
      Nat.mod_eq_of_lt h1]
    rfl
  rw [hstep h1]
  rcases Nat.lt_or_ge (n / 16) 16 with h2 | h2
  · rw [hdigits _ h2, ← hzero (n / 4096) (by omega) (by omega),
      ← hzero (n / 256 % 16) (by omega) (by omega), Nat.mod_eq_of_lt h2]
    rfl
  rw [hstep h2, Nat.div_div_eq_div_mul]
  rcases Nat.lt_or_ge (n / (16 * 16)) 16 with h3 | h3
  · rw [hdigits _ h3, ← hzero (n / 4096) (by omega) (by omega), Nat.mod_eq_of_lt h3]
    rfl
  · rw [hstep h3, Nat.div_div_eq_div_mul, hdigits (n / (16 * 16 * 16)) (by omega)]
    rfl

theorem hexDigit_digitChar : ∀ k < 16, hexDigit? (Nat.digitChar k) = some k := by
  decide

theorem readChars_unitText {opening : ℕ} {done : Collected} {n : ℕ} (hn : n < 65536)
    {rest : List Char} (hrest : rest ≠ []) :
    readChars opening done (unitText n ++ rest) = readChars opening (done.pushUnit n) rest := by
  have hunit : codeUnit? (Nat.digitChar (n / 4096)) (Nat.digitChar (n / 256 % 16))
      (Nat.digitChar (n / 16 % 16)) (Nat.digitChar (n % 16)) = some n := by
    unfold codeUnit?
    rw [hexDigit_digitChar _ (by omega), hexDigit_digitChar _ (by omega),
      hexDigit_digitChar _ (by omega), hexDigit_digitChar _ (by omega)]
    change some _ = some n
    congr 1
    omega
  have hempty : rest.isEmpty = false := by simpa using hrest
  rw [unitText, hexPadded_four hn]
  simp only [List.cons_append, List.nil_append]
  rw [readChars, hunit, hempty]

/-! ## Characters -/

theorem Collected.push_of_settled {done : Collected} (h : done.waiting = none) (c : Char) :
    done.push c = ⟨none, c :: done.done⟩ := by
  simp only [Collected.push, Collected.settled, h]

/-- A character in the basic plane is no half of a pair. -/
theorem pushUnit_toNat {done : Collected} (h : done.waiting = none) (c : Char) :
    done.pushUnit c.toNat = ⟨none, c :: done.done⟩ := by
  have hvalid : c.toNat < 0xD800 ∨ 0xDFFF < c.toNat := by
    rcases c.valid with hv | hv
    · exact Or.inl hv
    · exact Or.inr hv.1
  have hlead : isLeading c.toNat = false := by
    simp only [isLeading, Bool.and_eq_false_iff, decide_eq_false_iff_not]
    omega
  have htrail : isTrailing c.toNat = false := by
    simp only [isTrailing, Bool.and_eq_false_iff, decide_eq_false_iff_not]
    omega
  have hchar : unitChar c.toNat = c := by
    simp [unitChar, hlead, htrail]
  simp only [Collected.pushUnit, h, hlead, hchar]
  exact Collected.push_of_settled h c

/-- Two units that make a pair. -/
theorem pushUnit_pair {done : Collected} (h : done.waiting = none) {leading trailing : ℕ}
    (hl : isLeading leading = true) (ht : isTrailing trailing = true) :
    (done.pushUnit leading).pushUnit trailing =
      ⟨none, Char.ofNat (joinUnits leading trailing) :: done.done⟩ := by
  have hfirst : done.pushUnit leading = ⟨some leading, done.done⟩ := by
    simp only [Collected.pushUnit, h, hl, Collected.settled, if_true]
  rw [hfirst]
  simp only [Collected.pushUnit, ht]

/-- The halves that a character beyond the basic plane is written as make that character. -/
theorem halves_of_toNat {c : Char} (hc : 0x10000 ≤ c.toNat) :
    ∃ leading trailing, escapedChar c = unitText leading ++ unitText trailing ∧
      isLeading leading = true ∧ isTrailing trailing = true ∧
      joinUnits leading trailing = c.toNat := by
  have hlt : c.toNat < 0x110000 := by
    rcases c.valid with hv | hv
    · exact lt_trans hv (by norm_num)
    · exact hv.2
  refine ⟨0xD800 + (c.toNat - 0x10000) / 0x400, 0xDC00 + (c.toNat - 0x10000) % 0x400,
    ?_, ?_, ?_, ?_⟩
  · unfold escapedChar
    split
    all_goals first | (exfalso; revert hc; decide) | skip
    rw [if_neg (by simp; omega), if_neg (by omega)]
  · simp only [isLeading, Bool.and_eq_true, decide_eq_true_eq]
    omega
  · simp only [isTrailing, Bool.and_eq_true, decide_eq_true_eq]
    omega
  · unfold joinUnits
    omega

theorem readChars_short {opening : ℕ} {done : Collected} {letter c : Char}
    (he : escaped? letter = some c) (hu : letter ≠ 'u') (rest : List Char) :
    readChars opening done ('\\' :: letter :: rest) = readChars opening (done.push c) rest := by
  rw [readChars, he]
  · intro _ _ _ _ _ h
    exact absurd h hu
  · exact hu

theorem readChars_plain {opening : ℕ} {done : Collected} {c : Char} (hquote : c ≠ '"')
    (hbackslash : c ≠ '\\') (hprinted : 0x20 ≤ c.toNat) (rest : List Char) :
    readChars opening done (c :: rest) = readChars opening (done.push c) rest := by
  rw [readChars, if_neg (by omega)]
  all_goals simp_all

/-- Reading takes one escaped character at a time. -/
theorem readChars_escapedChar {opening : ℕ} {done : Collected} (h : done.waiting = none) (c : Char)
    {rest : List Char} (hrest : rest ≠ []) :
    readChars opening done (escapedChar c ++ rest) =
      readChars opening ⟨none, c :: done.done⟩ rest := by
  by_cases hc : 0x10000 ≤ c.toNat
  · obtain ⟨leading, trailing, htext, hl, ht, hjoin⟩ := halves_of_toNat hc
    have hlt : leading < 65536 ∧ trailing < 65536 := by
      simp only [isLeading, isTrailing, Bool.and_eq_true, decide_eq_true_eq] at hl ht
      omega
    rw [htext, List.append_assoc, readChars_unitText hlt.1 (by simp [unitText]),
      readChars_unitText hlt.2 hrest, pushUnit_pair h hl ht, hjoin, Char.ofNat_toNat]
  · rw [← Collected.push_of_settled h]
    unfold escapedChar
    split
    -- the characters with a short escape
    iterate 7 exact readChars_short rfl (by decide) rest
    rename_i hquote hbackslash _ _ _ _ _
    split_ifs with hprinted hbasic
    · simp only [Bool.and_eq_true, decide_eq_true_eq] at hprinted
      exact readChars_plain hquote hbackslash hprinted.1 rest
    · rw [readChars_unitText hbasic hrest, pushUnit_toNat h, Collected.push_of_settled h]
    · exact absurd hbasic (by omega)

/-! ## Strings -/

theorem readChars_flatMap (opening : ℕ) (cs rest : List Char) {done : Collected}
    (h : done.waiting = none) :
    readChars opening done (cs.flatMap escapedChar ++ '"' :: rest) =
      .ok (String.ofList (done.done.reverse ++ cs), rest) := by
  induction cs generalizing done with
  | nil => simp [readChars, Collected.settled, h]
  | cons c cs ih =>
    rw [List.flatMap_cons, List.append_assoc, readChars_escapedChar h c (by simp), ih rfl]
    simp

/-- A string after its opening quote reads as itself. -/
@[simp] theorem readString_stringText (s : String) (rest : List Char) :
    readString (s.toList.flatMap escapedChar ++ '"' :: rest) = .ok (s, rest) := by
  rw [readString, readChars_flatMap _ _ _ rfl]
  simp

/-- Every character is an ASCII character. -/
def Ascii (cs : List Char) : Prop := ∀ c ∈ cs, c.toNat < 128

theorem ascii_of_all {cs : List Char}
    (h : (cs.all fun c => decide (c.toNat < 128)) = true) : Ascii cs :=
  fun c hc => of_decide_eq_true (List.all_eq_true.1 h c hc)

theorem ascii_nil : Ascii [] := ascii_of_all rfl

theorem Ascii.append {cs ds : List Char} (hcs : Ascii cs) (hds : Ascii ds) : Ascii (cs ++ ds) :=
  fun c hc => (List.mem_append.1 hc).elim (hcs c) (hds c)

theorem Ascii.cons {c : Char} {cs : List Char} (hc : c.toNat < 128)
    (hcs : Ascii cs) : Ascii (c :: cs) :=
  fun d hd => (List.mem_cons.1 hd).elim (fun h => h ▸ hc) (hcs d)

theorem ascii_unitText {n : ℕ} (hn : n < 65536) : Ascii (unitText n) := by
  have hdigit : ∀ k < 16, (Nat.digitChar k).toNat < 128 := by decide
  rw [unitText, hexPadded_four hn]
  intro c hc
  simp only [List.mem_cons, List.not_mem_nil, or_false] at hc
  rcases hc with rfl | rfl | rfl | rfl | rfl | rfl
  · decide
  · decide
  all_goals exact hdigit _ (by omega)

theorem ascii_escapedChar (c : Char) : Ascii (escapedChar c) := by
  by_cases hc : 0x10000 ≤ c.toNat
  · obtain ⟨leading, trailing, htext, hl, ht, -⟩ := halves_of_toNat hc
    simp only [isLeading, isTrailing, Bool.and_eq_true, decide_eq_true_eq] at hl ht
    rw [htext]
    exact (ascii_unitText (by omega)).append (ascii_unitText (by omega))
  · unfold escapedChar
    split
    iterate 7 exact ascii_of_all rfl
    split_ifs with hprinted hbasic
    · simp only [Bool.and_eq_true, decide_eq_true_eq] at hprinted
      exact ascii_nil.cons (by omega)
    · exact ascii_unitText hbasic
    · exact absurd hbasic (by omega)

theorem ascii_stringText (s : String) : Ascii (stringText s) := by
  have hinner : Ascii (s.toList.flatMap escapedChar) := by
    intro c hc
    obtain ⟨d, -, hd⟩ := List.mem_flatMap.1 hc
    exact ascii_escapedChar d c hd
  exact (hinner.append (ascii_of_all rfl)).cons (by decide)

end SourceSurvey.Json
