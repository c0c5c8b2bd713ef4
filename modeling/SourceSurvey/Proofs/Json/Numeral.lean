import SourceSurvey.Json.Reader
import SourceSurvey.Json.Writer
import SourceSurvey.Proofs.Double.Decimal

/-!
# Numerals read back

The numerals that are written for integers and doubles are read as the numbers they were written for
(`readNumber_int`, `readNumber_text`), whatever follows them, as long as it does not go on with the
numeral (`Closed`).

A decimal numeral is cut into its parts by `splitWhole`, `splitFraction` and `splitExponent`; each
has a lemma that says what it takes from a text of the right form.
-/

namespace SourceSurvey

namespace Text

/-! ## Digits -/

/-- All characters are decimal digits. -/
def Digits (ds : List Char) : Prop := ∀ c ∈ ds, c.isDigit = true

/-- A text does not begin with a digit. -/
def NoDigit (cs : List Char) : Prop := ∀ c ∈ cs.head?, c.isDigit = false

/-- The number that digits spell. -/
def numeral (ds : List Char) : ℕ := ofDigits (ds.filterMap asciiDigit?)

theorem Digits.append {as bs : List Char} (ha : Digits as)
    (hb : Digits bs) : Digits (as ++ bs) := by
  intro c hc
  rcases List.mem_append.1 hc with h | h
  · exact ha c h
  · exact hb c h

theorem Digits.of_append {as bs : List Char} (h : Digits (as ++ bs)) : Digits as ∧ Digits bs :=
  ⟨fun c hc => h c (List.mem_append_left _ hc), fun c hc => h c (List.mem_append_right _ hc)⟩

theorem digits_toDigits (n : ℕ) : Digits (Nat.toDigits 10 n) :=
  fun _ hc => Nat.isDigit_of_mem_toDigits (by norm_num) (by norm_num) hc

theorem digits_zeros (k : ℕ) : Digits (List.replicate k '0') := by
  intro c hc
  rw [List.eq_of_mem_replicate hc]
  rfl

theorem filterMap_asciiDigit {ds : List Char} (h : Digits ds) :
    ds.filterMap asciiDigit? = ds.map fun c => c.toNat - '0'.toNat := by
  rw [← List.filterMap_eq_map]
  refine List.filterMap_congr fun c hc => ?_
  simp [asciiDigit?, h c hc]

theorem length_filterMap_asciiDigit {ds : List Char} (h : Digits ds) :
    (ds.filterMap asciiDigit?).length = ds.length := by
  rw [filterMap_asciiDigit h, List.length_map]

theorem digitSpan_append {ds rest : List Char} (h : Digits ds) (hrest : NoDigit rest) :
    digitSpan (ds ++ rest) = (ds.filterMap asciiDigit?, rest) := by
  have htake : rest.takeWhile Char.isDigit = [] := by
    cases rest with
    | nil => rfl
    | cons c cs => simp [hrest c rfl]
  have hdrop : rest.dropWhile Char.isDigit = rest := by
    cases rest with
    | nil => rfl
    | cons c cs => simp [hrest c rfl]
  unfold digitSpan
  rw [List.takeWhile_append_of_pos h, List.dropWhile_append_of_pos h, htake, hdrop, List.append_nil]

theorem foldl_digits (ds : List ℕ) (n : ℕ) :
    ds.foldl (fun n d => 10 * n + d) n = n * 10 ^ ds.length + ofDigits ds := by
  induction ds generalizing n with
  | nil => simp [ofDigits]
  | cons d ds ih =>
    rw [ofDigits, List.foldl_cons, List.foldl_cons, ih, ih (10 * 0 + d), List.length_cons]
    ring

@[simp] theorem ofDigits_append (as bs : List ℕ) :
    ofDigits (as ++ bs) = ofDigits as * 10 ^ bs.length + ofDigits bs := by
  rw [ofDigits, List.foldl_append, foldl_digits, ← ofDigits]

theorem numeral_append (as : List Char) {bs : List Char} (hb : Digits bs) :
    numeral (as ++ bs) = numeral as * 10 ^ bs.length + numeral bs := by
  rw [numeral, List.filterMap_append, ofDigits_append, length_filterMap_asciiDigit hb]
  rfl

@[simp] theorem numeral_zeros (k : ℕ) : numeral (List.replicate k '0') = 0 := by
  induction k with
  | zero => rfl
  | succ k ih =>
    rw [List.replicate_succ, ← List.singleton_append, numeral_append _ (digits_zeros k), ih,
      show numeral ['0'] = 0 from rfl, zero_mul]

theorem numeral_eq_ofDigitChars {ds : List Char} (h : Digits ds) :
    numeral ds = Nat.ofDigitChars 10 ds 0 := by
  rw [numeral, filterMap_asciiDigit h, ofDigits, List.foldl_map]
  rfl

@[simp] theorem numeral_toDigits (n : ℕ) : numeral (Nat.toDigits 10 n) = n := by
  rw [numeral_eq_ofDigitChars (digits_toDigits n), Nat.ofDigitChars_ten_toDigits]

/-- A positive number has no zero in front. -/
theorem head_toDigits_ne_zero {n : ℕ} (hn : 0 < n) : (Nat.toDigits 10 n).head? ≠ some '0' := by
  induction n using Nat.strongRecOn with
  | _ n ih =>
    rcases Nat.lt_or_ge n 10 with h | h
    · rw [Nat.toDigits_of_lt_base h]
      simp only [List.head?_cons, ne_eq, Option.some.injEq, Nat.digitChar_eq_zero]
      omega
    · rw [Nat.toDigits_of_base_le (by norm_num) h,
        List.head?_append_of_ne_nil _ Nat.toDigits_ne_nil]
      exact ih (n / 10) (by omega) (by omega)

/-! ## Parts of a numeral -/

/-- A text does not go on with a numeral. -/
def Closed (cs : List Char) : Prop := ∀ c ∈ cs.head?, c.isDigit = false ∧ c ≠ '.' ∧
  c ≠ 'e' ∧ c ≠ 'E'

theorem Closed.noDigit {cs : List Char} (h : Closed cs) : NoDigit cs := fun c hc => (h c hc).1

theorem noDigit_cons {c : Char} (hc : c.isDigit = false) (cs : List Char) : NoDigit (c :: cs) := by
  intro d hd
  obtain rfl : c = d := by simpa using hd
  exact hc

theorem splitExponent_of_closed {cs : List Char} (h : Closed cs) : splitExponent cs = (0, cs) := by
  cases cs with
  | nil => rfl
  | cons c cs =>
    obtain ⟨-, -, h1, h2⟩ := h c rfl
    simp [splitExponent, h1, h2]

theorem splitExponent_exponentText (e : ℤ) {rest : List Char} (h : NoDigit rest) :
    splitExponent (Double.exponentText e ++ rest) = (e, rest) := by
  -- the digits, perhaps with a zero in front, spell the size of the exponent
  obtain ⟨ds, hds, hne, hnum, htext⟩ : ∃ ds, Digits ds ∧ ds ≠ [] ∧ numeral ds = e.natAbs ∧
      Double.exponentText e = 'e' :: (if e < 0 then '-' else '+') :: ds := by
    have hdigits := digits_toDigits e.natAbs
    by_cases hlen : (Nat.toDigits 10 e.natAbs).length < 2
    · refine ⟨_, Digits.append (digits_zeros 1) hdigits, by simp, ?_, ?_⟩
      · rw [numeral_append _ hdigits, numeral_zeros, numeral_toDigits, zero_mul, zero_add]
      · simp only [Double.exponentText, if_pos hlen]
        rfl
    · refine ⟨_, hdigits, Nat.toDigits_ne_nil, numeral_toDigits _, ?_⟩
      simp only [Double.exponentText, if_neg hlen]
  have hvals : ds.filterMap asciiDigit? ≠ [] := by
    rw [filterMap_asciiDigit hds]
    simpa using hne
  rw [htext]
  obtain ⟨v, vs, hv⟩ := List.exists_cons_of_ne_nil hvals
  have hof : (ofDigits (v :: vs) : ℤ) = e.natAbs := by rw [← hv]; exact_mod_cast hnum
  split_ifs with he
  · simp only [List.cons_append, splitExponent, splitSign, digitSpan_append hds h, hv, hof]
    simp only [decide_true, Bool.true_or, ↓reduceIte, Prod.mk.injEq, and_true]
    omega
  · simp only [List.cons_append, splitExponent, splitSign, digitSpan_append hds h, hv, hof]
    simp only [decide_true, Bool.true_or, Bool.false_eq_true, ↓reduceIte, Prod.mk.injEq, and_true]
    omega

end Text

namespace Json

open Text

/-- Digits of a whole number: a zero alone, or a run without a zero in front. -/
def Whole (ds : List Char) : Prop := ds = ['0'] ∨ Digits ds ∧ ds ≠ [] ∧ ds.head? ≠ some '0'

theorem Whole.digits {ds : List Char} (h : Whole ds) : Digits ds := by
  rcases h with rfl | h
  · exact digits_zeros 1
  · exact h.1

theorem splitWhole_append {ds rest : List Char} (h : Whole ds) (hrest : NoDigit rest) :
    splitWhole (ds ++ rest) = some (ds.filterMap asciiDigit?, rest) := by
  rcases h with rfl | ⟨hds, hne, hzero⟩
  · rfl
  · rw [← digitSpan_append hds hrest]
    cases ds with
    | nil => exact absurd rfl hne
    | cons c cs =>
      have hc : c ≠ '0' := fun h => hzero (by rw [h]; rfl)
      have hd : c.isDigit = true := hds c List.mem_cons_self
      simp [splitWhole, hd]

theorem splitFraction_append {ds rest : List Char} (hds : Digits ds) (hne : ds ≠ [])
    (hrest : NoDigit rest) :
    splitFraction ('.' :: (ds ++ rest)) = (some (ds.filterMap asciiDigit?), rest) := by
  have hvals : ds.filterMap asciiDigit? ≠ [] := by
    rw [filterMap_asciiDigit hds]
    simpa using hne
  obtain ⟨v, vs, hv⟩ := List.exists_cons_of_ne_nil hvals
  simp only [splitFraction, digitSpan_append hds hrest, hv]

theorem splitFraction_of_ne {cs : List Char} (h : cs.head? ≠ some '.') :
    splitFraction cs = (none, cs) := by
  cases cs with
  | nil => rfl
  | cons c cs =>
    have hc : c ≠ '.' := fun hc => h (by rw [hc]; rfl)
    simp [splitFraction, hc]

/-- The minus sign of a negative number. -/
def minus (negative : Bool) : List Char := if negative then ['-'] else []

theorem Whole.head_ne_minus {ds : List Char} (h : Whole ds) (rest : List Char) :
    ∀ cs, ds ++ rest ≠ '-' :: cs := by
  intro cs heq
  rcases h with rfl | ⟨hds, hne, -⟩
  · simp at heq
  · cases ds with
    | nil => exact hne rfl
    | cons c ds =>
      obtain rfl : c = '-' := by simpa using (List.cons.inj heq).1
      exact absurd (hds '-' List.mem_cons_self) (by decide)

/-- A sign, a whole number and what follows it, as `readNumber` cuts them. -/
theorem readNumber_parts {ds rest : List Char} (hds : Whole ds) (hrest : NoDigit rest)
    {fraction : Option (List ℕ)} {afterFraction after : List Char} {e : ℤ}
    (hfraction : splitFraction rest = (fraction, afterFraction))
    (hexponent : splitExponent afterFraction = (e, after)) (s : Bool) :
    readNumber (minus s ++ (ds ++ rest)) =
      if fraction.isNone && after.length = afterFraction.length then
        if digitLimit < (ds.filterMap asciiDigit?).length then
          .error (.tooManyDigits (ds.filterMap asciiDigit?).length)
        else .ok (.int (if s then -(numeral ds : ℤ) else numeral ds), after)
      else .ok (.float (decimalDouble s (ds.filterMap asciiDigit?) (fraction.getD []) e),
        after) := by
  unfold readNumber
  split
  rename_i negative body heq
  obtain ⟨rfl, rfl⟩ : negative = s ∧ body = ds ++ rest := by
    cases s with
    | true =>
      split at heq
      · rename_i cs hcs
        obtain ⟨rfl, rfl⟩ := Prod.mk.inj heq
        exact ⟨rfl, (List.cons.inj hcs).2.symm⟩
      · rename_i hcs
        exact (hcs _ rfl).elim
    | false =>
      split at heq
      · rename_i cs hcs
        exact absurd hcs (hds.head_ne_minus rest cs)
      · obtain ⟨rfl, rfl⟩ := Prod.mk.inj heq
        exact ⟨rfl, rfl⟩
  simp only [splitWhole_append hds hrest, hfraction, hexponent, numeral]

section ReadNumber

variable {ds rest : List Char} (hds : Whole ds)

include hds

/-- A whole number in front of what is no numeral is an integer. -/
theorem readNumber_whole (hrest : Closed rest) (hlimit : ds.length ≤ digitLimit) (s : Bool) :
    readNumber (minus s ++ (ds ++ rest)) =
      .ok (.int (if s then -(numeral ds : ℤ) else numeral ds), rest) := by
  have hpoint : rest.head? ≠ some '.' := fun h => (hrest '.' h).2.1 rfl
  rw [readNumber_parts hds hrest.noDigit (splitFraction_of_ne hpoint)
    (splitExponent_of_closed hrest) s, length_filterMap_asciiDigit hds.digits, if_pos (by simp),
    if_neg (by omega)]

/-- A whole number with too many digits is not read. -/
theorem readNumber_tooManyDigits (hrest : Closed rest)
    (hlimit : digitLimit < ds.length) (s : Bool) :
    readNumber (minus s ++ (ds ++ rest)) = .error (.tooManyDigits ds.length) := by
  have hpoint : rest.head? ≠ some '.' := fun h => (hrest '.' h).2.1 rfl
  rw [readNumber_parts hds hrest.noDigit (splitFraction_of_ne hpoint)
    (splitExponent_of_closed hrest) s, length_filterMap_asciiDigit hds.digits, if_pos (by simp),
    if_pos hlimit]

/-- A whole number with a fraction or an exponent behind it is a double. -/
theorem readNumber_decimal {fraction : Option (List ℕ)} {afterFraction after : List Char} {e : ℤ}
    (hrest : NoDigit rest) (hfraction : splitFraction rest = (fraction, afterFraction))
    (hexponent : splitExponent afterFraction = (e, after))
    (hlong : fraction.isSome = true ∨ after.length < afterFraction.length) (s : Bool) :
    readNumber (minus s ++ (ds ++ rest)) =
      .ok (.float (decimalDouble s (ds.filterMap asciiDigit?) (fraction.getD []) e), after) := by
  rw [readNumber_parts hds hrest hfraction hexponent s, if_neg]
  rw [Bool.and_eq_true, decide_eq_true_eq, Option.isNone_iff_eq_none]
  rintro ⟨rfl, h2⟩
  rcases hlong with h | h
  · exact absurd h (by simp)
  · omega

end ReadNumber

/-! ## Integers -/

theorem whole_toDigits (n : ℕ) : Whole (Nat.toDigits 10 n) := by
  rcases Nat.eq_zero_or_pos n with rfl | hn
  · exact Or.inl (Nat.toDigits_zero 10)
  · exact Or.inr ⟨digits_toDigits n, Nat.toDigits_ne_nil, head_toDigits_ne_zero hn⟩

theorem toList_toString (i : ℤ) :
    (toString i).toList = minus (decide (i < 0)) ++ Nat.toDigits 10 i.natAbs := by
  change i.repr.toList = _
  rw [Int.repr_eq_if]
  split_ifs with h
  · have hn : ¬ i < 0 := by omega
    simp only [hn, decide_false, minus, Nat.toList_repr]
    rw [show i.toNat = i.natAbs by omega]
    rfl
  · have hn : i < 0 := by omega
    simp only [hn, decide_true, minus, String.toList_append, Nat.toList_repr]
    rw [show (-i).toNat = i.natAbs by omega]
    rfl

/-- **The numeral of an integer within the limit reads as that integer.** -/
theorem readNumber_int {i : ℤ} (hi : (Nat.toDigits 10 i.natAbs).length ≤ digitLimit)
    {rest : List Char} (hrest : Closed rest) :
    readNumber ((toString i).toList ++ rest) = .ok (.int i, rest) := by
  rw [toList_toString, List.append_assoc, readNumber_whole (whole_toDigits _) hrest hi,
    numeral_toDigits]
  have hsign : (if decide (i < 0) = true then -(i.natAbs : ℤ) else i.natAbs) = i := by
    split_ifs with h <;> simp only [decide_eq_true_eq] at h <;> omega
  rw [hsign]

/-! ## Doubles -/

theorem decimalDouble_digits (s : Bool) (ds : List Char) {fs : List Char}
    (hfs : Digits fs) (e : ℤ) :
    decimalDouble s (ds.filterMap asciiDigit?) (fs.filterMap asciiDigit?) e =
      Double.ofDecimal s (numeral (ds ++ fs)) (e - fs.length) := by
  rw [decimalDouble, ← List.filterMap_append, length_filterMap_asciiDigit hfs]
  rfl

/-- A numeral without the zeros at its end. -/
theorem exists_stripZeros (ds : List Char) :
    ∃ k, ds = Double.stripZeros ds ++ List.replicate k '0' := by
  refine ⟨(ds.reverse.takeWhile (· == '0')).length, ?_⟩
  have hzeros : ds.reverse.takeWhile (· == '0') =
      List.replicate (ds.reverse.takeWhile (· == '0')).length '0' := by
    refine List.eq_replicate_of_mem fun c hc => ?_
    simpa using List.mem_takeWhile_imp hc
  have hsplit := List.takeWhile_append_dropWhile (p := (· == '0')) (l := ds.reverse)
  rw [Double.stripZeros, ← List.reverse_replicate, ← hzeros, ← List.reverse_append, hsplit,
    List.reverse_reverse]

section LayOut

variable {ds : List Char} (hds : Digits ds) (hne : ds ≠ []) (hhead : ds.head? ≠ some '0')
  {rest : List Char} (hrest : Closed rest)

include hds hne hrest

/-- Digits behind the point: zeros fill the places up to the first of them. -/
theorem readNumber_layOut_small {e : ℤ} (hpos : Double.isPositional e = true)
    (he : e < 0) (s : Bool) :
    readNumber (minus s ++ (Double.layOut ds e ++ rest)) =
      .ok (.float (.ofDecimal s (numeral ds) (e + 1 - ds.length)), rest) := by
  have hfs : Digits (List.replicate (-e - 1).toNat '0' ++ ds) := Digits.append (digits_zeros _) hds
  have htext : Double.layOut ds e ++ rest =
      ['0'] ++ '.' :: (List.replicate (-e - 1).toNat '0' ++ ds ++ rest) := by
    simp only [Double.layOut, if_pos hpos, if_pos he, List.cons_append, List.nil_append]
  rw [htext, readNumber_decimal (Or.inl rfl) (noDigit_cons rfl _)
    (splitFraction_append hfs (by simp [hne]) hrest.noDigit) (splitExponent_of_closed hrest)
    (Or.inl rfl), Option.getD_some, decimalDouble_digits _ _ hfs, numeral_append _ hfs,
    numeral_append _ hds, numeral_zeros, show numeral ['0'] = 0 from rfl, zero_mul, zero_mul,
    zero_add, zero_add]
  congr 4
  rw [List.length_append, List.length_replicate]
  omega

include hhead

/-- Digits around the point, or before it with zeros up to it. -/
theorem readNumber_layOut_large {e : ℤ} (hpos : Double.isPositional e = true)
    (he : ¬ e < 0) (s : Bool) :
    ∃ (digits : ℕ) (p : ℤ),
      readNumber (minus s ++ (Double.layOut ds e ++ rest)) =
        .ok (.float (.ofDecimal s digits p), rest) ∧
        (digits : ℚ) * 10 ^ p = numeral ds * 10 ^ (e + 1 - ds.length) := by
  set whole := e.toNat + 1 with hwhole
  set front := ds.take whole ++ List.replicate (whole - ds.length) '0' with hfront
  set back := if (ds.drop whole).isEmpty then ['0'] else ds.drop whole with hback
  have htext : Double.layOut ds e ++ rest = front ++ '.' :: (back ++ rest) := by
    simp only [Double.layOut, if_pos hpos, if_neg he, ← hwhole, ← hfront, ← hback,
      List.append_assoc, List.cons_append]
  have hsplit := hds
  rw [← List.take_append_drop whole ds] at hsplit
  obtain ⟨htake, hdrop⟩ := hsplit.of_append
  have hbackDigits : Digits back := by
    rw [hback]
    split_ifs
    · exact digits_zeros 1
    · exact hdrop
  have hbackNe : back ≠ [] := by
    rw [hback]
    split_ifs with h
    · simp
    · simpa using h
  have hfrontWhole : Whole front := by
    refine Or.inr ⟨Digits.append htake (digits_zeros _), ?_, ?_⟩
    · simp [hfront, hne, hwhole]
    · cases ds with
      | nil => exact absurd rfl hne
      | cons c cs => simpa [hfront, hwhole] using hhead
  refine ⟨numeral (front ++ back), 0 - back.length, ?_, ?_⟩
  · rw [htext, readNumber_decimal hfrontWhole (noDigit_cons rfl _)
      (splitFraction_append hbackDigits hbackNe hrest.noDigit) (splitExponent_of_closed hrest)
      (Or.inl rfl), Option.getD_some, decimalDouble_digits _ _ hbackDigits]
  · rw [zero_sub]
    rcases Nat.lt_or_ge whole ds.length with hlen | hlen
    · have hb : back = ds.drop whole := by
        rw [hback, if_neg]
        simp [hlen]
      have hf : front = ds.take whole := by
        rw [hfront, show whole - ds.length = 0 by omega, List.replicate_zero, List.append_nil]
      rw [hf, hb, List.take_append_drop, List.length_drop]
      congr 2
      omega
    · have hb : back = List.replicate 1 '0' := by
        rw [hback, if_pos (by simp [hlen])]
        rfl
      have hf : front = ds ++ List.replicate (whole - ds.length) '0' := by
        rw [hfront, List.take_of_length_le hlen]
      have hexp : e + 1 - ds.length = ((whole - ds.length : ℕ) : ℤ) := by omega
      rw [hf, hb, numeral_append _ (digits_zeros 1), numeral_append _ (digits_zeros _),
        numeral_zeros, numeral_zeros, List.length_replicate, List.length_replicate, hexp,
        zpow_natCast]
      norm_num
      ring

/-- One digit before the point, and an exponent. -/
theorem readNumber_layOut_exponent {e : ℤ} (hpos : ¬ Double.isPositional e = true) (s : Bool) :
    readNumber (minus s ++ (Double.layOut ds e ++ rest)) =
      .ok (.float (.ofDecimal s (numeral ds) (e + 1 - ds.length)), rest) := by
  have hexpNoDigit : NoDigit (Double.exponentText e ++ rest) := noDigit_cons rfl _
  have hexpLong : rest.length < (Double.exponentText e ++ rest).length := by
    rw [List.length_append]
    exact Nat.lt_add_of_pos_left (Nat.succ_pos _)
  match ds, hne with
  | [d], _ =>
    have htext : Double.layOut [d] e ++ rest = [d] ++ (Double.exponentText e ++ rest) := by
      simp only [Double.layOut, if_neg hpos, List.cons_append, List.nil_append]
    have hpoint : (Double.exponentText e ++ rest).head? ≠ some '.' := by
      simp [Double.exponentText]
    rw [htext, readNumber_decimal (Or.inr ⟨hds, by simp, hhead⟩) hexpNoDigit
      (splitFraction_of_ne hpoint) (splitExponent_exponentText e hrest.noDigit) (Or.inr hexpLong)]
    have := @decimalDouble_digits s [d] [] (by simp [Digits]) e
    simp only [List.filterMap_nil, List.append_nil, List.length_nil, Nat.cast_zero] at this
    rw [Option.getD_none, this]
    congr 4
    simp
  | d :: d' :: more, _ =>
    have hmore : Digits (d' :: more) := fun c hc => hds c (List.mem_cons_of_mem _ hc)
    have hfirst : Whole [d] := Or.inr ⟨fun c hc => hds c (by
      obtain rfl := List.mem_singleton.1 hc
      exact List.mem_cons_self), by simp, hhead⟩
    have htext : Double.layOut (d :: d' :: more) e ++ rest =
        [d] ++ '.' :: (d' :: more ++ (Double.exponentText e ++ rest)) := by
      simp only [Double.layOut, if_neg hpos, List.cons_append, List.nil_append, List.append_assoc]
    rw [htext, readNumber_decimal hfirst (noDigit_cons rfl _)
      (splitFraction_append hmore (by simp) hexpNoDigit)
      (splitExponent_exponentText e hrest.noDigit)
      (Or.inl rfl), Option.getD_some, decimalDouble_digits _ _ hmore]
    congr 4
    simp only [List.length_cons]
    push_cast
    ring

/-- **A layout of digits reads as the double nearest to what they stand for.** -/
theorem readNumber_layOut (e : ℤ) (s : Bool) : ∃ (digits : ℕ) (p : ℤ),
    readNumber (minus s ++ (Double.layOut ds e ++ rest)) =
      .ok (.float (.ofDecimal s digits p), rest) ∧
      (digits : ℚ) * 10 ^ p = numeral ds * 10 ^ (e + 1 - ds.length) := by
  by_cases hpos : Double.isPositional e = true
  · by_cases he : e < 0
    · exact ⟨_, _, readNumber_layOut_small hds hne hrest hpos he s, rfl⟩
    · exact readNumber_layOut_large hds hne hhead hrest hpos he s
  · exact ⟨_, _, readNumber_layOut_exponent hds hne hhead hrest hpos s, rfl⟩

end LayOut

/-- **The text of a finite double reads as that double.** -/
theorem readNumber_text (s : Bool) (m : ℕ) (e : ℤ) (hfits : Fits m e) {rest : List Char}
    (hrest : Closed rest) :
    readNumber ((Double.finite s m e hfits).text.toList ++ rest) =
      .ok (.float (.finite s m e hfits), rest) := by
  have htext : (Double.finite s m e hfits).text.toList = minus s ++ Double.magnitudeText m e := by
    simp only [Double.text, String.toList_ofList]
    rfl
  rw [htext, List.append_assoc]
  rcases Nat.eq_zero_or_pos m with rfl | hm
  · obtain rfl : e = -1074 := by
      rcases hfits.normal with h | h
      · exact absurd h (by norm_num)
      · exact h
    have hzero : Digits ['0'] := digits_zeros 1
    rw [show Double.magnitudeText 0 (-1074) ++ rest = ['0'] ++ '.' :: (['0'] ++ rest) from rfl,
      readNumber_decimal (Or.inl rfl) (noDigit_cons rfl _)
        (splitFraction_append hzero (by simp) hrest.noDigit) (splitExponent_of_closed hrest)
        (Or.inl rfl)]
    rfl
  · obtain ⟨k, hk⟩ := exists_stripZeros (Nat.toDigits 10 (Double.shortest m e).1)
    have hrounds := Double.rounds_shortest hm hfits
    set a := (Double.shortest m e).1 with ha
    set p := (Double.shortest m e).2 with hp
    have hapos : 0 < a := by
      rcases Nat.eq_zero_or_pos a with h | h
      · have hlow := (hrounds.range hm hfits).1
        rw [h, Nat.cast_zero, zero_mul] at hlow
        exact absurd hlow (not_le.2 (Double.ten_zpow_pos _))
      · exact h
    set ds := Double.stripZeros (Nat.toDigits 10 a) with hds
    have hdigits : Digits ds := by
      have := digits_toDigits a
      rw [hk] at this
      exact this.of_append.1
    have hnum : a = numeral ds * 10 ^ k := by
      have := numeral_toDigits a
      rw [hk, numeral_append _ (digits_zeros k), numeral_zeros, List.length_replicate] at this
      omega
    have hne : ds ≠ [] := by
      intro h
      rw [h, show numeral [] = 0 from rfl, zero_mul] at hnum
      omega
    have hhead : ds.head? ≠ some '0' := by
      have := head_toDigits_ne_zero hapos
      rwa [hk, List.head?_append_of_ne_nil _ hne] at this
    have hlen : ((Nat.toDigits 10 a).length : ℤ) = ds.length + k := by
      rw [hk, List.length_append, List.length_replicate]
      push_cast
      rfl
    have hlay : Double.magnitudeText m e =
        Double.layOut ds (p + (Nat.toDigits 10 a).length - 1) := by
      simp only [Double.magnitudeText, if_neg hm.ne']
      rfl
    obtain ⟨digits, q, hread, hval⟩ :=
      readNumber_layOut hdigits hne hhead hrest (p + (Nat.toDigits 10 a).length - 1) s
    rw [hlay, hread, Double.ofDecimal_eq_finite hm hfits]
    rw [hval, show p + ((Nat.toDigits 10 a).length : ℤ) - 1 + 1 - ds.length = k + p by omega,
      zpow_add₀ (by norm_num), zpow_natCast, ← mul_assoc]
    rw [hnum] at hrounds
    exact_mod_cast hrounds

end Json

end SourceSurvey
