import SourceSurvey.Proofs.Json.Numeral
import SourceSurvey.Proofs.Json.Strings

/-!
# Values read back

`Storable v` says that a JSON text can hold `v`: its integers have no more digits than are read, no
object has a field twice, and it holds no moments.  The text of such a value, with any indent and at
any level, reads as that value, whatever may follow a value stands behind it.

* `Opens`, `Ends`: what a value starts with and what stands behind one;
* `ReadsBack`, which passes from the parts of a list or an object to the whole;
* `read_valueText` and `Storable.ascii`, for every storable value.
-/

namespace SourceSurvey.Json

open Text (Closed)

/-! ## What may stand around a value -/

/-- A text that starts neither with white space nor with a closing bracket. -/
def Opens (cs : List Char) : Prop := ∃ c ∈ cs.head?, isSpace c = false ∧ c ≠ ']' ∧ c ≠ '\x7d'

/-- A text as it stands behind a value. -/
def Ends (cs : List Char) : Prop := ∀ c ∈ cs.head?, c = ',' ∨ c = ']' ∨ c = '\x7d' ∨ c = '\n'

theorem Opens.append {cs : List Char} (h : Opens cs) (ds : List Char) : Opens (cs ++ ds) := by
  obtain ⟨c, hc, hopen⟩ := h
  exact ⟨c, by rw [List.head?_append, hc]; rfl, hopen⟩

theorem opens_cons {c : Char} (hc : isSpace c = false ∧ c ≠ ']' ∧ c ≠ '\x7d') (cs : List Char) :
    Opens (c :: cs) := ⟨c, rfl, hc⟩

theorem Opens.skipSpace {cs : List Char} (h : Opens cs) : skipSpace cs = cs := by
  obtain ⟨c, hc, hspace, -⟩ := h
  cases cs with
  | nil => exact absurd hc (by simp)
  | cons d ds =>
    obtain rfl : d = c := by simpa using hc
    simp [Json.skipSpace, hspace]

theorem ends_nil : Ends [] := fun _ h => absurd h (by simp)

theorem Ends.closed {cs : List Char} (h : Ends cs) : Closed cs := by
  intro c hc
  rcases h c hc with rfl | rfl | rfl | rfl <;> decide

theorem skipSpace_append {gap : List Char} (hgap : ∀ c ∈ gap, isSpace c = true) (cs : List Char) :
    skipSpace (gap ++ cs) = skipSpace cs :=
  List.dropWhile_append_of_pos hgap

variable {indent : Option ℕ} {level : ℕ}

theorem isSpace_of_mem_lineBreak : ∀ c ∈ lineBreak indent level, isSpace c = true := by
  intro c hc
  cases indent with
  | none => exact absurd hc (by simp [lineBreak])
  | some width =>
    simp only [lineBreak, List.mem_cons, List.mem_replicate] at hc
    rcases hc with rfl | ⟨-, rfl⟩ <;> decide

@[simp] theorem skipSpace_lineBreak (cs : List Char) :
    skipSpace (lineBreak indent level ++ cs) = skipSpace cs :=
  skipSpace_append isSpace_of_mem_lineBreak cs

/-- Behind a comma white space is skipped up to the next part. -/
theorem skipSpace_separator (indent : Option ℕ) (level : ℕ) {cs : List Char} (h : Opens cs) :
    ∃ more, skipSpace (separator indent level ++ cs) = ',' :: more ∧ skipSpace more = cs := by
  cases indent with
  | none => exact ⟨' ' :: cs, rfl, h.skipSpace⟩
  | some width =>
    exact ⟨lineBreak (some width) level ++ cs, rfl, by rw [skipSpace_lineBreak, h.skipSpace]⟩

theorem ends_separator (cs : List Char) : Ends (separator indent level ++ cs) := by
  cases indent <;> simp [Ends, separator]

theorem length_separator_pos : 0 < (separator indent level).length := by
  cases indent <;> simp [separator]

theorem ends_lineBreak {c : Char} (hc : c = ']' ∨ c = '\x7d') (cs : List Char) :
    Ends (lineBreak indent level ++ c :: cs) := by
  intro d hd
  cases indent with
  | none =>
    obtain rfl : c = d := by simpa [lineBreak] using hd
    exact Or.inr (hc.imp_right Or.inl)
  | some width =>
    obtain rfl : '\n' = d := by simpa [lineBreak] using hd
    exact Or.inr (Or.inr (Or.inr rfl))

theorem skipSpace_closing {c : Char} (hc : c = ']' ∨ c = '\x7d') (cs : List Char) :
    skipSpace (lineBreak indent level ++ c :: cs) = c :: cs := by
  rw [skipSpace_lineBreak]
  rcases hc with rfl | rfl <;> rfl

/-! ## Numbers and words -/

/-- A number starts with a digit, or with a sign and a digit. -/
theorem readNumber_head {cs : List Char} {r : Value × List Char} (h : readNumber cs = .ok r) :
    ∃ (c : Char) (tail : List Char), c.isDigit = true ∧
    (cs = c :: tail ∨ cs = '-' :: c :: tail) := by
  have hwhole : ∀ {body : List Char} {ds : List ℕ × List Char}, splitWhole body = some ds →
      ∃ c tail, c.isDigit = true ∧ body = c :: tail := by
    intro body ds hds
    unfold splitWhole at hds
    split at hds
    · exact ⟨_, _, rfl, rfl⟩
    · rename_i c _ _
      by_cases hc : c.isDigit = true
      · exact ⟨_, _, hc, rfl⟩
      · simp [hc] at hds
    · exact absurd hds (by simp)
  unfold readNumber at h
  split at h
  rename_i negative body heq
  cases hsplit : splitWhole body with
  | none => simp [hsplit] at h
  | some ds =>
    obtain ⟨c, tail, hc, hbody⟩ := hwhole hsplit
    split at heq
    · obtain ⟨-, rfl⟩ := Prod.mk.inj heq
      exact ⟨c, tail, hc, Or.inr (by rw [hbody])⟩
    · obtain ⟨-, rfl⟩ := Prod.mk.inj heq
      exact ⟨c, tail, hc, Or.inl hbody⟩

theorem readWord_of_digit {c : Char} (hc : c.isDigit = true) (tail : List Char) :
    readWord? (c :: tail) = none ∧ readWord? ('-' :: c :: tail) = none := by
  have hne : ∀ d : Char, d.isDigit = false → d ≠ c := by
    rintro d hd rfl
    exact absurd hc (by simp [hd])
  constructor
  · simp [readWord?, words, hne]
  · simp [readWord?, words, hne]

/-- Where a number stands in front, a value is read as that number. -/
theorem readValue_of_readNumber {cs : List Char} {r : Value × List Char} (h : readNumber cs = .ok r)
    (fuel : ℕ) : readValue (fuel + 1) cs = .ok r := by
  obtain ⟨c, tail, hc, hcs⟩ := readNumber_head h
  have hword : readWord? cs = none := by
    rcases hcs with rfl | rfl
    · exact (readWord_of_digit hc tail).1
    · exact (readWord_of_digit hc tail).2
  have hhead : ∀ d : Char, d.isDigit = false → d ≠ '-' → ∀ rest, cs ≠ d :: rest := by
    rintro d hd hminus rest rfl
    rcases hcs with hcs | hcs
    · rw [(List.cons.inj hcs).1, hc] at hd
      exact absurd hd (by simp)
    · exact hminus (List.cons.inj hcs).1
  rw [readValue, hword, h]
  · exact hhead '"' (by decide) (by decide)
  · exact hhead '[' (by decide) (by decide)
  · exact hhead '\x7b' (by decide) (by decide)

theorem opens_of_readNumber {cs : List Char} {r : Value × List Char} (h : readNumber cs = .ok r) :
    Opens cs := by
  have hdigit : ∀ c : Char, c.isDigit = true → isSpace c = false ∧ c ≠ ']' ∧ c ≠ '\x7d' := by
    intro c hc
    refine ⟨?_, ?_, ?_⟩
    · by_contra hspace
      simp only [isSpace, Bool.not_eq_false, Bool.or_eq_true, beq_iff_eq] at hspace
      rcases hspace with ((rfl | rfl) | rfl) | rfl <;> exact absurd hc (by decide)
    · rintro rfl
      exact absurd hc (by decide)
    · rintro rfl
      exact absurd hc (by decide)
  obtain ⟨c, tail, hc, rfl | rfl⟩ := readNumber_head h
  · exact opens_cons (hdigit c hc) tail
  · exact opens_cons (by decide) _

/-! ## Storable values -/

/-- A value that a JSON text can hold. -/
inductive Storable : Value → Prop
  | null : Storable .null
  | bool (b : Bool) : Storable (.bool b)
  | int {i : ℤ} (digits : (Nat.toDigits 10 i.natAbs).length ≤ Text.digitLimit) : Storable (.int i)
  | float (x : Double) : Storable (.float x)
  | str (s : String) : Storable (.str s)
  | list {items : List Value} (each : ∀ v ∈ items, Storable v) : Storable (.list items)
  | obj {fields : List (String × Value)} (distinct : (fields.map Prod.fst).Nodup)
      (each : ∀ f ∈ fields, Storable f.2) : Storable (.obj fields)

theorem opens_doubleText (x : Double) : Opens (doubleText x).toList := by
  cases x with
  | nan => exact opens_cons (by decide) _
  | infinite s => cases s <;> exact opens_cons (by decide) _
  | finite s m e hfits =>
    have h := readNumber_text s m e hfits ends_nil.closed
    rw [List.append_nil] at h
    exact opens_of_readNumber h

theorem Storable.opens {v : Value} (h : Storable v) : Opens (valueText indent level v) := by
  cases h with
  | null => exact opens_cons (by decide) _
  | bool b => cases b <;> exact opens_cons (by decide) _
  | int digits =>
    have h := readNumber_int digits ends_nil.closed
    rw [List.append_nil] at h
    rw [valueText]
    exact opens_of_readNumber h
  | float x =>
    rw [valueText]
    exact opens_doubleText x
  | str s =>
    rw [valueText, stringText]
    exact opens_cons (by decide) _
  | list _ =>
    rw [valueText]
    split_ifs <;> exact opens_cons (by decide) _
  | obj _ _ =>
    rw [valueText]
    split_ifs <;> exact opens_cons (by decide) _

/-! ## Reading back -/

/-- The text of a value at any level reads as the value, and stops at what stands behind it. -/
def ReadsBack (indent : Option ℕ) (v : Value) : Prop :=
  ∀ (level fuel : ℕ) (rest : List Char), Ends rest → (valueText indent level v).length ≤ fuel →
    readValue fuel (valueText indent level v ++ rest) = .ok (v, rest)

theorem Opens.length_pos {cs : List Char} (h : Opens cs) : 0 < cs.length := by
  obtain ⟨c, hc, -⟩ := h
  cases cs with
  | nil => exact absurd hc (by simp)
  | cons _ _ => exact Nat.succ_pos _

theorem opens_itemsText {v : Value} (hv : Storable v) (items : List Value) :
    Opens (itemsText indent level (v :: items)) := by
  cases items with
  | nil =>
    rw [itemsText]
    exact hv.opens
  | cons _ _ =>
    rw [itemsText, List.append_assoc]
    exact hv.opens.append _

/-- Items that read back do so one after the other, up to the closing bracket. -/
theorem readItems_itemsText {items : List Value} (hne : items ≠ [])
    (hstore : ∀ v ∈ items, Storable v) (hback : ∀ v ∈ items, ReadsBack indent v) {fuel : ℕ}
    (outer : ℕ) (rest : List Char) (hfuel : (itemsText indent level items).length < fuel) :
    readItems fuel (itemsText indent level items ++ (lineBreak indent outer ++ ']' :: rest)) =
      .ok (items, rest) := by
  induction items generalizing fuel with
  | nil => exact absurd rfl hne
  | cons v items ih =>
    obtain ⟨fuel, rfl⟩ := Nat.exists_eq_succ_of_ne_zero (Nat.ne_zero_of_lt hfuel)
    have hv : ReadsBack indent v := hback v List.mem_cons_self
    cases items with
    | nil =>
      rw [itemsText] at hfuel ⊢
      rw [readItems, hv _ _ _ (ends_lineBreak (Or.inl rfl) rest) (by omega)]
      simp only [bind, Except.bind, skipSpace_closing (Or.inl rfl)]
      rfl
    | cons w items =>
      have hopen : Opens (itemsText indent level (w :: items)) :=
        opens_itemsText (hstore w (by simp)) items
      have hsep : 0 < (separator indent level).length := length_separator_pos
      rw [itemsText] at hfuel ⊢
      simp only [List.length_append] at hfuel
      have hlt : (itemsText indent level (w :: items)).length < fuel := by omega
      have hmore := ih (by simp) (fun u hu => hstore u (List.mem_cons_of_mem _ hu))
        (fun u hu => hback u (List.mem_cons_of_mem _ hu)) hlt
      obtain ⟨more, hcomma, hskip⟩ :=
        skipSpace_separator indent level (hopen.append (lineBreak indent outer ++ ']' :: rest))
      rw [List.append_assoc, List.append_assoc, readItems, hv _ _ _ (ends_separator _) (by omega)]
      simp only [bind, Except.bind, hcomma, hskip, hmore]
      rfl

theorem opens_fieldsText (k : String) (v : Value) (fields : List (String × Value)) :
    Opens (fieldsText indent level ((k, v) :: fields)) := by
  cases fields <;> exact opens_cons (by decide) _

theorem putField_of_not_mem {key : String} {done : List (String × Value)}
    (h : key ∉ done.map Prod.fst) (v : Value) : Value.putField key v done = done ++ [(key, v)] := by
  induction done with
  | nil => rfl
  | cons f done ih =>
    simp only [List.map_cons, List.mem_cons, not_or] at h
    simp [Value.putField, Ne.symm h.1, ih h.2]

/-- A field is read up to its value. -/
theorem readFields_stringText (k : String) {value : List Char} (hopen : Opens value) (fuel : ℕ)
    (done : List (String × Value)) :
    readFields (fuel + 1) done (stringText k ++ ':' :: ' ' :: value) = (do
      let (v, rest) ← readValue fuel value
      match skipSpace rest with
      | '\x7d' :: after => return (Value.putField k v done, after)
      | ',' :: more => readFields fuel (Value.putField k v done) (skipSpace more)
      | other => throw (.flaw .comma other.length)) := by
  have hskip : skipSpace (' ' :: value) = value := hopen.skipSpace
  conv_rhs => rw [← hskip]
  rw [stringText, List.cons_append, List.append_assoc, List.singleton_append, readFields,
    readString_stringText]
  rfl

/-- Fields that read back do so one after the other, up to the closing brace. -/
theorem readFields_fieldsText {fields : List (String × Value)} (hne : fields ≠ [])
    (hstore : ∀ f ∈ fields, Storable f.2) (hback : ∀ f ∈ fields, ReadsBack indent f.2) {fuel : ℕ}
    (done : List (String × Value)) (hkeys : ((done ++ fields).map Prod.fst).Nodup) (outer : ℕ)
    (rest : List Char)
    (hfuel : (fieldsText indent level fields).length < fuel) :
    readFields fuel done (fieldsText indent level fields ++
      (lineBreak indent outer ++ '\x7d' :: rest)) =
      .ok (done ++ fields, rest) := by
  induction fields generalizing fuel done with
  | nil => exact absurd rfl hne
  | cons f fields ih =>
    obtain ⟨k, v⟩ := f
    obtain ⟨fuel, rfl⟩ := Nat.exists_eq_succ_of_ne_zero (Nat.ne_zero_of_lt hfuel)
    have hv : ReadsBack indent v := hback (k, v) List.mem_cons_self
    have hopen : Opens (valueText indent level v) := (hstore (k, v) List.mem_cons_self).opens
    have hput : Value.putField k v done = done ++ [(k, v)] := by
      refine putField_of_not_mem ?_ v
      rw [List.map_append, List.nodup_append] at hkeys
      exact fun hk => hkeys.2.2 k hk k (by simp) rfl
    cases fields with
    | nil =>
      rw [fieldsText] at hfuel ⊢
      simp only [List.length_append, List.length_cons] at hfuel
      rw [List.append_assoc, List.cons_append, List.cons_append,
        readFields_stringText k (hopen.append _),
        hv _ _ _ (ends_lineBreak (Or.inr rfl) rest) (by omega)]
      simp only [bind, Except.bind, skipSpace_closing (Or.inr rfl), hput]
      rfl
    | cons g fields =>
      have hnext : Opens (fieldsText indent level (g :: fields)) := opens_fieldsText g.1 g.2 fields
      have hsep : 0 < (separator indent level).length := length_separator_pos
      rw [fieldsText] at hfuel ⊢
      simp only [List.length_append, List.length_cons] at hfuel
      have hlt : (fieldsText indent level (g :: fields)).length < fuel := by omega
      have hkeys : ((done ++ [(k, v)] ++ g :: fields).map Prod.fst).Nodup := by simpa using hkeys
      have hmore := ih (by simp) (fun u hu => hstore u (List.mem_cons_of_mem _ hu))
        (fun u hu => hback u (List.mem_cons_of_mem _ hu)) _ hkeys hlt
      obtain ⟨more, hcomma, hskip⟩ :=
        skipSpace_separator indent level (hnext.append (lineBreak indent outer ++ '\x7d' :: rest))
      simp only [List.append_assoc, List.cons_append] at hmore ⊢
      rw [readFields_stringText k (hopen.append _), hv _ _ _ (ends_separator _) (by omega)]
      simp only [bind, Except.bind, hcomma, hskip, hput, hmore]
      rfl

/-- No text is empty, so that there is always a first step. -/
theorem readsBack_of_succ {v : Value} (hv : Storable v)
    (h : ∀ (level fuel : ℕ) (rest : List Char), Ends rest →
      (valueText indent level v).length ≤ fuel + 1 →
        readValue (fuel + 1) (valueText indent level v ++ rest) = .ok (v, rest)) :
    ReadsBack indent v := by
  intro level fuel rest hrest hfuel
  have hpos : 0 < (valueText indent level v).length := hv.opens.length_pos
  obtain ⟨fuel, rfl⟩ := Nat.exists_eq_succ_of_ne_zero (by omega : fuel ≠ 0)
  exact h level fuel rest hrest hfuel

/-- Behind an opening bracket and a line break, items are read. -/
theorem readValue_bracket {inner : List Char} (hopen : Opens inner) (fuel : ℕ) :
    readValue (fuel + 1) ('[' :: (lineBreak indent level ++ inner)) =
      (readItems fuel inner).map fun (items, rest) => (.list items, rest) := by
  rw [readValue, skipSpace_lineBreak, hopen.skipSpace]
  obtain ⟨c, hc, -, hbracket, -⟩ := hopen
  split
  · exact absurd (by simpa using hc) hbracket.symm
  · rfl

/-- Behind an opening brace and a line break, fields are read. -/
theorem readValue_brace {inner : List Char} (hopen : Opens inner) (fuel : ℕ) :
    readValue (fuel + 1) ('\x7b' :: (lineBreak indent level ++ inner)) =
      (readFields fuel [] inner).map fun (fields, rest) => (.obj fields, rest) := by
  rw [readValue, skipSpace_lineBreak, hopen.skipSpace]
  obtain ⟨c, hc, -, -, hbrace⟩ := hopen
  split
  · exact absurd (by simpa using hc) hbrace.symm
  · rfl

theorem readValue_doubleText (x : Double) (fuel : ℕ) {rest : List Char} (hrest : Ends rest) :
    readValue (fuel + 1) ((doubleText x).toList ++ rest) = .ok (.float x, rest) := by
  cases x with
  | nan => rfl
  | infinite s => cases s <;> rfl
  | finite s m e hfits =>
    exact readValue_of_readNumber (readNumber_text s m e hfits hrest.closed) fuel

/-- **Every storable value reads back.** -/
theorem Storable.readsBack {v : Value} (h : Storable v) : ReadsBack indent v := by
  induction h with
  | null => exact readsBack_of_succ .null fun _ _ _ _ _ => rfl
  | bool b => cases b <;> exact readsBack_of_succ (.bool _) fun _ _ _ _ _ => rfl
  | int digits =>
    refine readsBack_of_succ (.int digits) fun level fuel rest hrest _ => ?_
    rw [valueText]
    exact readValue_of_readNumber (readNumber_int digits hrest.closed) fuel
  | float x =>
    refine readsBack_of_succ (.float x) fun level fuel rest hrest _ => ?_
    rw [valueText]
    exact readValue_doubleText x fuel hrest
  | str s =>
    refine readsBack_of_succ (.str s) fun level fuel rest _ _ => ?_
    rw [valueText, stringText, List.cons_append, List.append_assoc,
      List.singleton_append, readValue, readString_stringText]
    rfl
  | @list items each ih =>
    refine readsBack_of_succ (.list each) fun level fuel rest _ hfuel => ?_
    rw [valueText] at hfuel ⊢
    cases items with
    | nil => rfl
    | cons v items =>
      have hopen : Opens (itemsText indent (level + 1) (v :: items)) :=
        opens_itemsText (each v List.mem_cons_self) items
      simp only [List.isEmpty_cons, Bool.false_eq_true, if_false, List.length_cons,
        List.length_append, List.length_nil] at hfuel ⊢
      have hlt : (itemsText indent (level + 1) (v :: items)).length < fuel := by omega
      have hitems := readItems_itemsText (by simp) each ih level rest hlt
      simp only [List.cons_append, List.append_assoc, List.nil_append]
      rw [readValue_bracket (hopen.append _), hitems]
      rfl
  | @obj fields distinct each ih =>
    refine readsBack_of_succ (.obj distinct each) fun level fuel rest _ hfuel => ?_
    rw [valueText] at hfuel ⊢
    cases fields with
    | nil => rfl
    | cons f fields =>
      have hopen : Opens (fieldsText indent (level + 1) (f :: fields)) :=
        opens_fieldsText f.1 f.2 fields
      simp only [List.isEmpty_cons, Bool.false_eq_true, if_false, List.length_cons,
        List.length_append, List.length_nil] at hfuel ⊢
      have hlt : (fieldsText indent (level + 1) (f :: fields)).length < fuel := by omega
      have hfields := readFields_fieldsText (by simp) each ih [] distinct level rest hlt
      simp only [List.cons_append, List.append_assoc, List.nil_append]
      rw [readValue_brace (hopen.append _), hfields]
      rfl

/-! ## ASCII -/

theorem ascii_digits {ds : List Char} (h : Text.Digits ds) : Ascii ds := by
  intro c hc
  have hdigit := h c hc
  simp only [Char.isDigit, Bool.and_eq_true, decide_eq_true_eq] at hdigit
  exact Nat.lt_of_le_of_lt (UInt32.le_iff_toNat_le.1 hdigit.2) (by decide)

theorem ascii_minus (s : Bool) : Ascii (minus s) := by
  cases s
  · exact ascii_nil
  · exact ascii_nil.cons (by decide)

theorem ascii_exponentText (e : ℤ) : Ascii (Double.exponentText e) := by
  have hdigits : Ascii (Nat.toDigits 10 e.natAbs) := ascii_digits (Text.digits_toDigits _)
  unfold Double.exponentText
  refine Ascii.cons (by decide) (Ascii.cons ?_ ?_)
  · split_ifs <;> decide
  · split_ifs
    · exact hdigits.cons (by decide)
    · exact hdigits

theorem ascii_layOut {ds : List Char} (hds : Text.Digits ds)
    (e : ℤ) : Ascii (Double.layOut ds e) := by
  have hzeros : ∀ k, Ascii (List.replicate k '0') := fun k => ascii_digits (Text.digits_zeros k)
  unfold Double.layOut
  split_ifs with hpositional hneg
  · exact ((hzeros _).append (ascii_digits hds)).cons (by decide) |>.cons (by decide)
  · refine Ascii.append (Ascii.append ?_ (hzeros _)) (Ascii.cons (by decide) ?_)
    · exact ascii_digits fun c hc => hds c (List.mem_of_mem_take hc)
    · split_ifs
      · exact ascii_nil.cons (by decide)
      · exact ascii_digits fun c hc => hds c (List.mem_of_mem_drop hc)
  · match ds, hds with
    | [], _ => exact ascii_nil
    | [d], hds => exact (ascii_exponentText e).cons (ascii_digits hds d (by simp))
    | d :: d' :: more, hds =>
      have hmore : Ascii (d' :: more) := ascii_digits fun c hc => hds c (List.mem_cons_of_mem _ hc)
      exact ((hmore.append (ascii_exponentText e)).cons (by decide)).cons
        (ascii_digits hds d (by simp))

theorem ascii_doubleText (x : Double) : Ascii (doubleText x).toList := by
  cases x with
  | nan => exact ascii_of_all rfl
  | infinite s => cases s <;> exact ascii_of_all rfl
  | finite s m e hfits =>
    have htext : (doubleText (.finite s m e hfits)).toList =
        minus s ++ Double.magnitudeText m e := by
      simp only [doubleText, Double.text, String.toList_ofList]
      rfl
    rw [htext]
    refine (ascii_minus s).append ?_
    unfold Double.magnitudeText
    split_ifs
    · exact ascii_of_all rfl
    · obtain ⟨k, hk⟩ := exists_stripZeros (Nat.toDigits 10 (Double.shortest m e).1)
      have hdigits := Text.digits_toDigits (Double.shortest m e).1
      rw [hk] at hdigits
      exact ascii_layOut hdigits.of_append.1 _

theorem ascii_of_isSpace {cs : List Char} (h : ∀ c ∈ cs, isSpace c = true) : Ascii cs := by
  intro c hc
  have hspace := h c hc
  simp only [isSpace, Bool.or_eq_true, beq_iff_eq] at hspace
  rcases hspace with ((rfl | rfl) | rfl) | rfl <;> decide

theorem ascii_lineBreak : Ascii (lineBreak indent level) :=
  ascii_of_isSpace isSpace_of_mem_lineBreak

theorem ascii_separator : Ascii (separator indent level) := by
  cases indent with
  | none => exact (ascii_nil.cons (by decide)).cons (by decide)
  | some width => exact ascii_lineBreak.cons (by decide)

theorem ascii_itemsText {items : List Value}
    (h : ∀ v ∈ items, ∀ level, Ascii (valueText indent level v)) :
    Ascii (itemsText indent level items) := by
  induction items with
  | nil => exact ascii_nil
  | cons v items ih =>
    have hv := h v List.mem_cons_self level
    have hmore := ih fun u hu => h u (List.mem_cons_of_mem _ hu)
    cases items with
    | nil =>
      rw [itemsText]
      exact hv
    | cons w items =>
      rw [itemsText]
      exact (hv.append ascii_separator).append hmore

theorem ascii_fieldsText {fields : List (String × Value)}
    (h : ∀ f ∈ fields, ∀ level, Ascii (valueText indent level f.2)) :
    Ascii (fieldsText indent level fields) := by
  induction fields with
  | nil => exact ascii_nil
  | cons f fields ih =>
    obtain ⟨k, v⟩ := f
    have hv : Ascii (valueText indent level v) := h (k, v) List.mem_cons_self level
    have hmore := ih fun u hu => h u (List.mem_cons_of_mem _ hu)
    cases fields with
    | nil =>
      rw [fieldsText]
      exact (ascii_stringText k).append ((hv.cons (by decide)).cons (by decide))
    | cons g fields =>
      rw [fieldsText]
      exact (ascii_stringText k).append
        ((((hv.append ascii_separator).append hmore).cons (by decide)).cons (by decide))

/-- A text of a storable value is in ASCII. -/
theorem Storable.ascii {v : Value} (h : Storable v)
    (level : ℕ) : Ascii (valueText indent level v) := by
  induction h generalizing level with
  | null => exact ascii_of_all rfl
  | bool b => cases b <;> exact ascii_of_all rfl
  | @int i _ =>
    rw [valueText, toList_toString]
    exact (ascii_minus _).append (ascii_digits (Text.digits_toDigits _))
  | float x =>
    rw [valueText]
    exact ascii_doubleText x
  | str s =>
    rw [valueText]
    exact ascii_stringText s
  | list _ ih =>
    rw [valueText]
    split_ifs
    · exact ascii_of_all rfl
    · exact (((ascii_lineBreak.append (ascii_itemsText ih)).append ascii_lineBreak).append
        (ascii_of_all rfl)).cons (by decide)
  | obj _ _ ih =>
    rw [valueText]
    split_ifs
    · exact ascii_of_all rfl
    · exact (((ascii_lineBreak.append (ascii_fieldsText ih)).append ascii_lineBreak).append
        (ascii_of_all rfl)).cons (by decide)

/-! ## Whole texts -/

/-- **The text of a storable value reads as that value.** -/
theorem read_valueText {v : Value} (h : Storable v) : read (valueText indent level v) = .ok v := by
  have hopen : Opens (valueText indent level v) := h.opens
  have hascii : Ascii (valueText indent level v) := h.ascii level
  have hback : ReadsBack indent v := h.readsBack
  have hread := hback level (2 * (valueText indent level v).length + 1) [] ends_nil (by omega)
  rw [List.append_nil] at hread
  unfold read
  split
  · -- a byte order mark is not in ASCII
    rename_i heq
    rw [heq] at hascii
    exact absurd (hascii '\ufeff' List.mem_cons_self) (by decide)
  · rw [hopen.skipSpace, hread]
    rfl

end SourceSurvey.Json
