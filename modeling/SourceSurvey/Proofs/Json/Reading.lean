import SourceSurvey.Proofs.Json.RoundTrip
import SourceSurvey.Proofs.Trace
import SourceSurvey.Proofs.Value.Fields

/-!
# What is read from a text

A value that is read from a JSON text is one that such a text can hold: its integers have no more
digits than are read, and of a field that is given twice one is left.  No list in it has more items
than the text has characters (`ListsWithin`).

* `readChars_suffix`, `readWord_suffix`, `readNumber_spec`: what is left behind a string, a word or
  a number;
* `Keeps`: what the readers of values, items and fields keep with a number of steps, and `keeps` for
  any number;
* `heldIn_of_read`, for whole texts.
-/

namespace SourceSurvey.Json

/-! ## Where readers stop -/

theorem skipSpace_suffix (cs : List Char) : skipSpace cs <:+ cs := List.dropWhile_suffix _

theorem suffix_of_skipSpace {cs more : List Char} {c : Char}
    (h : skipSpace cs = c :: more) : more <:+ cs :=
  (h ▸ List.suffix_cons c more).trans (skipSpace_suffix cs)

theorem length_lt_of_skipSpace {cs more : List Char} {c : Char} (h : skipSpace cs = c :: more) :
    more.length < cs.length :=
  (h ▸ (skipSpace_suffix cs).length_le : (c :: more).length ≤ cs.length)

theorem suffix_cons_of_skipSpace {cs rest : List Char} (h : rest <:+ skipSpace cs)
    (c : Char) : rest <:+ c :: cs :=
  (h.trans (skipSpace_suffix cs)).trans (List.suffix_cons c cs)

theorem readChars_suffix {opening : ℕ} {done : Collected} {cs : List Char} {s : String}
    {rest : List Char} (h : readChars opening done cs = .ok (s, rest)) : rest <:+ cs := by
  fun_induction readChars opening done cs with
  | case2 done rest' =>
    obtain ⟨-, rfl⟩ := Prod.mk.inj (Except.ok.inj h)
    exact List.suffix_cons _ _
  | case3 _ _ _ _ _ _ _ _ _ ih => exact (ih h).trans ⟨[_, _, _, _, _, _], rfl⟩
  | case7 _ _ _ _ _ _ _ ih => exact (ih h).trans ⟨[_, _], rfl⟩
  | case10 _ _ _ _ _ _ _ _ _ ih => exact (ih h).trans (List.suffix_cons _ _)
  | _ => cases h

theorem readWord_suffix {cs : List Char} {v : Value} {rest : List Char}
    (h : readWord? cs = some (v, rest)) :
    (∃ word, (word, v) ∈ words) ∧ rest <:+ cs := by
  obtain ⟨⟨word, u⟩, hmem, hword⟩ := List.exists_of_findSome?_eq_some h
  simp only [Option.ite_none_right_eq_some, Option.some.injEq, Prod.mk.injEq] at hword
  obtain ⟨-, rfl, rfl⟩ := hword
  exact ⟨⟨word, hmem⟩, List.drop_suffix _ _⟩

/-! ## Numbers -/

theorem digit_lt_of_mem_digitSpan {cs : List Char} {d : ℕ}
    (h : d ∈ (Text.digitSpan cs).1) : d < 10 := by
  obtain ⟨c, -, hc⟩ := List.mem_filterMap.1 h
  unfold Text.asciiDigit? at hc
  split at hc
  · rename_i hdigit
    obtain ⟨-, hnine⟩ := Char.isDigit_iff_toNat.1 hdigit
    obtain rfl := Option.some.inj hc
    change c.toNat - 48 < 10
    change c.toNat ≤ 57 at hnine
    omega
  · cases hc

theorem ofDigits_lt {ds : List ℕ} (h : ∀ d ∈ ds, d < 10) : Text.ofDigits ds < 10 ^ ds.length := by
  induction ds with
  | nil => simp [Text.ofDigits]
  | cons d ds ih =>
    have hd : d < 10 := h d List.mem_cons_self
    have hds := ih fun e he => h e (List.mem_cons_of_mem d he)
    calc Text.ofDigits (d :: ds) = d * 10 ^ ds.length + Text.ofDigits ds := by
          simpa [Text.ofDigits] using Text.ofDigits_append [d] ds
      _ < (d + 1) * 10 ^ ds.length := by rw [add_one_mul]; exact Nat.add_lt_add_left hds _
      _ ≤ 10 * 10 ^ ds.length := Nat.mul_le_mul_right _ hd
      _ = 10 ^ (d :: ds).length := by rw [List.length_cons, pow_succ, mul_comm]

theorem splitWhole_spec {cs : List Char} {ds : List ℕ} {rest : List Char}
    (h : splitWhole cs = some (ds, rest)) :
    (∀ d ∈ ds, d < 10) ∧ rest <:+ cs := by
  unfold splitWhole at h
  split at h
  · obtain ⟨rfl, rfl⟩ := Prod.mk.inj (Option.some.inj h)
    exact ⟨by simp, List.suffix_cons _ _⟩
  · rename_i c tail _
    split_ifs at h with hc
    obtain ⟨rfl, rfl⟩ := Prod.mk.inj (Option.some.inj h)
    exact ⟨fun d hd => digit_lt_of_mem_digitSpan hd, List.dropWhile_suffix _⟩
  · cases h

theorem splitFraction_suffix (cs : List Char) : (splitFraction cs).2 <:+ cs := by
  unfold splitFraction
  split
  · rename_i rest
    split
    · exact List.suffix_rfl
    · rename_i ds after _ heq
      obtain ⟨-, rfl⟩ := Prod.mk.inj heq
      exact (List.dropWhile_suffix _).trans (List.suffix_cons _ _)
  · exact List.suffix_rfl

theorem splitSign_suffix (cs : List Char) : (Text.splitSign cs).2 <:+ cs := by
  unfold Text.splitSign
  split
  · exact List.suffix_cons _ _
  · exact List.suffix_cons _ _
  · exact List.suffix_rfl

theorem splitExponent_suffix (cs : List Char) : (Text.splitExponent cs).2 <:+ cs := by
  unfold Text.splitExponent
  split
  · rename_i mark more
    split_ifs
    · dsimp only
      split
      · exact List.suffix_rfl
      · rename_i ds rest _ heq
        obtain ⟨-, rfl⟩ := Prod.mk.inj heq
        exact ((List.dropWhile_suffix _).trans (splitSign_suffix more)).trans (List.suffix_cons _ _)
    · exact List.suffix_rfl
  · exact List.suffix_rfl

/-! ## Values with short lists -/

/-- No list in a value has more than `n` items. -/
inductive ListsWithin (n : ℕ) : Value → Prop
  | list {items : List Value} (length : items.length ≤ n) (each : ∀ v ∈ items, ListsWithin n v) :
    ListsWithin n (.list items)
  | obj {fields : List (String × Value)} (each : ∀ f ∈ fields, ListsWithin n f.2) :
    ListsWithin n (.obj fields)
  | leaf {v : Value} (list : v.kind ≠ .list) (obj : v.kind ≠ .obj) : ListsWithin n v

/-- A value that a text of `n` characters can hold. -/
def HeldIn (n : ℕ) (v : Value) : Prop := Storable v ∧ ListsWithin n v

variable {n : ℕ}

theorem heldIn_of_leaf {v : Value} (h : Storable v) (hleaf : v.kind ≠ .list ∧ v.kind ≠ .obj) :
    HeldIn n v :=
  ⟨h, .leaf hleaf.1 hleaf.2⟩

theorem heldIn_list {items : List Value} (length : items.length ≤ n)
    (each : ∀ v ∈ items, HeldIn n v) :
    HeldIn n (.list items) :=
  ⟨.list fun v hv => (each v hv).1, .list length fun v hv => (each v hv).2⟩

theorem heldIn_obj {fields : List (String × Value)} (distinct : (fields.map Prod.fst).Nodup)
    (each : ∀ f ∈ fields, HeldIn n f.2) : HeldIn n (.obj fields) :=
  ⟨.obj distinct fun f hf => (each f hf).1, .obj fun f hf => (each f hf).2⟩

theorem heldIn_word {word : List Char} {v : Value} (h : (word, v) ∈ words) : HeldIn n v := by
  simp only [words, List.mem_cons, Prod.mk.injEq, List.not_mem_nil, or_false] at h
  rcases h with ⟨-, rfl⟩ | ⟨-, rfl⟩ | ⟨-, rfl⟩ | ⟨-, rfl⟩ | ⟨-, rfl⟩ | ⟨-, rfl⟩
  · exact heldIn_of_leaf .null (by simp [Value.kind])
  · exact heldIn_of_leaf (.bool _) (by simp [Value.kind])
  · exact heldIn_of_leaf (.bool _) (by simp [Value.kind])
  · exact heldIn_of_leaf (.float _) (by simp [Value.kind])
  · exact heldIn_of_leaf (.float _) (by simp [Value.kind])
  · exact heldIn_of_leaf (.float _) (by simp [Value.kind])

/-- A number that is read is a double, or an integer with no more digits than are read. -/
theorem readNumber_spec {cs : List Char} {v : Value} {rest : List Char}
    (h : readNumber cs = .ok (v, rest)) :
    HeldIn n v ∧ rest <:+ cs := by
  unfold readNumber at h
  split at h
  rename_i negative body hbody
  have hbody : body <:+ cs := by
    split at hbody
    · obtain ⟨-, rfl⟩ := Prod.mk.inj hbody
      exact List.suffix_cons _ _
    · obtain ⟨-, rfl⟩ := Prod.mk.inj hbody
      exact List.suffix_rfl
  cases hsplit : splitWhole body with
  | none => simp [hsplit] at h
  | some parts =>
    obtain ⟨whole, behind⟩ := parts
    obtain ⟨hdigits, hbehind⟩ := splitWhole_spec hsplit
    have hafter :=
      ((splitExponent_suffix (splitFraction behind).2).trans (splitFraction_suffix behind)).trans
      (hbehind.trans hbody)
    simp only [hsplit] at h
    by_cases hint : ((splitFraction behind).1.isNone &&
        (Text.splitExponent (splitFraction behind).2).2.length = (splitFraction behind).2.length) =
          true
    · rw [if_pos hint] at h
      by_cases hlimit : Text.digitLimit < whole.length
      · rw [if_pos hlimit] at h
        cases h
      · rw [if_neg hlimit] at h
        obtain ⟨rfl, rfl⟩ := Prod.mk.inj (Except.ok.inj h)
        have habs :
            (if negative = true then -(Text.ofDigits whole : ℤ) else Text.ofDigits whole).natAbs =
            Text.ofDigits whole := by
          cases negative <;> simp
        refine ⟨heldIn_of_leaf (.int ?_) (by simp [Value.kind]), hafter⟩
        rw [habs, Nat.length_toDigits_le_iff (by norm_num) (by norm_num [Text.digitLimit])]
        exact (ofDigits_lt hdigits).trans_le (Nat.pow_le_pow_right (by norm_num) (not_lt.1 hlimit))
    · rw [if_neg hint] at h
      obtain ⟨rfl, rfl⟩ := Prod.mk.inj (Except.ok.inj h)
      exact ⟨heldIn_of_leaf (.float _) (by simp [Value.kind]), hafter⟩

/-! ## Readers -/

/-- What the readers keep with a number of steps, in texts of at most `n` characters. -/
structure Keeps (n fuel : ℕ) : Prop where
  value : ∀ {cs : List Char} {v : Value} {rest : List Char}, cs.length ≤ n →
    readValue fuel cs = .ok (v, rest) → HeldIn n v ∧ rest <:+ cs
  items : ∀ {cs : List Char} {items : List Value} {rest : List Char}, cs.length ≤ n →
    readItems fuel cs = .ok (items, rest) →
      (∀ v ∈ items, HeldIn n v) ∧ items.length + rest.length ≤ cs.length ∧ rest <:+ cs
  fields : ∀ {cs : List Char} {done fields : List (String × Value)} {rest : List Char},
    cs.length ≤ n →
    (done.map Prod.fst).Nodup → (∀ f ∈ done, HeldIn n f.2) →
    readFields fuel done cs = .ok (fields, rest) →
      (fields.map Prod.fst).Nodup ∧ (∀ f ∈ fields, HeldIn n f.2) ∧ rest <:+ cs

variable {fuel : ℕ}

theorem Keeps.value_succ (ih : Keeps n fuel) {cs : List Char} {v : Value} {rest : List Char}
    (hn : cs.length ≤ n) (h : readValue (fuel + 1) cs = .ok (v, rest)) :
    HeldIn n v ∧ rest <:+ cs := by
  unfold readValue at h
  split at h
  · obtain ⟨⟨s, rest'⟩, hs, heq⟩ := map_eq_ok.1 h
    obtain ⟨rfl, rfl⟩ := Prod.mk.inj heq
    exact ⟨heldIn_of_leaf (.str s) (by simp [Value.kind]),
      (readChars_suffix hs).trans (List.suffix_cons _ _)⟩
  · rename_i inner
    have hinner : (skipSpace inner).length ≤ n :=
      (suffix_cons_of_skipSpace List.suffix_rfl _).length_le.trans hn
    split at h
    · rename_i after hafter
      obtain ⟨rfl, rfl⟩ := Prod.mk.inj (Except.ok.inj h)
      exact ⟨heldIn_list (Nat.zero_le n) (by simp),
        (suffix_of_skipSpace hafter).trans (List.suffix_cons _ _)⟩
    · obtain ⟨⟨items, rest'⟩, hitems, heq⟩ := map_eq_ok.1 h
      obtain ⟨rfl, rfl⟩ := Prod.mk.inj heq
      obtain ⟨heach, hlength, hrest⟩ := ih.items hinner hitems
      exact ⟨heldIn_list (by omega) heach, suffix_cons_of_skipSpace hrest _⟩
  · rename_i inner
    have hinner : (skipSpace inner).length ≤ n :=
      (suffix_cons_of_skipSpace List.suffix_rfl _).length_le.trans hn
    split at h
    · rename_i after hafter
      obtain ⟨rfl, rfl⟩ := Prod.mk.inj (Except.ok.inj h)
      exact ⟨heldIn_obj List.nodup_nil (by simp),
        (suffix_of_skipSpace hafter).trans (List.suffix_cons _ _)⟩
    · obtain ⟨⟨fields, rest'⟩, hfields, heq⟩ := map_eq_ok.1 h
      obtain ⟨rfl, rfl⟩ := Prod.mk.inj heq
      obtain ⟨hdistinct, heach, hrest⟩ := ih.fields hinner (by simp) (by simp) hfields
      exact ⟨heldIn_obj hdistinct heach, suffix_cons_of_skipSpace hrest _⟩
  · cases hword : readWord? cs with
    | some result =>
      rw [hword] at h
      obtain rfl := Except.ok.inj h
      obtain ⟨⟨word, hmem⟩, hrest⟩ := readWord_suffix hword
      exact ⟨heldIn_word hmem, hrest⟩
    | none =>
      rw [hword] at h
      exact readNumber_spec h

theorem Keeps.items_succ (ih : Keeps n fuel) {cs : List Char} {items : List Value}
    {rest : List Char} (hn : cs.length ≤ n) (h : readItems (fuel + 1) cs = .ok (items, rest)) :
    (∀ v ∈ items, HeldIn n v) ∧ items.length + rest.length ≤ cs.length ∧ rest <:+ cs := by
  unfold readItems at h
  obtain ⟨⟨v, behind⟩, hv, h⟩ := bind_eq_ok.1 h
  obtain ⟨hheld, hbehind⟩ := ih.value hn hv
  dsimp only at h
  -- an item is counted by the bracket or the comma behind it
  split at h
  · rename_i after hafter
    obtain ⟨rfl, rfl⟩ := Prod.mk.inj (Except.ok.inj h)
    have hlength := length_lt_of_skipSpace hafter
    refine ⟨by simpa using hheld, ?_, (suffix_of_skipSpace hafter).trans hbehind⟩
    have := hbehind.length_le
    rw [List.length_singleton]
    omega
  · rename_i more hmore
    have hlength := (length_lt_of_skipSpace hmore).trans_le hbehind.length_le
    have hspace := (skipSpace_suffix more).length_le
    obtain ⟨⟨later, after⟩, hlater, h⟩ := bind_eq_ok.1 h
    obtain ⟨rfl, rfl⟩ := Prod.mk.inj (Except.ok.inj h)
    obtain ⟨heach, hcount, hafter⟩ := ih.items (by omega) hlater
    refine ⟨List.forall_mem_cons.2 ⟨hheld, heach⟩, ?_, ?_⟩
    · change later.length + 1 + after.length ≤ cs.length
      omega
    · exact (hafter.trans (skipSpace_suffix more)).trans ((suffix_of_skipSpace hmore).trans hbehind)
  · cases h

theorem Keeps.fields_succ (ih : Keeps n fuel) {cs : List Char} {done fields : List (String × Value)}
    {rest : List Char} (hn : cs.length ≤ n) (hdone : (done.map Prod.fst).Nodup)
    (heach : ∀ f ∈ done, HeldIn n f.2) (h : readFields (fuel + 1) done cs = .ok (fields, rest)) :
    (fields.map Prod.fst).Nodup ∧ (∀ f ∈ fields, HeldIn n f.2) ∧ rest <:+ cs := by
  unfold readFields at h
  split at h
  · rename_i inner
    obtain ⟨⟨key, behind⟩, hkey, h⟩ := bind_eq_ok.1 h
    dsimp only at h
    split at h
    · rename_i more hmore
      have hmore : skipSpace more <:+ '"' :: inner :=
        ((skipSpace_suffix more).trans (suffix_of_skipSpace hmore)).trans
          ((readChars_suffix hkey).trans (List.suffix_cons _ _))
      obtain ⟨⟨v, after⟩, hv, h⟩ := bind_eq_ok.1 h
      obtain ⟨hheld, hafter⟩ := ih.value (hmore.length_le.trans hn) hv
      have hput := Value.nodup_putField hdone key v
      have heach' : ∀ f ∈ Value.putField key v done, HeldIn n f.2 := by
        intro f hf
        rcases Value.mem_putField hf with hf | hf
        · rw [hf]
          exact hheld
        · exact heach f hf
      dsimp only at h
      split at h
      · rename_i last hlast
        obtain ⟨rfl, rfl⟩ := Prod.mk.inj (Except.ok.inj h)
        exact ⟨hput, heach', (suffix_of_skipSpace hlast).trans (hafter.trans hmore)⟩
      · rename_i next hnext
        have hsuffix :=
          (skipSpace_suffix next).trans ((suffix_of_skipSpace hnext).trans (hafter.trans hmore))
        obtain ⟨hdistinct, hfields, hrest⟩ := ih.fields (hsuffix.length_le.trans hn) hput heach' h
        exact ⟨hdistinct, hfields, hrest.trans hsuffix⟩
      · cases h
    · cases h
  · cases h

theorem keeps (n fuel : ℕ) : Keeps n fuel := by
  induction fuel with
  | zero => exact ⟨fun _ h => by simp [readValue] at h, fun _ h => by simp [readItems] at h,
      fun _ _ _ h => by simp [readFields] at h⟩
  | succ fuel ih => exact ⟨ih.value_succ, ih.items_succ, ih.fields_succ⟩

/-- What is read from a text can be written into one, and its lists are no longer than the text. -/
theorem heldIn_of_read {cs : List Char} {v : Value} (h : read cs = .ok v) : HeldIn cs.length v := by
  unfold read at h
  split at h
  · cases h
  · obtain ⟨⟨u, rest⟩, hu, h⟩ := bind_eq_ok.1 h
    dsimp only at h
    split at h
    · obtain rfl := Except.ok.inj h
      exact ((keeps cs.length _).value (skipSpace_suffix cs).length_le hu).1
    · cases h

end SourceSurvey.Json
