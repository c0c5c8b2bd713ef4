import SourceSurvey.Proofs.Span.Block

/-!
# The block that opens first

From a start on, the block to expect is the one whose opening brace comes first, and it closes where
the braces from there on are balanced for the first time (`ClosesAt`).  The scan counts from the
start and not from that brace: when closing braces stand before it, it stops where as many opening
braces are left open as closing ones stood there (`DropsTo`).  The two ends agree without such
strays, and else only if there is neither of them (`blockEnd_matches_iff`).

* `closing_skip`: what stands before the first opening brace shifts the depth;
* `balance_pos`: the depth stays positive up to the end of a block;
* `OpensAt`, `ClosesAt`, `DropsTo`: the first opening brace, and the two ends.
-/

namespace SourceSurvey.Span

/-! ## The depth of a text -/

/-- The number of opening braces less that of closing ones. -/
def balance (cs : List Char) : ℤ := cs.count '\x7b' - cs.count '\x7d'

@[simp] theorem balance_nil : balance [] = 0 := rfl

@[simp] theorem balance_cons (c : Char) (cs : List Char) :
    balance (c :: cs) = weight c + balance cs :=
  count_cons_sub c cs

@[simp] theorem balance_append (u v : List Char) : balance (u ++ v) = balance u + balance v := by
  simp only [balance, List.count_append]
  omega

variable {depth : ℤ} {opened : Bool} {c : Char} {cs before after : List Char} {k : ℕ}

theorem ends_iff_balance :
    Ends depth true cs ↔ depth + balance cs = 0 ∧ cs.getLast? = some '\x7d' := by
  constructor
  · rintro ⟨-, hbalanced, hlast⟩
    exact ⟨by simp only [balance]; omega, hlast⟩
  · rintro ⟨hbalanced, hlast⟩
    exact ⟨.inl rfl, by simp only [balance] at hbalanced; omega, hlast⟩

/-- A text in which no block opens only shifts the depth. -/
theorem closing_skip (h : '\x7b' ∉ before) (cs : List Char) :
    closing depth false (before ++ cs) =
      (closing (depth - before.count '\x7d') false cs).map (· + before.length) := by
  induction before generalizing depth with
  | nil => simp
  | cons c before ih =>
    obtain ⟨hc, hbefore⟩ := List.ne_and_not_mem_of_not_mem_cons h
    have hdepth : depth + weight c - before.count '\x7d' = depth - (c :: before).count '\x7d' := by
      by_cases hclose : c = '\x7d'
      · simp [hclose, weight]
        omega
      · simp [hclose, weight, Ne.symm hc]
    have hopened : (false || c == '\x7b') = false := by simpa using Ne.symm hc
    rw [List.cons_append, closing_cons, if_neg (by simp), hopened, ih hbefore, hdepth,
      Option.map_map]
    rfl

/-- As long as no block ends, the depth stays positive. -/
theorem balance_pos (hdepth : 0 < depth) (h : ∀ j ≤ k, ¬ Ends depth true (cs.take j)) :
    0 < depth + balance (cs.take k) := by
  induction k with
  | zero => simpa using hdepth
  | succ k ih =>
    have hbefore := ih fun j hj => h j (by omega)
    rcases Nat.lt_or_ge k cs.length with hk | hk
    · have htake : cs.take (k + 1) = cs.take k ++ [cs[k]] := List.take_succ_eq_append_getElem hk
      have hnext := h (k + 1) le_rfl
      rw [ends_iff_balance, htake] at hnext
      rw [htake]
      -- the depth falls by one at most, and a brace that takes it to zero ends the block
      by_cases hclose : cs[k] = '\x7d'
      · have hfall : weight '\x7d' = -1 := rfl
        simp only [hclose, balance_append, balance_cons, balance_nil, List.getLast?_concat,
          and_true] at hnext ⊢
        omega
      · have hrise : 0 ≤ weight cs[k] := by
          rw [weight, if_neg hclose]
          split_ifs <;> omega
        simp only [balance_append, balance_cons, balance_nil]
        omega
    · rwa [List.take_of_length_le (by omega), ← List.take_of_length_le hk]

/-- From a positive depth, a block ends where the depth is zero for the first time. -/
theorem closing_eq_some_iff_balance (hdepth : 0 < depth) : closing depth true cs = some k ↔
    k ≤ cs.length ∧ depth + balance (cs.take k) = 0 ∧ ∀ j < k, depth + balance (cs.take j) ≠ 0 := by
  rw [closing_eq_some_iff]
  refine and_congr_right fun _ => ?_
  constructor
  · rintro ⟨hends, hleast⟩
    refine ⟨(ends_iff_balance.1 hends).1, fun j hj => ?_⟩
    exact (balance_pos hdepth fun i hi => hleast i (by omega)).ne'
  · rintro ⟨hzero, hleast⟩
    have hopen : ∀ j < k, ¬ Ends depth true (cs.take j) :=
      fun j hj hends => hleast j hj (ends_iff_balance.1 hends).1
    refine ⟨?_, hopen⟩
    by_contra hends
    have hall : ∀ j ≤ k, ¬ Ends depth true (cs.take j) := by
      intro j hj
      rcases hj.lt_or_eq with hj | rfl
      · exact hopen j hj
      · exact hends
    exact (balance_pos hdepth hall).ne' hzero

/-! ## Positions -/

/-- The part of a text from one position to another. -/
def part (text : List Char) (p e : ℕ) : List Char := (text.drop p).take (e - p)

/-- The first opening brace at or behind a start stands at `p`. -/
structure OpensAt (text : List Char) (start p : ℕ) : Prop where
  behind : start ≤ p
  brace : text[p]? = some '\x7b'
  first : '\x7b' ∉ part text start p

/-- The least position behind `p` up to which a property holds of the text. -/
structure LeastEnd (Holds : List Char → Prop) (text : List Char) (p e : ℕ) : Prop where
  behind : p < e
  within : e ≤ text.length
  holds : Holds (part text p e)
  least : ∀ k, p < k → k < e → ¬ Holds (part text p k)

/-- The block that opens at `p` closes before `e`: there are equally many braces of both kinds for
the first time. -/
def ClosesAt (text : List Char) : ℕ → ℕ → Prop :=
  LeastEnd (fun cs => cs.count '\x7b' = cs.count '\x7d') text

/-- From `p` on, the closing brace before `e` is the first that leaves just `stray` opening braces
open. -/
def DropsTo (stray : ℕ) (text : List Char) : ℕ → ℕ → Prop :=
  LeastEnd (fun cs => cs.getLast? = some '\x7d' ∧ cs.count '\x7b' = stray + cs.count '\x7d') text

/-- The number of closing braces between a start and a position. -/
def strays (text : List Char) (start p : ℕ) : ℕ := (part text start p).count '\x7d'

/-- The result of a search from a start: the end that belongs to the first opening brace, if there
is one, and the start otherwise. -/
def EndOfFirst (IsEnd : ℕ → ℕ → Prop) (text : List Char) (start e : ℕ) : Prop :=
  (∃ p, OpensAt text start p ∧ IsEnd p e) ∨ (∀ p k, OpensAt text start p → ¬ IsEnd p k) ∧ e = start

variable {text : List Char} {start p e : ℕ}

theorem leastEnd_iff {Holds : List Char → Prop} (h : text.drop p = c :: after) :
    LeastEnd Holds text p e ↔
    ∃ k, e = p + 1 + k ∧ k ≤ after.length ∧ Holds (c :: after.take k) ∧
    ∀ j < k, ¬ Holds (c :: after.take j) := by
  have hpart : ∀ k, part text p (p + 1 + k) = c :: after.take k := by
    intro k
    rw [part, h, show p + 1 + k - p = k + 1 by omega, List.take_succ_cons]
  have hlength : text.length = p + 1 + after.length := by
    have hdrop := congrArg List.length h
    rw [List.length_drop, List.length_cons] at hdrop
    omega
  constructor
  · rintro ⟨hbehind, hwithin, hholds, hleast⟩
    obtain ⟨k, rfl⟩ : ∃ k, e = p + 1 + k := ⟨e - (p + 1), by omega⟩
    refine ⟨k, rfl, by omega, hpart k ▸ hholds, fun j hj => ?_⟩
    rw [← hpart j]
    exact hleast _ (by omega) (by omega)
  · rintro ⟨k, rfl, hk, hholds, hleast⟩
    refine ⟨by omega, by omega, (hpart k).symm ▸ hholds, fun i hi hik => ?_⟩
    obtain ⟨j, rfl⟩ : ∃ j, i = p + 1 + j := ⟨i - (p + 1), by omega⟩
    rw [hpart j]
    exact hleast j (by omega)

/-- The end that is expected is found by a scan from the opening brace on. -/
theorem closesAt_iff (h : text.drop p = '\x7b' :: after) :
    ClosesAt text p e ↔ ∃ k, e = p + 1 + k ∧ closing 1 true after = some k := by
  have hlevel : ∀ cs : List Char, ('\x7b' :: cs).count '\x7b' = ('\x7b' :: cs).count '\x7d' ↔
      1 + balance cs = 0 := by
    intro cs
    have hcons := count_cons_sub '\x7b' cs
    have hweight : weight '\x7b' = 1 := rfl
    simp only [balance]
    omega
  simp only [ClosesAt, leastEnd_iff h, closing_eq_some_iff_balance one_pos, hlevel, ne_eq]

/-- The end that is found is that of a scan which goes on from the depth that the strays have
left. -/
theorem dropsTo_iff (h : text.drop p = '\x7b' :: after) (stray : ℕ) :
    DropsTo stray text p e ↔ ∃ k, e = p + 1 + k ∧ closing (1 - stray) true after = some k := by
  have hends : ∀ cs : List Char, (('\x7b' :: cs).getLast? = some '\x7d' ∧
      ('\x7b' :: cs).count '\x7b' = stray + ('\x7b' :: cs).count '\x7d') ↔
      Ends (1 - stray) true cs := by
    intro cs
    have hcons := count_cons_sub '\x7b' cs
    have hweight : weight '\x7b' = 1 := rfl
    have hlast : ('\x7b' :: cs).getLast? = some '\x7d' ↔ cs.getLast? = some '\x7d' := by
      cases cs with
      | nil => simp
      | cons c cs => rw [List.getLast?_cons_cons]
    rw [ends_iff_balance, hlast, and_comm]
    simp only [balance]
    refine and_congr_left fun _ => ?_
    omega
  simp only [DropsTo, leastEnd_iff h, closing_eq_some_iff, hends]

/-! ## The first opening brace -/

/-- Where the text divides at an opening brace, it is the first one. -/
theorem opensAt_iff (h : text.drop start = before ++ '\x7b' :: after) (hbefore : '\x7b' ∉ before) :
    OpensAt text start p ↔ p = start + before.length := by
  have hget : ∀ k, text[start + k]? = (before ++ '\x7b' :: after)[k]? :=
    fun k => by rw [← h, List.getElem?_drop]
  have hpart : ∀ k, part text start (start + k) = (before ++ '\x7b' :: after).take k := fun k => by
    rw [part, h, Nat.add_sub_cancel_left]
  constructor
  · rintro ⟨hbehind, hbrace, hfirst⟩
    obtain ⟨k, rfl⟩ := Nat.exists_eq_add_of_le hbehind
    rw [hget] at hbrace
    rw [hpart] at hfirst
    rcases Nat.lt_trichotomy k before.length with hk | rfl | hk
    · rw [List.getElem?_append_left hk] at hbrace
      exact absurd (List.mem_of_getElem? hbrace) hbefore
    · rfl
    · refine absurd ?_ hfirst
      rw [List.take_append, List.mem_append]
      right
      obtain ⟨j, hj⟩ : ∃ j, k - before.length = j + 1 := ⟨k - before.length - 1, by omega⟩
      rw [hj, List.take_succ_cons]
      exact List.mem_cons_self
  · rintro rfl
    refine ⟨by omega, ?_, ?_⟩
    · rw [hget, List.getElem?_append_right le_rfl, Nat.sub_self]
      rfl
    · rwa [hpart, List.take_left]

theorem not_opensAt (h : '\x7b' ∉ text.drop start) : ¬ OpensAt text start p := by
  rintro ⟨hbehind, hbrace, -⟩
  obtain ⟨k, rfl⟩ := Nat.exists_eq_add_of_le hbehind
  rw [← List.getElem?_drop] at hbrace
  exact h (List.mem_of_getElem? hbrace)

theorem blockEnd_of_not_mem (h : '\x7b' ∉ text.drop start) : blockEnd text start = start := by
  have hnone : closing 0 false (text.drop start ++ []) = none := closing_skip h []
  rw [List.append_nil] at hnone
  rw [blockEnd, hnone]

/-- From the first opening brace on, the scan goes on at the depth that the strays before it have
left. -/
theorem blockEnd_of_divides (h : text.drop start = before ++ '\x7b' :: after)
    (hbefore : '\x7b' ∉ before) :
    blockEnd text start =
      ((closing (1 - before.count '\x7d') true after).map (start + before.length + 1 + ·)).getD
        start := by
  have hstep : closing (0 - before.count '\x7d') false ('\x7b' :: after) =
      (closing (1 - before.count '\x7d') true after).map (· + 1) := by
    rw [closing_cons, if_neg (by simp), show (0 : ℤ) - before.count '\x7d' + weight '\x7b' =
      1 - before.count '\x7d' by
      rw [show weight '\x7b' = 1 from rfl]; omega]
    rfl
  rw [blockEnd, h, closing_skip hbefore, hstep]
  cases closing (1 - before.count '\x7d') true after with
  | none => rfl
  | some k =>
    simp only [Option.map_some, Option.getD_some]
    omega

/-- The loosely typed form agrees on the positions of a text. -/
@[simp] theorem blockEndAt_int (text : List Char) (start : ℕ) :
    blockEndAt text (.int start) = .ok (.int (blockEnd text start)) := by
  have hscan : closingFrom text start = .ok (closing 0 false (text.drop start)) := by
    rw [closingFrom, if_pos (Int.natCast_nonneg start), Int.toNat_natCast]
  simp only [blockEndAt, Value.asInteger, blockEnd, Bind.bind, Except.bind, hscan]
  cases closing 0 false (text.drop start) with
  | none => rfl
  | some k => simp [Pure.pure, Except.pure]

/-! ## The end that is found and the end that is expected -/

/-- When the end for the first opening brace is found by a scan behind it, so is the result of the
search. -/
theorem endOfFirst_iff {IsEnd : ℕ → ℕ → Prop} {scan : Option ℕ}
    (hopens : ∀ q, OpensAt text start q ↔ q = p)
    (hends : ∀ k, IsEnd p k ↔ ∃ j, k = p + 1 + j ∧ scan = some j) :
    EndOfFirst IsEnd text start e ↔ e = (scan.map (p + 1 + ·)).getD start := by
  simp only [EndOfFirst, hopens, exists_eq_left, hends]
  cases scan with
  | none =>
    have hnone : ∀ q k, q = p → ¬ IsEnd q k := by
      rintro q k rfl hend
      obtain ⟨j, -, hj⟩ := (hends k).1 hend
      cases hj
    simpa using fun _ => hnone
  | some k =>
    have hsome : ¬ ∀ q k, q = p → ¬ IsEnd q k := fun hnone =>
      hnone p _ rfl ((hends (p + 1 + k)).2 ⟨k, rfl, rfl⟩)
    simp [hsome]

theorem scan_eq_none_iff {scan : Option ℕ} :
    scan = none ↔ ∀ e, ¬ ∃ k, e = p + 1 + k ∧ scan = some k := by
  cases scan <;> simp

/-- With strays, the two scans never stop at the same brace. -/
theorem closing_ne_of_stray {stray : ℕ} (hstray : stray ≠ 0) (h : closing 1 true after = some k) :
    closing (1 - stray) true after ≠ some k := by
  intro hshifted
  have hends := (ends_iff_balance.1 (closing_eq_some_iff.1 h).2.1).1
  have hshiftedEnds := (ends_iff_balance.1 (closing_eq_some_iff.1 hshifted).2.1).1
  omega

/-- Two scans lead to the same result without strays, and with strays if neither finds an end. -/
theorem getD_scan_eq_iff {stray : ℕ} (h : start ≤ p) :
    ((closing (1 - stray) true after).map (p + 1 + ·)).getD start =
        ((closing 1 true after).map (p + 1 + ·)).getD start ↔
      (stray ≠ 0 → closing 1 true after = none ∧ closing (1 - stray) true after = none) := by
  by_cases hstray : stray = 0
  · simp [hstray]
  · simp only [ne_eq, hstray, not_false_eq_true, true_imp_iff]
    cases hclosing : closing 1 true after with
    | none =>
      cases closing (1 - stray) true after with
      | none => simp
      | some j =>
        simp only [Option.map_some, Option.map_none, Option.getD_some, Option.getD_none,
          reduceCtorEq, and_false, iff_false]
        omega
    | some k =>
      have hne := closing_ne_of_stray hstray hclosing
      cases hshifted : closing (1 - stray) true after with
      | none =>
        simp only [Option.map_some, Option.map_none, Option.getD_some, Option.getD_none,
          reduceCtorEq, false_and, iff_false]
        omega
      | some j =>
        have hjk : j ≠ k := fun hjk => hne (hjk ▸ hshifted)
        simpa using hjk

/-- **The end of the first block.**  The search gives the end at which as many opening braces are
left open as closing ones stood before the first opening brace.  That is the end of the block which
opens there just when no closing brace stood before it, or when there is neither end. -/
theorem blockEnd_matches_iff (text : List Char) (start : ℕ) :
    blockEndAt text (.int start) = .ok (.int (blockEnd text start)) ∧
      EndOfFirst (fun p => DropsTo (strays text start p) text p) text start (blockEnd text start) ∧
      (EndOfFirst (ClosesAt text) text start (blockEnd text start) ↔
        ∀ p, OpensAt text start p → strays text start p ≠ 0 →
          ∀ e, ¬ ClosesAt text p e ∧ ¬ DropsTo (strays text start p) text p e) := by
  refine ⟨blockEndAt_int text start, ?_⟩
  by_cases hbrace : '\x7b' ∈ text.drop start
  · -- both ends are those of a scan behind the first opening brace, from depths that differ by the
    -- strays
    obtain ⟨before, after, hdivides, hbefore⟩ := List.eq_append_cons_of_mem hbrace
    have hopens : ∀ q, OpensAt text start q ↔ q = start + before.length :=
      fun q => opensAt_iff hdivides hbefore
    have hdrop : text.drop (start + before.length) = '\x7b' :: after := by
      rw [← List.drop_drop, hdivides, List.drop_left]
    have hstrays : strays text start (start + before.length) = before.count '\x7d' := by
      rw [strays, part, hdivides, Nat.add_sub_cancel_left, List.take_left]
    have hend := blockEnd_of_divides hdivides hbefore
    have hcloses : ∀ k, ClosesAt text (start + before.length) k ↔ _ := fun k => closesAt_iff hdrop
    have hdrops : ∀ k, DropsTo (before.count '\x7d') text (start + before.length) k ↔
        _ := fun k => dropsTo_iff hdrop _
    constructor
    · refine (endOfFirst_iff hopens fun k => ?_).2 hend
      rw [hstrays]
      exact hdrops k
    · rw [endOfFirst_iff hopens hcloses, hend, getD_scan_eq_iff (Nat.le_add_right _ _)]
      simp only [hopens, forall_eq, hstrays, hcloses, hdrops]
      refine imp_congr_right fun _ => ?_
      rw [forall_and, ← scan_eq_none_iff, ← scan_eq_none_iff]
  · have hnone : ∀ p, ¬ OpensAt text start p := fun p => not_opensAt hbrace
    rw [blockEnd_of_not_mem hbrace]
    refine ⟨.inr ⟨fun p k hp => absurd hp (hnone p), rfl⟩, ?_⟩
    exact ⟨fun _ p hp => absurd hp (hnone p),
      fun _ => .inr ⟨fun p k hp => absurd hp (hnone p), rfl⟩⟩

/-- Behind a block that was left in the middle, the next block is not found. -/
theorem blockEnd_misses_block :
    let text := "\x7b a \x7d \x7b b \x7d".toList
    OpensAt text 2 6 ∧ ClosesAt text 6 11 ∧ blockEnd text 2 = 2 ∧
      ¬ EndOfFirst (ClosesAt text) text 2 (blockEnd text 2) := by
  intro text
  have hopens : OpensAt text 2 6 := ⟨by decide, rfl, by decide⟩
  have hdrop : text.drop 6 = '\x7b' :: " b \x7d".toList := rfl
  have hcloses : ClosesAt text 6 11 := (closesAt_iff hdrop).2 ⟨4, rfl, rfl⟩
  have hend : blockEnd text 2 = 2 := rfl
  refine ⟨hopens, hcloses, hend, ?_⟩
  rintro (⟨p, hp, hclosed⟩ | ⟨hnone, -⟩)
  · have hbehind := hp.behind
    have hafter := hclosed.behind
    omega
  · exact hnone 6 11 hopens hcloses

end SourceSurvey.Span
