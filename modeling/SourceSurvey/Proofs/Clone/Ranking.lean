import SourceSurvey.Proofs.Clone.Scan

/-!
# The clones that are kept

`Duplication.detect` keeps the first clones of the search, or the first ones of a stable sort by
weight, heaviest first (`detect_kept`).  The second are collected in a heap of bounded size.  A
clone is ranked by its weight and by its turn in the search, and the heap holds, after each clone,
the first entries of the sorted list of all clones so far.

* `notLighter`, `Outranks`: the order by weight, and the order by rank;
* `push_eq`, `keepBest_eq`: one step of the heap;
* `Counted`: what has been kept after some clones, with its step and its run;
* `ranked_eq`: the heap in order;
* `weight_ne_nan`: the weights of the search are numbers.
-/

namespace SourceSurvey.Clone

/-! ## Ranks -/

/-- Whether a clone weighs at least as much as another. -/
def notLighter (c d : Clone) : Bool := c.weight.order? d.weight != some .lt

/-- The same by the places of the weights, which are all comparable. -/
def heavier (c d : Clone) : Bool := d.weight.place ≤ c.weight.place

/-- Of two clones with their turns, the first one comes first in a stable sort, heaviest first. -/
def Outranks (x y : Clone × ℕ) : Prop := List.zipIdxLE heavier x y = true

/-- The same order from its other end. -/
def Trails (x y : Clone × ℕ) : Prop := Outranks y x

instance : DecidableRel Outranks := fun x y => decEq (List.zipIdxLE heavier x y) true

instance : DecidableRel Trails := fun x y => decEq (List.zipIdxLE heavier y x) true

/-- The entry of a clone with its turn. -/
def entry (x : Clone × ℕ) : Entry := .ofClone x.2 x.1

theorem heavier_trans (c d e : Clone) (hcd : heavier c d) (hde : heavier d e) : heavier c e :=
  decide_eq_true ((of_decide_eq_true hde).trans (of_decide_eq_true hcd))

theorem heavier_total (c d : Clone) : heavier c d || heavier d c := by
  simpa [heavier] using le_total d.weight.place c.weight.place

instance : IsTrans (Clone × ℕ) Outranks := ⟨List.zipIdxLE_trans heavier_trans⟩

instance : Std.Total Outranks := ⟨fun x y => by
  simpa [Outranks] using List.zipIdxLE_total heavier_total x y⟩

instance : IsTrans (Clone × ℕ) Trails := ⟨fun _ _ _ hxy hyz => trans_of Outranks hyz hxy⟩

instance : Std.Total Trails := ⟨fun x y => total_of Outranks y x⟩

/-- Clones that outrank each other have the same turn. -/
theorem Outranks.turn_eq {x y : Clone × ℕ} (hxy : Outranks x y)
    (hyx : Outranks y x) : x.2 = y.2 := by
  simp only [Outranks, List.zipIdxLE] at hxy hyx
  split_ifs at hxy hyx
  simp only [decide_eq_true_eq] at hxy hyx
  omega

variable {x y : Clone × ℕ}

/-- The order of entries is the order of the sort, from the other side. -/
theorem ranksBelow_entry (hx : x.1.weight ≠ .nan) (hy : y.1.weight ≠ .nan) :
    (entry x).ranksBelow (entry y) = !decide (Outranks x y) := by
  have horder : (entry x).rank? (entry y) =
      some ((compare x.1.weight.place y.1.weight.place).then
        (compare (-(x.2 : ℤ)) (-(y.2 : ℤ)))) := by
    simp only [Entry.rank?, entry, Entry.ofClone, Double.order?_eq hx hy, Option.map_some]
  have hdecide : decide (Outranks x y) = List.zipIdxLE heavier x y := by
    cases h : List.zipIdxLE heavier x y <;> simp [Outranks, h]
  rw [Entry.ranksBelow, horder, hdecide, List.zipIdxLE]
  -- the turns count only where the weights are the same
  rcases lt_trichotomy x.1.weight.place y.1.weight.place with hlt | heq | hgt
  · have hxy : heavier x.1 y.1 = false := decide_eq_false (not_le.2 hlt)
    rw [hxy, compare_lt_iff_lt.2 hlt]
    rfl
  · have hxy : heavier x.1 y.1 = true := decide_eq_true heq.ge
    have hyx : heavier y.1 x.1 = true := decide_eq_true heq.le
    rw [hxy, hyx, compare_eq_iff_eq.2 heq, if_pos rfl, if_pos rfl]
    by_cases hturn : x.2 ≤ y.2
    · have hne : compare (-(x.2 : ℤ)) (-(y.2 : ℤ)) ≠ .lt := fun h => by
        have := compare_lt_iff_lt.1 h
        omega
      simpa [hturn, Ordering.then] using hne
    · have hlt : compare (-(x.2 : ℤ)) (-(y.2 : ℤ)) = .lt := compare_lt_iff_lt.2 (by omega)
      rw [hlt, decide_eq_false hturn]
      rfl
  · have hxy : heavier x.1 y.1 = true := decide_eq_true hgt.le
    have hyx : heavier y.1 x.1 = false := decide_eq_false (not_le.2 hgt)
    rw [hxy, hyx, compare_gt_iff_gt.2 hgt]
    rfl

/-- Entries of different turns have different ranks. -/
theorem Entry.rank?_ne_eq {d e : Entry} (h : d.turn ≠ e.turn) : d.rank? e ≠ some .eq := by
  intro heq
  obtain ⟨o, -, hthen⟩ := Option.map_eq_some_iff.1 heq
  exact h (compare_eq_iff_eq.1 (Ordering.then_eq_eq.1 hthen).2)

theorem rank_entry_ne_eq (h : x.2 ≠ y.2) : (entry x).rank? (entry y) ≠ some .eq := by
  refine Entry.rank?_ne_eq ?_
  simp only [entry, Entry.ofClone]
  omega

theorem below_entry (h : x.2 ≠ y.2) (hx : x.1.weight ≠ .nan) (hy : y.1.weight ≠ .nan) :
    (entry x).below (entry y) = .ok (!decide (Outranks x y)) := by
  rw [Entry.below, if_neg fun hall => rank_entry_ne_eq h hall.1, ranksBelow_entry hx hy]

/-! ## Sorted lists -/

/-- A sorted list of clones with different turns. -/
structure Sorted (xs : List (Clone × ℕ)) : Prop where
  order : xs.Pairwise Outranks
  turns : (xs.map Prod.snd).Nodup

namespace Sorted

variable {xs ys : List (Clone × ℕ)} {e : Clone × ℕ}

/-- There is only one way to sort. -/
theorem eq_of_perm (hxs : Sorted xs) (hys : ys.Pairwise Outranks) (h : ys.Perm xs) : ys = xs := by
  refine List.Perm.eq_of_pairwise (fun x y hx hy hxy hyx => ?_) hys hxs.order h
  exact List.inj_on_of_nodup_map hxs.turns (h.mem_iff.1 hx) hy (hxy.turn_eq hyx)

theorem orderedInsert (hxs : Sorted xs) (he : e.2 ∉ xs.map Prod.snd) :
    Sorted (xs.orderedInsert Outranks e) := by
  refine ⟨hxs.order.orderedInsert e xs, ?_⟩
  rw [((List.perm_orderedInsert Outranks e xs).map Prod.snd).nodup_iff]
  exact List.nodup_cons.2 ⟨he, hxs.turns⟩

/-- Inserting from the other end gives the same list, reversed. -/
theorem reverse_orderedInsert (hxs : Sorted xs) (he : e.2 ∉ xs.map Prod.snd) :
    xs.reverse.orderedInsert Trails e = (xs.orderedInsert Outranks e).reverse := by
  have hreverse : (xs.reverse.orderedInsert Trails e).reverse = xs.orderedInsert Outranks e := by
    refine (hxs.orderedInsert he).eq_of_perm ?_ ?_
    · exact List.pairwise_reverse.2 ((List.pairwise_reverse.2 hxs.order).orderedInsert e xs.reverse)
    · have hpush := (List.reverse_perm _).trans (List.perm_orderedInsert Trails e xs.reverse)
      have hback := (List.reverse_perm xs).cons e
      exact (hpush.trans hback).trans (List.perm_orderedInsert Outranks e xs).symm
  rw [← hreverse, List.reverse_reverse]

theorem sublist (hxs : Sorted xs) (h : ys.Sublist xs) : Sorted ys :=
  ⟨hxs.order.sublist h, hxs.turns.sublist (h.map _)⟩

theorem of_append (h : Sorted (xs ++ ys)) : Sorted xs := h.sublist (List.sublist_append_left xs ys)

/-- What the last one outranks comes before none of them. -/
theorem not_outranks_of_last {last : Clone × ℕ} (h : Sorted (xs ++ [last]))
    (hlast : Outranks last e) (he : e.2 ∉ (xs ++ [last]).map Prod.snd) :
    ∀ x ∈ xs ++ [last], ¬ Outranks e x := by
  intro x hx hex
  have hxe : Outranks x e := by
    rcases List.mem_append.1 hx with hmem | hmem
    · exact trans_of Outranks ((List.pairwise_append.1 h.order).2.2 x hmem last (by simp)) hlast
    · rwa [List.mem_singleton.1 hmem]
  rw [hex.turn_eq hxe] at he
  exact he (List.mem_map_of_mem hx)

end Sorted

/-- The first ones after an insertion depend on the first ones before it. -/
theorem take_orderedInsert {α : Type} (r : α → α → Prop) [DecidableRel r] (e : α)
    (xs : List α) (k : ℕ) :
    (xs.orderedInsert r e).take k = ((xs.take k).orderedInsert r e).take k := by
  induction xs generalizing k with
  | nil => simp
  | cons x xs ih =>
    cases k with
    | zero => simp
    | succ k =>
      by_cases h : r e x
      · have htake : (x :: xs).take k = (x :: xs.take k).take k := by
          rw [← List.take_succ_cons, List.take_take, Nat.min_eq_left (Nat.le_succ k)]
        rw [List.orderedInsert_cons_of_le r xs h, List.take_succ_cons, List.take_succ_cons,
          List.orderedInsert_cons_of_le r _ h, List.take_succ_cons, htake]
      · rw [List.orderedInsert_of_not_le r xs h, List.take_succ_cons, List.take_succ_cons,
          List.orderedInsert_of_not_le r _ h, List.take_succ_cons, ih k]

/-- An element that comes before the last one is inserted among the others. -/
theorem orderedInsert_append_last {α : Type} {r : α → α → Prop} [DecidableRel r] {e last : α}
    (h : r e last) (xs : List α) :
    (xs ++ [last]).orderedInsert r e = xs.orderedInsert r e ++ [last] := by
  induction xs with
  | nil => simp [h]
  | cons x xs ih =>
    by_cases hx : r e x
    · simp [hx]
    · simp [hx, ih]

/-- An element that comes before none is inserted at the end. -/
theorem orderedInsert_eq_append {α : Type} {r : α → α → Prop} [DecidableRel r] {e : α} {xs : List α}
    (h : ∀ x ∈ xs, ¬ r e x) : xs.orderedInsert r e = xs ++ [e] := by
  induction xs with
  | nil => rfl
  | cons x xs ih =>
    rw [List.orderedInsert_of_not_le r xs (h x List.mem_cons_self),
      ih fun y hy => h y (List.mem_cons_of_mem _ hy)]
    rfl

/-! ## The heap -/

/-- The weights of clones are numbers. -/
def Weighed (xs : List (Clone × ℕ)) : Prop := ∀ x ∈ xs, x.1.weight ≠ .nan

/-- Adding an entry puts it in its place, and compares no clones. -/
theorem push_eq {xs : List (Clone × ℕ)} {e : Clone × ℕ} (hxs : Weighed xs) (he : e.1.weight ≠ .nan)
    (hturn : e.2 ∉ xs.map Prod.snd) :
    push (entry e) (xs.map entry) = .ok ((xs.orderedInsert Trails e).map entry) := by
  induction xs with
  | nil => rfl
  | cons x xs ih =>
    have hx : x.1.weight ≠ .nan := hxs x List.mem_cons_self
    simp only [List.map_cons, List.mem_cons, not_or] at hturn
    have hmore := ih (fun y hy => hxs y (List.mem_cons_of_mem _ hy)) hturn.2
    rw [List.map_cons, push, below_entry hturn.1 he hx]
    -- turns differ, so that one of the two outranks the other
    by_cases h : Outranks e x
    · have htrails : ¬ Trails e x := fun hx => hturn.1 (h.turn_eq hx)
      rw [List.orderedInsert_of_not_le Trails xs htrails]
      simp only [bind, Except.bind, h, decide_true, Bool.not_true, Bool.false_eq_true,
        if_false, hmore]
      rfl
    · have htrails : Trails e x := (total_of Outranks x e).resolve_right h
      rw [List.orderedInsert_cons_of_le Trails xs htrails]
      simp only [bind, Except.bind, h, decide_false, Bool.not_false, if_true]
      rfl

variable {limits : Limits} {size : ℕ}

theorem hasRoom_eq (hmax : limits.maxKept.number? = some (.int size)) (n : ℕ) :
    limits.hasRoom n = .ok (decide (n < size)) := by
  rw [Limits.hasRoom, Value.test_of_number rfl hmax, Comparison.ofNumbers_int_lt]
  simp

theorem Weighed.reverse {xs : List (Clone × ℕ)} (h : Weighed xs) : Weighed xs.reverse :=
  fun x hx => h x (List.mem_reverse.1 hx)

/-- Adding to the heap of a sorted list inserts into the list. -/
theorem push_reverse {xs : List (Clone × ℕ)} {e : Clone × ℕ} (hxs : Sorted xs) (hw : Weighed xs)
    (he : e.1.weight ≠ .nan) (hturn : e.2 ∉ xs.map Prod.snd) :
    push (entry e) (xs.reverse.map entry) =
      .ok ((xs.orderedInsert Outranks e).reverse.map entry) := by
  have hback : e.2 ∉ xs.reverse.map Prod.snd := by simpa using hturn
  rw [push_eq hw.reverse he hback, hxs.reverse_orderedInsert hturn]

/-- **One step of the heap**: it goes on to hold the first entries of the sorted list. -/
theorem keepBest_eq (hmax : limits.maxKept.number? = some (.int size)) (hsize : 1 ≤ size)
    {best : List (Clone × ℕ)} {e : Clone × ℕ} (hbest : Sorted best) (hw : Weighed best)
    (hlength : best.length ≤ size) (he : e.1.weight ≠ .nan) (hturn : e.2 ∉ best.map Prod.snd) :
    keepBest limits (best.reverse.map entry) (entry e) =
      .ok (((best.orderedInsert Outranks e).take size).reverse.map entry) := by
  unfold keepBest
  rw [List.length_map, List.length_reverse, hasRoom_eq hmax]
  by_cases hroom : best.length < size
  · have hall : (best.orderedInsert Outranks e).take size = best.orderedInsert Outranks e := by
      rw [List.take_of_length_le]
      rw [List.orderedInsert_length]
      omega
    simp only [bind, Except.bind, hroom, decide_true, if_true]
    rw [push_reverse hbest hw he hturn, hall]
  · obtain ⟨others, least, rfl⟩ : ∃ others least, best = others ++ [least] :=
      (List.eq_nil_or_concat' best).resolve_left (by rintro rfl; simp at hroom; omega)
    have hleast : least.1.weight ≠ .nan := hw least (by simp)
    have hothers : Sorted others := hbest.of_append
    simp only [bind, Except.bind, hroom, decide_false, Bool.false_eq_true, if_false,
      List.reverse_append, List.reverse_cons, List.reverse_nil, List.nil_append,
      List.singleton_append, List.map_cons]
    rw [ranksBelow_entry hleast he]
    simp only [List.length_append, List.length_singleton] at hlength hroom
    by_cases hbelow : Outranks least e
    · -- the new entry comes behind all, and is cut off
      have hbehind := hbest.not_outranks_of_last hbelow hturn
      rw [orderedInsert_eq_append hbehind, List.take_left' (by simp; omega)]
      simp [hbelow, pure, Except.pure]
    · -- the least entry goes, and the new one is inserted among the others
      have hfirst : Outranks e least := (total_of Outranks least e).resolve_left hbelow
      have hpush := push_reverse hothers (fun x hx => hw x (by simp [hx])) he
        (fun h => hturn (by simp only [List.map_append, List.mem_append, h, true_or]))
      rw [orderedInsert_append_last hfirst,
        List.take_left' (by rw [List.orderedInsert_length]; omega), ← hpush]
      simp [hbelow]

/-! ## All clones by rank -/

/-- Clones with their turns, sorted by rank. -/
def byRank (clones : List Clone) : List (Clone × ℕ) :=
  clones.zipIdx.mergeSort (List.zipIdxLE heavier)

variable {clones : List Clone}

theorem byRank_perm (clones : List Clone) : (byRank clones).Perm clones.zipIdx :=
  List.mergeSort_perm _ _

theorem mem_turns_byRank {n : ℕ} : n ∈ (byRank clones).map Prod.snd ↔ n < clones.length := by
  rw [((byRank_perm clones).map Prod.snd).mem_iff, List.zipIdx_map_snd]
  simp

theorem sorted_byRank (clones : List Clone) : Sorted (byRank clones) := by
  refine ⟨List.pairwise_mergeSort (List.zipIdxLE_trans heavier_trans)
    (List.zipIdxLE_total heavier_total) _, ?_⟩
  rw [((byRank_perm clones).map Prod.snd).nodup_iff, List.zipIdx_map_snd]
  exact List.nodup_range'

theorem weighed_byRank (h : ∀ c ∈ clones, c.weight ≠ .nan) : Weighed (byRank clones) :=
  fun _ hx => h _ (List.fst_mem_of_mem_zipIdx ((byRank_perm clones).mem_iff.1 hx))

theorem sorted_take_byRank (clones : List Clone) (size : ℕ) : Sorted ((byRank clones).take size) :=
  (sorted_byRank clones).sublist (List.take_sublist size _)

theorem weighed_take_byRank (h : ∀ c ∈ clones, c.weight ≠ .nan) (size : ℕ) :
    Weighed ((byRank clones).take size) :=
  fun x hx => weighed_byRank h x (List.mem_of_mem_take hx)

/-- One more clone is inserted into the sorted list. -/
theorem byRank_append (clones : List Clone) (c : Clone) :
    byRank (clones ++ [c]) = (byRank clones).orderedInsert Outranks (c, clones.length) := by
  have hturn : (c, clones.length).2 ∉ (byRank clones).map Prod.snd := by simp [mem_turns_byRank]
  refine ((sorted_byRank clones).orderedInsert hturn).eq_of_perm (sorted_byRank _).order ?_
  have hleft : (byRank (clones ++ [c])).Perm (clones.zipIdx ++ [(c, clones.length)]) := by
    have := byRank_perm (clones ++ [c])
    rwa [List.zipIdx_append, List.zipIdx_singleton, Nat.zero_add] at this
  have hright := (List.perm_orderedInsert Outranks (c, clones.length) (byRank clones)).trans
    ((byRank_perm clones).cons _)
  exact (hleft.trans (List.perm_append_singleton _ _)).trans hright.symm

/-- Without the turns, it is the stable sort by weight. -/
theorem map_fst_byRank (h : ∀ c ∈ clones, c.weight ≠ .nan) :
    (byRank clones).map Prod.fst = clones.mergeSort notLighter := by
  have hsame : ∀ c ∈ clones, ∀ d ∈ clones, heavier c d = notLighter (id c) (id d) := by
    intro c hc d hd
    rw [id, id, notLighter, Double.order?_eq (h c hc) (h d hd)]
    rcases lt_or_ge c.weight.place d.weight.place with hlt | hge
    · rw [heavier, decide_eq_false (not_le.2 hlt), compare_lt_iff_lt.2 hlt]
      rfl
    · have hne : compare c.weight.place d.weight.place ≠ .lt :=
        fun h => absurd (compare_lt_iff_lt.1 h) hge.not_gt
      rw [heavier, decide_eq_true hge]
      simpa using hne
  have hsort := List.map_mergeSort hsame
  rw [List.map_id, List.map_id] at hsort
  rw [← hsort]
  exact List.mergeSort_zipIdx

/-- **The heap in order**: the clones of a heap from the highest rank to the lowest. -/
theorem ranked_eq {best : List (Clone × ℕ)} (hbest : Sorted best) (hw : Weighed best) :
    ranked (best.reverse.map entry) = best.map Prod.fst := by
  have hsame : ∀ x ∈ best.reverse, ∀ y ∈ best.reverse,
      List.zipIdxLE heavier x y = !(entry x).ranksBelow (entry y) := by
    intro x hx y hy
    rw [ranksBelow_entry (hw.reverse x hx) (hw.reverse y hy), Bool.not_not]
    cases h : List.zipIdxLE heavier x y <;> simp [Outranks, h]
  have hsort : best.reverse.mergeSort (List.zipIdxLE heavier) = best := by
    refine hbest.eq_of_perm ?_ ?_
    · exact List.pairwise_mergeSort (List.zipIdxLE_trans heavier_trans)
        (List.zipIdxLE_total heavier_total) _
    · exact (List.mergeSort_perm _ _).trans (List.reverse_perm best)
  rw [ranked, ← List.map_mergeSort hsame, hsort, List.map_map]
  rfl

/-! ## Counting -/

/-- What has been kept after some clones: the first ones, or a heap of those of highest rank. -/
structure Counted (limits : Limits) (size : ℕ) (clones : List Clone) (t : Tally) : Prop where
  count : t.count = clones.length
  kept : limits.ranking = .scan → t.kept = clones.take size ∧ t.heap = []
  heap : limits.ranking = .value → t.heap = ((byRank clones).take size).reverse.map entry

theorem counted_empty (limits : Limits) (size : ℕ) : Counted limits size [] .empty where
  count := rfl
  kept := fun _ => ⟨by simp [Tally.empty], rfl⟩
  heap := fun _ => by simp [Tally.empty, byRank]

theorem keepFirst_eq (hmax : limits.maxKept.number? = some (.int size)) (clones : List Clone)
    (c : Clone) :
    keepFirst limits (clones.take size) c = .ok ((clones ++ [c]).take size) := by
  rw [keepFirst, hasRoom_eq hmax, List.length_take]
  by_cases h : clones.length < size
  · have hroom : min size clones.length < size := by omega
    have hall : (clones ++ [c]).take size = clones ++ [c] := by
      rw [List.take_of_length_le]
      simpa using h
    simp only [bind, Except.bind, hroom, decide_true, if_true, hall, List.take_of_length_le h.le]
    rfl
  · have hfull : ¬ min size clones.length < size := by omega
    simp only [bind, Except.bind, hfull, decide_false, Bool.false_eq_true, if_false,
      List.take_append_of_le_length (not_lt.1 h)]
    rfl

/-- One clone more. -/
theorem Counted.add (hmax : limits.maxKept.number? = some (.int size))
    (hsize : 1 ≤ size) {t : Tally} (h : Counted limits size clones t)
    (hw : ∀ d ∈ clones, d.weight ≠ .nan) {c : Clone}
    (hc : c.weight ≠ .nan) :
    ∃ t', Tally.add limits t c = .ok t' ∧ Counted limits size (clones ++ [c]) t' := by
  unfold Tally.add
  cases hranking : limits.ranking with
  | scan =>
    obtain ⟨hkept, hheap⟩ := h.kept hranking
    rw [hkept, keepFirst_eq hmax]
    exact ⟨_, rfl, by simp [h.count], fun _ => ⟨rfl, hheap⟩,
      fun hvalue => by simp [hranking] at hvalue⟩
  | value =>
    have hbest := sorted_take_byRank clones size
    have hweighed := weighed_take_byRank hw size
    -- the turn of the new clone is the number of clones before it, which none of them has
    have hturn : (c, clones.length).2 ∉ ((byRank clones).take size).map Prod.snd := by
      intro hmem
      rw [List.map_take] at hmem
      exact absurd (mem_turns_byRank.1 (List.mem_of_mem_take hmem)) (lt_irrefl _)
    have hstep := keepBest_eq hmax hsize hbest hweighed (List.length_take_le _ _)
      (e := (c, clones.length)) hc hturn
    have hentry : Entry.ofClone t.count c = entry (c, clones.length) := by rw [h.count]; rfl
    rw [h.heap hranking, hentry, hstep, ← take_orderedInsert, ← byRank_append]
    exact ⟨_, rfl, by simp [h.count], fun hscan => by simp [hranking] at hscan, fun _ => rfl⟩

/-- **All clones**: counting never fails, and keeps what it should. -/
theorem count_counted (hmax : limits.maxKept.number? = some (.int size)) (hsize : 1 ≤ size)
    (hw : ∀ c ∈ clones, c.weight ≠ .nan) :
    ∃ t, count limits clones = .ok t ∧ Counted limits size clones t := by
  -- the clones come one after the other, so the induction is on the end of the list
  induction clones using List.reverseRecOn with
  | nil => exact ⟨_, rfl, counted_empty limits size⟩
  | append_singleton clones c ih =>
    have hclones : ∀ d ∈ clones, d.weight ≠ .nan := fun d hd => hw d (by simp [hd])
    obtain ⟨t, ht, hcounted⟩ := ih hclones
    obtain ⟨t', ht', hcounted'⟩ := hcounted.add hmax hsize hclones (hw c (by simp))
    refine ⟨t', ?_, hcounted'⟩
    rw [count, List.foldlM_append, ← count, ht]
    change [c].foldlM (Tally.add limits) t = _
    rw [List.foldlM_cons, ht']
    rfl

theorem Counted.length_heap_le {t : Tally} (h : Counted limits size clones t) :
    t.heap.length ≤ size := by
  cases hranking : limits.ranking with
  | scan => rw [(h.kept hranking).2]; exact Nat.zero_le _
  | value =>
    rw [h.heap hranking, List.length_map, List.length_reverse]
    exact List.length_take_le _ _

/-- No two of the entries in a heap and the next one have the same rank. -/
theorem Counted.pairwise_rank {t : Tally} (h : Counted limits size clones t) (c : Clone) :
    (Entry.ofClone clones.length c :: t.heap).Pairwise fun x y => x.rank? y ≠ some .eq := by
  cases hranking : limits.ranking with
  | scan => rw [(h.kept hranking).2]; exact List.pairwise_singleton _ _
  | value =>
    have hbest := sorted_take_byRank clones size
    rw [h.heap hranking, List.pairwise_cons]
    refine ⟨fun y hy => ?_, ?_⟩
    · obtain ⟨x, hx, rfl⟩ := List.mem_map.1 hy
      have hmem : x ∈ byRank clones := List.mem_of_mem_take (List.mem_reverse.1 hx)
      have hlt : x.2 < clones.length := mem_turns_byRank.1 (List.mem_map_of_mem hmem)
      exact rank_entry_ne_eq (x := (c, clones.length)) hlt.ne'
    · rw [List.pairwise_map, List.pairwise_reverse]
      refine (List.pairwise_map.1 hbest.turns).imp fun hne => ?_
      exact rank_entry_ne_eq (Ne.symm hne)

theorem Counted.result_eq {t : Tally} (h : Counted limits size clones t)
    (hw : ∀ c ∈ clones, c.weight ≠ .nan) : t.result limits = match limits.ranking with
      | .scan => clones.take size
      | .value => (clones.mergeSort notLighter).take size := by
  unfold Tally.result
  cases hranking : limits.ranking with
  | scan => exact (h.kept hranking).1
  | value =>
    have hbest := sorted_take_byRank clones size
    have hweighed := weighed_take_byRank hw size
    simp only
    rw [h.heap hranking, ranked_eq hbest hweighed, List.map_take, map_fst_byRank hw]

/-! ## Weights -/

theorem ofNat_isFinite {n : ℕ} (h : (n : ℤ) ≤ Value.greatestSize) :
    ∃ m e hfits, Double.ofNat n = .finite false m e hfits := by
  refine Double.ofRatio_isFinite one_pos ?_ false
  have hn : (n : ℚ) < 2 ^ (63 : ℤ) := by
    have : n < 2 ^ 63 := by
      rw [Value.greatestSize] at h
      omega
    exact_mod_cast this
  rw [Nat.cast_one, div_one]
  exact hn.trans (zpow_lt_zpow_right₀ (by norm_num) (by norm_num))

theorem share_isFinite {equal lines : ℕ} (h : equal ≤ lines) :
    ∃ m e hfits, share equal lines = .finite false m e hfits := by
  unfold share
  split_ifs with hlines
  · exact ⟨0, -1074, by decide, rfl⟩
  · refine Double.ofRatio_isFinite (Nat.pos_of_ne_zero hlines) ?_ false
    have hle : (equal : ℚ) / lines ≤ 1 := div_le_one_of_le₀ (by exact_mod_cast h) (by positivity)
    exact hle.trans_lt (one_lt_zpow₀ (by norm_num) (by norm_num))

/-- The size and the similarity of a clone. -/
theorem cloneAt_eq_some {b : Bounds} {accepts : Double → Bool} {f g : NormalFile}
    {i j : ℕ} {c : Clone} (h : cloneAt b accepts f g i j = some c) :
    c.size ≤ f.lines.length ∧ ∃ equal ≤ c.size - 1, c.similarity = share equal (c.size - 1) := by
  simp only [cloneAt] at h
  split_ifs at h
  obtain rfl := Option.some.inj h
  refine ⟨?_, _, ?_, rfl⟩
  · simp only [reach]
    omega
  · exact List.countP_le_length.trans (by rw [List.length_range'])

theorem mem_exhaustive {b : Bounds} {accepts : Double → Bool} {files : List NormalFile} {c : Clone}
    (h : c ∈ exhaustive b accepts files) :
    ∃ f ∈ files, ∃ g i j, cloneAt b accepts f g i j = some c := by
  obtain ⟨⟨f, p⟩, hf, hc⟩ := List.mem_flatMap.1 h
  obtain ⟨⟨g, q⟩, -, hc⟩ := List.mem_flatMap.1 hc
  dsimp only at hc
  split_ifs at hc
  · obtain ⟨i, -, hc⟩ := List.mem_flatMap.1 hc
    obtain ⟨j, -, hc⟩ := List.mem_filterMap.1 hc
    exact ⟨f, List.fst_mem_of_mem_zipIdx hf, g, i, j, hc⟩
  · exact absurd hc (by simp)

/-- The weight of a clone that is found is a number, for no file has more lines than a sequence can
have. -/
theorem weight_ne_nan {b : Bounds} {accepts : Double → Bool} {files : List NormalFile}
    (hlines : ∀ f ∈ files, (f.lines.length : ℤ) ≤ Value.greatestSize) {c : Clone}
    (h : c ∈ exhaustive b accepts files) : c.weight ≠ .nan := by
  obtain ⟨f, hf, g, i, j, hc⟩ := mem_exhaustive h
  obtain ⟨hsize, equal, hequal, hshare⟩ := cloneAt_eq_some hc
  have hlength := hlines f hf
  obtain ⟨m, e, hfits, hnat⟩ := ofNat_isFinite (n := c.size) (by omega)
  obtain ⟨m', e', hfits', hsimilarity⟩ := share_isFinite hequal
  rw [Clone.weight, hnat, hshare, hsimilarity]
  exact Double.mul_ne_nan hfits hfits'

/-! ## The whole search -/

theorem detect_outcome {files : List SourceFile} {t : Tally}
    (hstopped : (search limits (files.map SourceFile.normal)).stopped = none)
    (hcount : count limits (search limits (files.map SourceFile.normal)).clones = .ok t) :
    ∃ d, (Duplication.detect limits files).outcome = .ok d ∧ d.kept = t.result limits := by
  unfold Duplication.detect
  simp only [hcount, hstopped]
  change ∃ d, (ite _ _ _ : Traced Duplication).outcome = .ok d ∧ _
  by_cases hcapped : (t.result limits).length < t.count
  · rw [if_pos hcapped]
    exact ⟨_, rfl, rfl⟩
  · rw [if_neg hcapped]
    exact ⟨_, rfl, rfl⟩

/-- **The clones that are kept** are the first ones of the search, or the first ones of the stable
sort by weight.  The weights are numbers; the heap never grows beyond the number of clones to keep,
and no two of the entries that meet in it have the same rank. -/
theorem detect_kept (limits : Limits) (b : Bounds) (h : limits.Has b)
    (hleast : 1 ≤ b.minSize) (size : ℕ) (hmax : limits.maxKept.number? = some (.int size))
    (hsize : 1 ≤ size) (files : List SourceFile)
    (hlines : ∀ f ∈ files, (f.lines.length : ℤ) ≤ Value.greatestSize) :
    let found := search limits (files.map SourceFile.normal)
    found.stopped = none ∧ (∀ c ∈ found.clones, c.weight ≠ .nan) ∧
      (∃ d, (Duplication.detect limits files).outcome = .ok d ∧ d.kept = match limits.ranking with
        | .scan => found.clones.take size
        | .value => (found.clones.mergeSort notLighter).take size) ∧
      ∀ n ≤ found.clones.length, ∃ t, count limits (found.clones.take n) = .ok t ∧
        t.heap.length ≤ size ∧
        ∀ c, (Entry.ofClone n c :: t.heap).Pairwise fun x y => x.rank? y ≠ some .eq := by
  intro found
  have hfound : found = ⟨exhaustive b.widened (notBelow b) (files.map SourceFile.normal), none⟩ :=
    search_eq h hleast _
  have hstopped : found.stopped = none := by rw [hfound]
  have hnormal : ∀ f ∈ files.map SourceFile.normal, (f.lines.length : ℤ) ≤ Value.greatestSize := by
    intro f hf
    obtain ⟨f, hmem, rfl⟩ := List.mem_map.1 hf
    simpa [SourceFile.normal] using hlines f hmem
  have hweights : ∀ c ∈ found.clones, c.weight ≠ .nan := by
    intro c hc
    rw [hfound] at hc
    exact weight_ne_nan hnormal hc
  refine ⟨hstopped, hweights, ?_, fun n hn => ?_⟩
  · obtain ⟨t, ht, hcounted⟩ := count_counted hmax hsize hweights
    obtain ⟨d, hd, hkept⟩ := detect_outcome hstopped ht
    exact ⟨d, hd, hkept.trans (hcounted.result_eq hweights)⟩
  · have hfirst : ∀ c ∈ found.clones.take n, c.weight ≠ .nan :=
      fun c hc => hweights c (List.mem_of_mem_take hc)
    obtain ⟨t, ht, hcounted⟩ := count_counted hmax hsize hfirst
    have hlength : (found.clones.take n).length = n := by
      rw [List.length_take]
      omega
    refine ⟨t, ht, hcounted.length_heap_le, fun c => ?_⟩
    have hpairwise := hcounted.pairwise_rank c
    rwa [hlength] at hpairwise

/-- Two files of two equal lines each give four clones, of which one is kept. -/
theorem detect_kept_two_files :
    let limits : Limits := ⟨.int 1, .int 0, .int 2, .int 1, .int 1, .int 0, .value⟩
    let b : Bounds := ⟨1, 2, 1, 0, .int 0⟩
    let files : List SourceFile := [⟨"a", "x\nx"⟩, ⟨"b", "x\nx"⟩]
    let found := search limits (files.map SourceFile.normal)
    limits.Has b ∧ 1 ≤ b.minSize ∧ limits.maxKept.number? = some (.int (1 : ℕ)) ∧
      (∀ f ∈ files, (f.lines.length : ℤ) ≤ Value.greatestSize) ∧ found.clones.length = 4 ∧
      ∃ d, (Duplication.detect limits files).outcome = .ok d ∧
        d.kept = (found.clones.mergeSort notLighter).take 1 := by
  intro limits b files found
  have h : limits.Has b := ⟨rfl, rfl, rfl, rfl, rfl⟩
  have hlines : ∀ f ∈ files, (f.lines.length : ℤ) ≤ Value.greatestSize := by decide +kernel
  have hkept := (detect_kept limits b h (by decide) 1 rfl le_rfl files hlines).2.2.1
  exact ⟨h, by decide, rfl, hlines, by decide +kernel, hkept⟩

end SourceSurvey.Clone
