import SourceSurvey.Clone.Search
import SourceSurvey.Proofs.Double.Order
import SourceSurvey.Proofs.Value.Order

/-!
# The search is exhaustive

`exhaustive` looks at every pair of lines in every pair of files, in order, and keeps the pair if it
is an anchor of a clone.  `search` gives the same clones in the same order although it looks lines
up in an index and leaves out the lines that are too close to the end of a file
(`search_eq_exhaustive`).

* `Bounds`, `Limits.Has`: limits that are numbers of the right kind;
* `walk_eq`, `window_eq`: the window from an anchor;
* `positions_eq`: the index of a file;
* `compareFrom_eq`, `comparePair_eq`: two files;
* `search_eq`: all files.
-/

namespace SourceSurvey

/-! ## Limits that are numbers -/

/-- The limits of a search as numbers. -/
structure Bounds where
  minSize : ℤ
  maxWindow : ℤ
  minAnchor : ℤ
  minMatch : ℤ
  similarity : Number

/-- The bounds with windows that hold at least their anchor. -/
def Bounds.widened (b : Bounds) : Bounds := { b with maxWindow := max 1 b.maxWindow }

/-- Limits that are the given numbers. -/
structure Limits.Has (limits : Limits) (b : Bounds) : Prop where
  minSize : limits.minSize.number? = some (.int b.minSize)
  maxWindow : limits.maxWindow.number? = some (.int b.maxWindow)
  minAnchor : limits.minAnchor.number? = some (.int b.minAnchor)
  minMatch : limits.minMatch.number? = some (.int b.minMatch)
  similarity : limits.similarity.number? = some b.similarity

namespace Limits.Has

variable {limits : Limits} {b : Bounds}

theorem leastSize (h : limits.Has b) : limits.leastSize = .ok b.minSize := by
  have hsize := h.minSize
  unfold Limits.leastSize
  cases hv : limits.minSize <;> simp_all [Value.number?]

theorem isShortAnchor (h : limits.Has b) (n : ℕ) :
    limits.isShortAnchor n = .ok (decide ((n : ℤ) < b.minAnchor)) := by
  rw [Limits.isShortAnchor, Value.test_of_number rfl h.minAnchor, Comparison.ofNumbers_int_lt]

theorem isLongMatch (h : limits.Has b) (n : ℕ) :
    limits.isLongMatch n = .ok (decide (b.minMatch < (n : ℤ))) := by
  rw [Limits.isLongMatch, Value.test_of_number rfl h.minMatch, Comparison.ofNumbers_int_gt]

theorem mayGrow (h : limits.Has b) (n : ℕ) :
    limits.mayGrow n = .ok (decide ((n : ℤ) < b.maxWindow)) := by
  rw [Limits.mayGrow, Value.test_of_number rfl h.maxWindow, Comparison.ofNumbers_int_lt]

theorem isUnlike (h : limits.Has b) (x : Double) :
    limits.isUnlike x = .ok (Comparison.lt.ofNumbers (.float x) b.similarity) := by
  rw [Limits.isUnlike, Value.test_of_number rfl h.similarity]

end Limits.Has

namespace Clone

/-! ## The exhaustive scan -/

/-- The number of lines from two positions on within both files and the greatest window. -/
def reach (b : Bounds) (as bs : List Line) (i j : ℕ) : ℕ :=
  min (min (as.length - i) (bs.length - j)) b.maxWindow.toNat

/-- The number of places behind two positions, in a window of the given size, at which the lines are
equal and long enough. -/
def equalLines (b : Bounds) (as bs : List Line) (i j size : ℕ) : ℕ :=
  (List.range' 1 (size - 1)).countP fun k =>
    as.getD (i + k) [] = bs.getD (j + k) [] ∧ b.minMatch < (as.getD (i + k) []).length

/-- The share of equal lines, which is zero where there are no lines. -/
def share (equal lines : ℕ) : Double :=
  if lines = 0 then Double.zero false else Double.ofRatio false equal lines

/-- The clone that starts at two lines: they are equal and long enough, and the window from them is
large enough and has an accepted similarity. -/
def cloneAt (b : Bounds) (accepts : Double → Bool) (f g : NormalFile) (i j : ℕ) : Option Clone :=
  let size := reach b f.lines g.lines i j
  let similarity := share (equalLines b f.lines g.lines i j size) (size - 1)
  if f.lines.getD i [] = g.lines.getD j [] ∧ b.minAnchor ≤ (f.lines.getD i []).length ∧
      b.minSize ≤ size ∧ accepts similarity = true then
    some ⟨⟨f.path, i + 1, i + size⟩, ⟨g.path, j + 1, j + size⟩, size, similarity⟩
  else none

/-- The clones of two files: every line of the first with every line of the second. -/
def exhaustivePair (b : Bounds) (accepts : Double → Bool) (f g : NormalFile) : List Clone :=
  (List.range f.lines.length).flatMap fun i =>
    (List.range g.lines.length).filterMap fun j => cloneAt b accepts f g i j

/-- The clones of all pairs of files with different paths, the first file before the second. -/
def exhaustive (b : Bounds) (accepts : Double → Bool) (files : List NormalFile) : List Clone :=
  files.zipIdx.flatMap fun (f, p) => files.zipIdx.flatMap fun (g, q) =>
    if p < q ∧ f.path ≠ g.path then exhaustivePair b accepts f g else []

/-! ## Windows -/

variable {limits : Limits} {b : Bounds}

/-- Whether two lines behind the anchor count as equal. -/
def countsAsEqual (b : Bounds) (lines : Line × Line) : Bool :=
  lines.1 = lines.2 ∧ b.minMatch < (lines.1.length : ℤ)

/-- One step of a window: it takes the next two lines, or has its greatest size. -/
theorem walk_cons (h : limits.Has b) (w : Window) (a c : Line) (as bs : List Line) :
    walk limits w (a :: as) (c :: bs) =
      if (w.size : ℤ) < b.maxWindow then
        walk limits ⟨w.size + 1, w.equal + if countsAsEqual b (a, c) then 1 else 0⟩ as bs
      else .ok w := by
  rw [walk, h.mayGrow, h.isLongMatch]
  -- the length is only looked at where the lines are equal
  by_cases hgrow : (w.size : ℤ) < b.maxWindow
  · by_cases hac : a = c
    · simp [hgrow, hac, countsAsEqual, bind, Except.bind]
    · simp [hgrow, hac, countsAsEqual, bind, Except.bind, pure, Except.pure]
  · simp [hgrow, bind, Except.bind, pure, Except.pure]

/-- A window grows to the end of the shorter list of lines, or to its greatest size. -/
theorem walk_eq (h : limits.Has b) (w : Window) (as bs : List Line) :
    walk limits w as bs = .ok
      ⟨w.size + min (min as.length bs.length) (b.maxWindow.toNat - w.size), w.equal +
        ((as.zip bs).take (min (min as.length bs.length) (b.maxWindow.toNat - w.size))).countP
          (countsAsEqual b)⟩ := by
  induction as generalizing w bs with
  | nil => simp [walk, pure, Except.pure]
  | cons a as ih =>
    cases bs with
    | nil => simp [walk, pure, Except.pure]
    | cons c bs =>
      rw [walk_cons h]
      by_cases hgrow : (w.size : ℤ) < b.maxWindow
      · have hlimit : b.maxWindow.toNat - w.size = b.maxWindow.toNat - (w.size + 1) + 1 := by omega
        rw [if_pos hgrow, ih, hlimit]
        simp only [List.length_cons, Nat.add_min_add_right, List.zip_cons_cons, List.take_succ_cons,
          List.countP_cons]
        congr 2
        · omega
        · omega
      · have hlimit : b.maxWindow.toNat - w.size = 0 := by omega
        rw [if_neg hgrow, hlimit]
        simp

/-- The lines of two files behind two positions, in pairs. -/
theorem zip_drop_take {as bs : List Line} {i j n : ℕ} (hi : i + n < as.length)
    (hj : j + n < bs.length) :
    ((as.drop (i + 1)).zip (bs.drop (j + 1))).take n =
      (List.range' 1 n).map fun k => (as.getD (i + k) [], bs.getD (j + k) []) := by
  refine List.ext_getElem ?_ fun k hk _ => ?_
  · simp only [List.length_take, List.length_zip, List.length_drop, List.length_map,
      List.length_range']
    omega
  · have hkn : k < n := (List.length_take_le n _).trans_lt' hk
    simp only [List.getElem_take, List.getElem_zip, List.getElem_drop, List.getElem_map,
      List.getElem_range', one_mul]
    rw [List.getD_eq_getElem?_getD, List.getD_eq_getElem?_getD, List.getElem?_eq_getElem (by omega),
      List.getElem?_eq_getElem (by omega)]
    simp only [Nat.add_assoc, Option.getD_some]

/-- **The window from two lines** reaches as far as both files and the greatest size allow. -/
theorem window_eq (h : limits.Has b) {as bs : List Line} {i j : ℕ} (hi : i < as.length)
    (hj : j < bs.length) :
    window limits (as.drop (i + 1)) bs j =
      .ok ⟨reach b.widened as bs i j, equalLines b as bs i j (reach b.widened as bs i j)⟩ := by
  have hafter : linesAfter bs (j : ℤ) = some (bs.drop (j + 1)) := by
    rw [linesAfter, if_pos (by omega)]
    rfl
  have hsize : 1 + min (min (as.drop (i + 1)).length (bs.drop (j + 1)).length)
      (b.maxWindow.toNat - 1) =
      reach b.widened as bs i j := by
    simp only [reach, Bounds.widened, List.length_drop]
    omega
  have hrest : min (min (as.drop (i + 1)).length (bs.drop (j + 1)).length) (b.maxWindow.toNat - 1) =
      reach b.widened as bs i j - 1 := by omega
  have hreach : reach b.widened as bs i j ≤ as.length - i ∧
      reach b.widened as bs i j ≤ bs.length - j := by
    simp only [reach]
    omega
  rw [window, hafter]
  dsimp only
  rw [walk_eq h]
  dsimp only
  rw [hsize, hrest, zip_drop_take (by omega) (by omega), List.countP_map, Nat.zero_add]
  rfl

/-- A similarity that is not below the threshold. -/
def notBelow (b : Bounds) (x : Double) : Bool := !Comparison.lt.ofNumbers (.float x) b.similarity

/-- The clone from two equal lines that are long enough. -/
theorem expand_eq (h : limits.Has b) {f g : NormalFile} {i j : ℕ} (hi : i < f.lines.length)
    (hj : j < g.lines.length) (hline : f.lines.getD i [] = g.lines.getD j [])
    (hanchor : b.minAnchor ≤ (f.lines.getD i []).length) :
    expand limits b.minSize f g i (f.lines.drop (i + 1)) j =
      .ok (cloneAt b.widened (notBelow b) f g i j) := by
  set size := reach b.widened f.lines g.lines i j with hsize
  set equal := equalLines b f.lines g.lines i j size with hequal
  have hpos : 1 ≤ size := by
    simp only [hsize, reach, Bounds.widened]
    omega
  have hshare : Window.similarity ⟨size, equal⟩ = share equal (size - 1) := by
    simp only [Window.similarity, share, show size - 1 = 0 ↔ size = 1 by omega]
  have hclone : cloneAt b.widened (notBelow b) f g i j =
      if b.minSize ≤ size ∧ notBelow b (share equal (size - 1)) = true then
        some ⟨⟨f.path, i + 1, i + size⟩, ⟨g.path, j + 1, j + size⟩, size, share equal (size - 1)⟩
      else none := by
    have hcond : (f.lines.getD i [] = g.lines.getD j [] ∧ b.minAnchor ≤ (f.lines.getD i []).length ∧
        b.minSize ≤ size ∧ notBelow b (share equal (size - 1)) = true) ↔
          (b.minSize ≤ size ∧ notBelow b (share equal (size - 1)) = true) :=
      ⟨fun hall => hall.2.2, fun hrest => ⟨hline, hanchor, hrest⟩⟩
    exact if_congr hcond rfl rfl
  rw [expand, window_eq h hi hj, hclone]
  simp only [bind, Except.bind, ← hsize, ← hequal, hshare, h.isUnlike]
  by_cases hleast : (size : ℤ) < b.minSize
  · rw [if_pos hleast, if_neg (by omega)]
    rfl
  · rw [if_neg hleast]
    by_cases hunlike : Comparison.lt.ofNumbers (.float (share equal (size - 1))) b.similarity = true
    · simp [hunlike, notBelow, pure, Except.pure]
    · simp [hunlike, notBelow, pure, Except.pure, not_lt.1 hleast]

/-! ## The index -/

theorem positionsFrom_eq (start : ℤ) (line : Line) (lines : List Line) :
    positionsFrom start line lines =
      ((List.range lines.length).filter fun j => lines.getD j [] = line).map
        fun j : ℕ => start + j := by
  induction lines generalizing start with
  | nil => rfl
  | cons l lines ih =>
    have hshift : (((List.range lines.length).filter fun j => lines.getD j [] = line).map
        fun j : ℕ => start + 1 + j) =
      (((List.range lines.length).map Nat.succ).filter fun j => (l :: lines).getD j [] = line).map
        fun j : ℕ => start + j := by
      rw [List.filter_map, List.map_map]
      refine List.map_congr_left fun j _ => ?_
      simp only [Function.comp_apply]
      push_cast
      ring
    rw [positionsFrom, ih, List.length_cons, List.range_succ_eq_map, List.filter_cons, hshift]
    by_cases hl : l = line
    · simp [hl]
    · simp [hl]

/-- The index leads from a line to its positions below the limit. -/
theorem positions_eq {least : ℤ} (hleast : 1 ≤ least) (lines : List Line) (line : Line) :
    positions least lines line =
      ((List.range (lines.length - least + 1).toNat).filter fun j => lines.getD j [] = line).map
        fun j : ℕ => (j : ℤ) := by
  set limit := (lines.length - least + 1 : ℤ).toNat with hlimit
  have hlength : (lines.take limit).length = limit := by
    rw [List.length_take]
    omega
  rw [positions, positionsFrom_eq, ← hlimit, hlength]
  have hfilter : ((List.range limit).filter fun j => (lines.take limit).getD j [] = line) =
      (List.range limit).filter fun j => lines.getD j [] = line := by
    refine List.filter_congr fun j hj => ?_
    rw [List.getD_eq_getElem?_getD, List.getD_eq_getElem?_getD,
      List.getElem?_take_of_lt (List.mem_range.1 hj)]
  rw [hfilter]
  exact List.map_congr_left fun j _ => by simp

/-! ## Two files -/

theorem sequence_eq {α : Type} {search : α → Found} {out : α → List Clone} {xs : List α}
    (h : ∀ x ∈ xs, search x = ⟨out x, none⟩) :
    Found.sequence search xs = ⟨xs.flatMap out, none⟩ := by
  induction xs with
  | nil => rfl
  | cons x xs ih =>
    rw [Found.sequence, h x List.mem_cons_self, ih fun y hy => h y (List.mem_cons_of_mem _ hy)]
    rfl

theorem andThen_eq {out more : List Clone} {next : Unit → Found} (h : next () = ⟨more, none⟩) :
    Found.andThen ⟨out, none⟩ next = ⟨out ++ more, none⟩ := by
  simp only [Found.andThen, h]

variable {accepts : Double → Bool} {f g : NormalFile} {i j : ℕ}

theorem cloneAt_of_ne (h : f.lines.getD i [] ≠ g.lines.getD j []) :
    cloneAt b accepts f g i j = none :=
  if_neg fun hall => h hall.1

theorem cloneAt_of_short (h : (f.lines.getD i []).length < b.minAnchor) :
    cloneAt b accepts f g i j = none :=
  if_neg fun hall => absurd hall.2.1 (not_le.2 h)

/-- No clone starts so close to the end of a file that its lines do not reach the least size. -/
theorem cloneAt_of_end (h : (f.lines.length - i : ℕ) < b.minSize ∨
    (g.lines.length - j : ℕ) < b.minSize) :
    cloneAt b accepts f g i j = none := by
  refine if_neg fun hall => ?_
  have hsize := hall.2.2.1
  simp only [reach] at hsize
  omega

/-- The clones from one line of the first file. -/
def row (b : Bounds) (accepts : Double → Bool) (f g : NormalFile) (i : ℕ) : List Clone :=
  (List.range g.lines.length).filterMap fun j => cloneAt b accepts f g i j

theorem row_eq_nil (h : ∀ j, cloneAt b accepts f g i j = none) : row b accepts f g i = [] := by
  simp [row, h]

/-- Beyond the limit of the index no clone starts. -/
theorem filterMap_range_of_end (hsize : 1 ≤ b.minSize) :
    (List.range (g.lines.length - b.minSize + 1).toNat).filterMap
      (fun j => cloneAt b accepts f g i j) =
      row b accepts f g i := by
  -- the positions are cut in two at the limit of the index
  obtain ⟨rest, hrest⟩ : ∃ rest, g.lines.length =
      (g.lines.length - b.minSize + 1 : ℤ).toNat + rest :=
    Nat.exists_eq_add_of_le (by omega)
  have hend :
      ((List.range rest).map fun k => (g.lines.length - b.minSize + 1 : ℤ).toNat + k).filterMap
      (fun j => cloneAt b accepts f g i j) = [] := by
    refine List.filterMap_eq_nil_iff.2 fun j hj => ?_
    obtain ⟨k, hk, rfl⟩ := List.mem_map.1 hj
    exact cloneAt_of_end (Or.inr (by omega))
  rw [row]
  nth_rewrite 2 [hrest]
  rw [List.range_add, List.filterMap_append, hend, List.append_nil]

/-- The index leads to the clones from one line. -/
theorem sequence_positions (h : limits.Has b) (hsize : 1 ≤ b.minSize) (hi : i < f.lines.length)
    (hanchor : b.minAnchor ≤ (f.lines.getD i []).length) :
    Found.sequence (fun j => .ofExpand (expand limits b.minSize f g i (f.lines.drop (i + 1)) j))
        (positions b.minSize g.lines (f.lines.getD i [])) =
      ⟨row b.widened (notBelow b) f g i, none⟩ := by
  rw [positions_eq hsize]
  have hexpand : ∀ x ∈ ((List.range (g.lines.length - b.minSize + 1).toNat).filter
      fun j => g.lines.getD j [] = f.lines.getD i []).map (fun j : ℕ => (j : ℤ)),
      Found.ofExpand (expand limits b.minSize f g i (f.lines.drop (i + 1)) x) =
        ⟨(cloneAt b.widened (notBelow b) f g i x.toNat).toList, none⟩ := by
    intro x hx
    simp only [List.mem_map, List.mem_filter, List.mem_range, decide_eq_true_eq] at hx
    obtain ⟨j, ⟨hj, hline⟩, rfl⟩ := hx
    rw [expand_eq h hi (by omega) hline.symm hanchor, Int.toNat_natCast]
    cases cloneAt b.widened (notBelow b) f g i j <;> rfl
  rw [sequence_eq hexpand, List.flatMap_map]
  simp only [Int.toNat_natCast]
  congr 1
  rw [← List.filterMap_eq_flatMap_toList, List.filterMap_filter]
  refine (List.filterMap_congr fun j _ => ?_).trans (filterMap_range_of_end (b := b.widened) hsize)
  by_cases hj : g.lines.getD j [] = f.lines.getD i []
  · rw [if_pos (decide_eq_true hj)]
  · rw [if_neg (by simpa using hj), cloneAt_of_ne (Ne.symm hj)]

/-- Going through the lines of the first file gives the clones from each of them. -/
theorem compareFrom_eq (h : limits.Has b) (hsize : 1 ≤ b.minSize) {as : List Line}
    (has : f.lines.drop i = as) :
    compareFrom limits b.minSize f g (positions b.minSize g.lines) i as =
      ⟨(List.range' i as.length).flatMap (row b.widened (notBelow b) f g), none⟩ := by
  induction as generalizing i with
  | nil =>
    rw [compareFrom, if_pos hsize]
    rfl
  | cons anchor as ih =>
    have hi : i < f.lines.length := by
      by_contra hi
      rw [List.drop_eq_nil_of_le (by omega)] at has
      exact absurd has (by simp)
    have hdrop := List.drop_eq_getElem_cons hi
    rw [has] at hdrop
    obtain ⟨hanchor, hrest⟩ := List.cons.inj hdrop
    have hget : f.lines.getD i [] = anchor := by
      rw [List.getD_eq_getElem?_getD, List.getElem?_eq_getElem hi, Option.getD_some, hanchor]
    have hmore := ih hrest.symm
    rw [compareFrom]
    by_cases hend : (f.lines.length : ℤ) - b.minSize < i
    · -- every line from here on is too close to the end
      have hrows :
          (List.range' i (anchor :: as).length).flatMap (row b.widened (notBelow b) f g) = [] := by
        refine List.flatMap_eq_nil_iff.2 fun k hk => row_eq_nil fun j => cloneAt_of_end (Or.inl ?_)
        have := (List.mem_range'_1.1 hk).1
        change ((f.lines.length - k : ℕ) : ℤ) < b.minSize
        omega
      rw [if_pos hend, hrows]
      rfl
    · rw [if_neg hend, h.isShortAnchor, List.length_cons, List.range'_succ, List.flatMap_cons]
      by_cases hshort : (anchor.length : ℤ) < b.minAnchor
      · have hrow : row b.widened (notBelow b) f g i = [] :=
          row_eq_nil fun j => cloneAt_of_short (by rw [hget]; exact hshort)
        simp only [hshort, decide_true, hmore, hrow, List.nil_append]
      · have hseq := sequence_positions (g := g) h hsize hi (by rw [hget]; exact not_lt.1 hshort)
        rw [hget, ← hrest] at hseq
        simp only [hshort, decide_false, hseq]
        exact andThen_eq hmore

/-- **The search in two files looks at every pair of lines.** -/
theorem comparePair_eq (h : limits.Has b) (hsize : 1 ≤ b.minSize) (f g : NormalFile) :
    comparePair limits none f g =
      ⟨if f.path ≠ g.path then exhaustivePair b.widened (notBelow b) f g else [], none⟩ := by
  rw [comparePair]
  by_cases hpath : f.path = g.path
  · rw [if_pos hpath, if_neg (not_not.2 hpath)]
    rfl
  · have hrows := compareFrom_eq h hsize (g := g) (List.drop_zero (l := f.lines))
    rw [if_neg hpath, if_pos hpath, h.leastSize]
    simp only [if_pos hsize, hrows, ← List.range_eq_range']
    rfl

/-! ## All files -/

/-- Of the pairs of a list with itself, those in which the first stands before the second. -/
def orderedPairs {α β : Type} (pair : α → α → List β) (xs : List (α × ℕ)) : List β :=
  xs.flatMap fun (x, p) => xs.flatMap fun (y, q) => if p < q then pair x y else []

theorem orderedPairs_cons {α β : Type} (pair : α → α → List β) (a : α) (xs : List α) (n : ℕ) :
    orderedPairs pair ((a :: xs).zipIdx n) = xs.flatMap (pair a) ++
      orderedPairs pair (xs.zipIdx (n + 1)) := by
  have hafter : ∀ y ∈ xs.zipIdx (n + 1), n < y.2 := fun y hy => List.le_snd_of_mem_zipIdx hy
  have hfirst : ((xs.zipIdx (n + 1)).flatMap fun (y, q) => if n < q then pair a y else []) =
      xs.flatMap (pair a) := by
    calc ((xs.zipIdx (n + 1)).flatMap fun (y, q) => if n < q then pair a y else [])
        = (xs.zipIdx (n + 1)).flatMap fun y => pair a y.1 :=
          List.flatMap_congr fun y hy => if_pos (hafter y hy)
      _ = ((xs.zipIdx (n + 1)).map Prod.fst).flatMap (pair a) := (List.flatMap_map _ _ _).symm
      _ = xs.flatMap (pair a) := by rw [List.zipIdx_map_fst]
  rw [orderedPairs, List.zipIdx_cons, List.flatMap_cons]
  dsimp only
  rw [List.flatMap_cons, if_neg (lt_irrefl n), List.nil_append, hfirst]
  congr 1
  refine List.flatMap_congr fun x hx => ?_
  obtain ⟨x, p⟩ := x
  dsimp only
  rw [List.flatMap_cons, if_neg (not_lt.2 (hafter (x, p) hx).le), List.nil_append]

/-- The search in all pairs of files, whatever the greatest window. -/
theorem search_eq (h : limits.Has b) (hsize : 1 ≤ b.minSize) (files : List NormalFile) :
    search limits files = ⟨exhaustive b.widened (notBelow b) files, none⟩ := by
  set pair : NormalFile → NormalFile → List Clone := fun f g =>
    if f.path ≠ g.path then exhaustivePair b.widened (notBelow b) f g else [] with hpair
  -- the positions of the later files start at one, so the induction is for any start
  have hsearch : ∀ n, search limits files = ⟨orderedPairs pair (files.zipIdx n), none⟩ := by
    induction files with
    | nil => exact fun n => rfl
    | cons f files ih =>
      intro n
      rw [search, sequence_eq fun g _ => comparePair_eq h hsize f g, orderedPairs_cons]
      exact andThen_eq (ih (n + 1))
  rw [hsearch 0, exhaustive, orderedPairs]
  simp only [hpair, ite_and]

/-! ## The threshold -/

theorem share_ne_nan (equal lines : ℕ) : share equal lines ≠ .nan := by
  unfold share
  split_ifs
  · simp [Double.zero]
  · exact Double.ofRatio_ne_nan _ _ _

/-- A similarity that is at least the threshold. -/
def atLeast (b : Bounds) (x : Double) : Bool := Comparison.ge.ofNumbers (.float x) b.similarity

/-- Only a NaN is neither below a number nor at least as large. -/
theorem notBelow_eq_atLeast {x : Double} (hx : x ≠ .nan) (hb : b.similarity ≠ .float .nan) :
    notBelow b x = atLeast b x := by
  have horder : ∃ o, Number.order? (.float x) b.similarity = some o := by
    cases hy : b.similarity with
    | int i => cases x <;> simp_all [Number.order?, Double.orderInt?]
    | float y => cases x <;> cases y <;> simp_all [Number.order?, Double.order?]
  obtain ⟨o, ho⟩ := horder
  simp only [notBelow, atLeast, Comparison.ofNumbers, ho, Comparison.holds]
  cases o <;> rfl

theorem exhaustive_congr {accepts accepts' : Double → Bool}
    (h : ∀ equal lines, accepts (share equal lines) = accepts' (share equal lines))
    (files : List NormalFile) :
    exhaustive b accepts files = exhaustive b accepts' files := by
  have hclone : cloneAt b accepts = cloneAt b accepts' := by
    funext f g i j
    simp only [cloneAt, h]
  simp only [exhaustive, exhaustivePair, hclone]

/-- **The search is exhaustive**: it finds the clones of the exhaustive scan, in the same order,
where a similarity is accepted unless it is below the threshold; for a threshold that is a number,
where it is at least the threshold. -/
theorem search_eq_exhaustive (limits : Limits) (b : Bounds) (h : limits.Has b)
    (hsize : 1 ≤ b.minSize) (hwindow : 1 ≤ b.maxWindow) (files : List NormalFile) :
    search limits files = ⟨exhaustive b (notBelow b) files, none⟩ ∧
      (b.similarity ≠ .float .nan → search limits files =
        ⟨exhaustive b (atLeast b) files, none⟩) := by
  have hwide : b.widened = b := by
    rw [Bounds.widened, max_eq_right hwindow]
  have hsearch := search_eq h hsize files
  rw [hwide] at hsearch
  refine ⟨hsearch, fun hnan => ?_⟩
  have hsame : exhaustive b (notBelow b) files = exhaustive b (atLeast b) files :=
    exhaustive_congr (fun equal lines => notBelow_eq_atLeast (share_ne_nan equal lines) hnan) files
  rw [hsearch, hsame]

/-- Two files of three lines, of which two are common, give one clone. -/
theorem search_eq_exhaustive_two_files :
    let limits : Limits :=
      ⟨.int 2, .float (.ofRatio false 1 2), .int 50, .int 50, .int 1, .int 0, .scan⟩
    let b : Bounds := ⟨2, 50, 1, 0, .float (.ofRatio false 1 2)⟩
    let files : List NormalFile := [⟨"a", [['x'], ['y'], ['z']]⟩, ⟨"b", [['w'], ['x'], ['y']]⟩]
    limits.Has b ∧ 1 ≤ b.minSize ∧ 1 ≤ b.maxWindow ∧
      search limits files = ⟨exhaustive b (atLeast b) files, none⟩ ∧
      (search limits files).clones.length = 1 := by
  intro limits b files
  have h : limits.Has b := ⟨rfl, rfl, rfl, rfl, rfl⟩
  have hsize : 1 ≤ b.minSize := by decide
  have hwindow : 1 ≤ b.maxWindow := by decide
  have hnan : b.similarity ≠ .float .nan := by decide +kernel
  exact ⟨h, hsize, hwindow, (search_eq_exhaustive limits b h hsize hwindow files).2
    hnan, by decide +kernel⟩

/-- No similarity is at least a threshold that is a NaN, but none is below it, and the clone is
found. -/
theorem search_ne_exhaustive_of_nan :
    let limits : Limits := ⟨.int 1, .float .nan, .int 50, .int 50, .int 5, .int 3, .scan⟩
    let b : Bounds := ⟨1, 50, 5, 3, .float .nan⟩
    let files : List NormalFile :=
      [⟨"a", [['a', 'l', 'p', 'h', 'a']]⟩, ⟨"b", [['a', 'l', 'p', 'h', 'a']]⟩]
    limits.Has b ∧ 1 ≤ b.minSize ∧ 1 ≤ b.maxWindow ∧
      (search limits files).clones ≠ exhaustive b (atLeast b) files := by
  intro limits b files
  exact ⟨⟨rfl, rfl, rfl, rfl, rfl⟩, by decide, by decide, by decide +kernel⟩

end Clone

end SourceSurvey
