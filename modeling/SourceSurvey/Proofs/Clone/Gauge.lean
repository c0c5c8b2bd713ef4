import SourceSurvey.Proofs.Clone.Scan
import SourceSurvey.Proofs.Value.Place

/-!
# Limits of either kind of number

A search may be given fractions, infinities and NaNs as limits, for it only compares them with
numbers of lines and of characters.  On files that have at most `n` lines with at most `n`
characters it finds the same clones as with certain integers in their place (`Gauge.within`), and so
what is known of integers carries over (`search_within`, `comparePair_within`).  Only the least size
of a clone has to be an integer.

* `Gauge`, `Limits.Gauged`: limits that are numbers of either kind;
* `cutoff`: the integer up to which a comparison holds;
* `Limits.Alike`: limits that give the same answers up to a number;
* `walk_congr` to `search_congr`: they lead to the same search.
-/

namespace SourceSurvey

/-- The limits of a search as numbers of either kind, but for the least size. -/
structure Gauge where
  minSize : ℤ
  maxWindow : Number
  minAnchor : Number
  minMatch : Number
  similarity : Number

/-- Limits that are the given numbers. -/
structure Limits.Gauged (limits : Limits) (g : Gauge) : Prop where
  minSize : limits.minSize.number? = some (.int g.minSize)
  maxWindow : limits.maxWindow.number? = some g.maxWindow
  minAnchor : limits.minAnchor.number? = some g.minAnchor
  minMatch : limits.minMatch.number? = some g.minMatch
  similarity : limits.similarity.number? = some g.similarity

/-! ## Integers for numbers -/

/-- The least number that does not pass a test, or else the first one above `n`. -/
def cutoff (test : ℕ → Bool) (n : ℕ) : ℕ :=
  Nat.find (⟨n + 1, .inl n.lt_succ_self⟩ : ∃ k, n < k ∨ test k = false)

/-- A test that is passed by all numbers below one that passes it. -/
def Descends (test : ℕ → Bool) : Prop := ∀ j k, j ≤ k → test k = true → test j = true

theorem lt_cutoff {test : ℕ → Bool} (htest : Descends test) {k n : ℕ} (hk : k ≤ n) :
    k < cutoff test n ↔ test k = true := by
  rw [cutoff, Nat.lt_find_iff]
  constructor
  · intro h
    simpa using (not_or.1 (h k le_rfl)).2
  · intro h j hj
    simp [htest j k hj h]
    omega

theorem cutoff_mono {test other : ℕ → Bool} (h : ∀ k, test k = true → other k = true) (n : ℕ) :
    cutoff test n ≤ cutoff other n := by
  refine Nat.find_mono fun k hk => hk.imp_right fun hother => ?_
  by_contra htest
  simp [h k (by simpa using htest)] at hother

/-- Whether a number of lines or characters is below a limit. -/
def isBelow (x : Number) (k : ℕ) : Bool := Comparison.lt.ofNumbers (.int k) x

/-- Whether a number of lines or characters is not above a limit. -/
def isNotAbove (x : Number) (k : ℕ) : Bool := !Comparison.gt.ofNumbers (.int k) x

theorem isBelow_iff {x : Number} {k : ℕ} :
    isBelow x k = true ↔ x ≠ .float .nan ∧ (Number.int k).place < x.place := by
  rw [isBelow, Comparison.ofNumbers_iff]
  simp [Comparison.Relates]

theorem isNotAbove_iff {x : Number} {k : ℕ} :
    isNotAbove x k = true ↔ x = .float .nan ∨ (Number.int k).place ≤ x.place := by
  rw [isNotAbove, Bool.not_eq_true', ← Bool.not_eq_true, Comparison.ofNumbers_iff]
  simp [Comparison.Relates, or_iff_not_imp_left]

theorem place_natCast_le {j k : ℕ} (h : j ≤ k) : (Number.int j).place ≤ (Number.int k).place :=
  Number.place_int_le.2 (by omega)

theorem isBelow_descends (x : Number) : Descends (isBelow x) := by
  intro j k hjk hk
  rw [isBelow_iff] at hk ⊢
  exact ⟨hk.1, (place_natCast_le hjk).trans_lt hk.2⟩

theorem isNotAbove_descends (x : Number) : Descends (isNotAbove x) := by
  intro j k hjk hk
  rw [isNotAbove_iff] at hk ⊢
  exact hk.imp_right (place_natCast_le hjk).trans

/-- The integers that cannot be told from the numbers of a gauge by numbers up to `n`. -/
def Gauge.within (g : Gauge) (n : ℕ) : Bounds where
  minSize := g.minSize
  maxWindow := cutoff (isBelow g.maxWindow) n
  minAnchor := cutoff (isBelow g.minAnchor) n
  minMatch := cutoff (isNotAbove g.minMatch) n - 1
  similarity := g.similarity

/-! ## Limits that are alike -/

/-- Limits that give the same answers for numbers up to `n`. -/
structure Limits.Alike (n : ℕ) (limits other : Limits) : Prop where
  leastSize : limits.leastSize = other.leastSize
  isShortAnchor : ∀ k ≤ n, limits.isShortAnchor k = other.isShortAnchor k
  isLongMatch : ∀ k ≤ n, limits.isLongMatch k = other.isLongMatch k
  mayGrow : ∀ k ≤ n, limits.mayGrow k = other.mayGrow k
  isUnlike : ∀ x, limits.isUnlike x = other.isUnlike x

/-- The limits with integers in place of numbers. -/
def Limits.withBounds (limits : Limits) (b : Bounds) : Limits :=
  { limits with
    minSize := .int b.minSize
    maxWindow := .int b.maxWindow
    minAnchor := .int b.minAnchor
    minMatch := .int b.minMatch }

variable {limits other : Limits} {g : Gauge} {n : ℕ}

theorem Limits.Gauged.withBounds (h : limits.Gauged g)
    (n : ℕ) : (limits.withBounds (g.within n)).Has (g.within n) :=
  ⟨rfl, rfl, rfl, rfl, h.similarity⟩

/-- **Limits are like the integers that stand for them.** -/
theorem Limits.Gauged.alike (h : limits.Gauged g) (n : ℕ) :
    limits.Alike n (limits.withBounds (g.within n)) where
  leastSize := by
    have hsize := h.minSize
    unfold Limits.leastSize Limits.withBounds Gauge.within
    cases hv : limits.minSize <;> simp_all [Value.number?]
  isShortAnchor := by
    intro k hk
    rw [(h.withBounds n).isShortAnchor, Limits.isShortAnchor, Value.test_of_number rfl h.minAnchor]
    congr 1
    rw [Bool.eq_iff_iff, decide_eq_true_eq, ← isBelow, ← lt_cutoff (isBelow_descends _) hk]
    simp [Gauge.within]
  isLongMatch := by
    intro k hk
    rw [(h.withBounds n).isLongMatch, Limits.isLongMatch, Value.test_of_number rfl h.minMatch]
    congr 1
    have hcut := lt_cutoff (isNotAbove_descends g.minMatch) hk
    rw [Bool.eq_iff_iff, decide_eq_true_eq]
    change Comparison.gt.ofNumbers (.int k) g.minMatch = true ↔
      (cutoff (isNotAbove g.minMatch) n : ℤ) - 1 < k
    rw [← Bool.not_eq_false, ← Bool.not_eq_true', ← isNotAbove, ← hcut]
    omega
  mayGrow := by
    intro k hk
    rw [(h.withBounds n).mayGrow, Limits.mayGrow, Value.test_of_number rfl h.maxWindow]
    congr 1
    rw [Bool.eq_iff_iff, decide_eq_true_eq, ← isBelow, ← lt_cutoff (isBelow_descends _) hk]
    simp [Gauge.within]
  isUnlike := fun _ => rfl

/-! ## The same search -/

/-- A file of at most `n` lines with at most `n` characters. -/
structure NormalFile.Within (f : NormalFile) (n : ℕ) : Prop where
  lines : f.lines.length ≤ n
  line : ∀ l ∈ f.lines, l.length ≤ n

theorem exists_within (files : List NormalFile) : ∃ n, ∀ f ∈ files, f.Within n := by
  have hlines : ∀ lines : List Line, ∃ n, ∀ l ∈ lines, l.length ≤ n := fun lines =>
    ⟨(lines.map List.length).sum, fun l hl =>
      List.single_le_sum (by simp) _ (List.mem_map_of_mem hl)⟩
  induction files with
  | nil => exact ⟨0, by simp⟩
  | cons f files ih =>
    obtain ⟨n, hn⟩ := ih
    obtain ⟨k, hk⟩ := hlines f.lines
    refine ⟨n + k + f.lines.length, fun f' hf' => ?_⟩
    rcases List.mem_cons.1 hf' with rfl | hmem
    · exact ⟨by omega, fun l hl => (hk l hl).trans (by omega)⟩
    · exact ⟨(hn f' hmem).lines.trans (by omega),
        fun l hl => ((hn f' hmem).line l hl).trans (by omega)⟩

namespace Clone

theorem walk_congr (h : limits.Alike n other) {w : Window} {as bs : List Line}
    (hsize : w.size + as.length ≤ n) (has : ∀ a ∈ as, a.length ≤ n) :
    walk limits w as bs = walk other w as bs := by
  induction as generalizing w bs with
  | nil => simp [walk]
  | cons a as ih =>
    cases bs with
    | nil => simp [walk]
    | cons c bs =>
      rw [List.length_cons] at hsize
      have hmore : ∀ equal, walk limits ⟨w.size + 1, equal⟩ as bs =
          walk other ⟨w.size + 1, equal⟩ as bs :=
        fun equal => ih (by dsimp only; omega) fun a ha => has a (List.mem_cons_of_mem _ ha)
      simp only [walk, h.mayGrow w.size (by omega),
        h.isLongMatch a.length (has a List.mem_cons_self), hmore]

theorem window_congr (h : limits.Alike n other) {as lines : List Line} {j : ℤ}
    (hsize : as.length < n) (has : ∀ a ∈ as, a.length ≤ n) :
    window limits as lines j = window other as lines j := by
  unfold window
  cases linesAfter lines j with
  | some bs => exact walk_congr h (by dsimp only; omega) has
  | none => simp only [h.mayGrow 1 (by omega)]

theorem expand_congr (h : limits.Alike n other) {least : ℤ} {f g : NormalFile} {i : ℕ}
    {as : List Line} {j : ℤ} (hsize : as.length < n) (has : ∀ a ∈ as, a.length ≤ n) :
    expand limits least f g i as j = expand other least f g i as j := by
  simp only [expand, window_congr h hsize has, h.isUnlike]

theorem compareFrom_congr (h : limits.Alike n other) {least : ℤ} {f g : NormalFile}
    {index : Line → List ℤ} {i : ℕ} {as : List Line} (hsize : as.length ≤ n)
    (has : ∀ a ∈ as, a.length ≤ n) :
    compareFrom limits least f g index i as = compareFrom other least f g index i as := by
  induction as generalizing i with
  | nil => rfl
  | cons a as ih =>
    rw [List.length_cons] at hsize
    have hrest : ∀ l ∈ as, l.length ≤ n := fun l hl => has l (List.mem_cons_of_mem _ hl)
    have hexpand : (fun j => Found.ofExpand (expand limits least f g i as j)) =
        fun j => Found.ofExpand (expand other least f g i as j) :=
      funext fun j => congrArg _ (expand_congr h (by omega) hrest)
    rw [compareFrom, compareFrom, h.isShortAnchor _ (has a List.mem_cons_self),
      ih (by omega) hrest, hexpand]

theorem comparePair_congr (h : limits.Alike n other) {index : Option (Line → List ℤ)}
    {f g : NormalFile} (hf : f.Within n) :
    comparePair limits index f g = comparePair other index f g := by
  have hfrom : ∀ least index, compareFrom limits least f g index 0 f.lines =
      compareFrom other least f g index 0 f.lines :=
    fun least index => compareFrom_congr h hf.lines hf.line
  simp only [comparePair, h.leastSize, hfrom]

theorem search_congr (h : limits.Alike n other) {files : List NormalFile}
    (hfiles : ∀ f ∈ files, f.Within n) :
    search limits files = search other files := by
  induction files with
  | nil => rfl
  | cons f files ih =>
    have hpair : comparePair limits none f = comparePair other none f :=
      funext fun g => comparePair_congr h (hfiles f List.mem_cons_self)
    rw [search, search, hpair, ih fun f' hf' => hfiles f' (List.mem_cons_of_mem _ hf')]

/-! ## What is found -/

/-- The search in two files, with numbers of either kind as limits. -/
theorem comparePair_within (h : limits.Gauged g) (hsize : 1 ≤ g.minSize) {a : NormalFile}
    (ha : a.Within n) (b : NormalFile) : comparePair limits none a b =
      ⟨if a.path ≠ b.path then exhaustivePair (g.within n).widened (notBelow (g.within n)) a b
        else [], none⟩ :=
  (comparePair_congr (h.alike n) ha).trans (comparePair_eq (h.withBounds n) hsize a b)

/-- **The search in all pairs of files**, with numbers of either kind as limits. -/
theorem search_within (h : limits.Gauged g) (hsize : 1 ≤ g.minSize) {files : List NormalFile}
    (hfiles : ∀ f ∈ files, f.Within n) :
    search limits files = ⟨exhaustive (g.within n).widened (notBelow (g.within n)) files, none⟩ :=
  (search_congr (h.alike n) hfiles).trans (search_eq (h.withBounds n) hsize files)

end Clone

end SourceSurvey
