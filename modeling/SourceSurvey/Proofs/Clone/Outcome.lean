import SourceSurvey.Proofs.Clone.Coverage
import SourceSurvey.Proofs.Settings.Checked

/-!
# Detection under accepted thresholds

The checks of thresholds only compare, so they accept numbers of either kind, NaNs among them.  A
detection uses most of them in comparisons too, and these never fail.  It needs an integer in one
place, the least size of a clone, which bounds the lines that are looked at; and in one place a heap
that is not empty, which a NaN as the number of clones to keep never lets grow.  These are the only
reasons for which it fails under thresholds that were accepted (`detect_returns_iff`).

* `Thresholds.Accepted`: what the checks guarantee;
* `search_of_unsized`: a search without a least size;
* `search_stopped_iff`, `keeps_iff`: the two ways to fail.
-/

namespace SourceSurvey

/-! ## What is accepted -/

namespace Thresholds

/-- What the checks guarantee: all limits are numbers of some kind, the least size and the number of
clones to keep are not below one, and the ranking is known. -/
structure Accepted (t : Thresholds) : Prop where
  similarity : ∃ x, t.similarity.number? = some x
  minSize : ∃ x, t.minSize.number? = some x ∧ Comparison.lt.ofNumbers x (.int 1) = false
  maxWindow : ∃ x, t.maxWindow.number? = some x
  maxKept : ∃ x, t.maxKept.number? = some x ∧ Comparison.lt.ofNumbers x (.int 1) = false
  minAnchor : ∃ x, t.minAnchor.number? = some x
  minMatch : ∃ x, t.minMatch.number? = some x
  ranking : t.ranking = .str "scan" ∨ t.ranking = .str "value"

theorem number?_of_isNoShare {v : Value} {r : Bool}
    (h : isNoShare v = .ok r) : ∃ x, v.number? = some x := by
  obtain ⟨low, hlow, -⟩ := bind_eq_ok.1 h
  obtain ⟨x, hx, -⟩ := Value.number?_right_of_test hlow rfl
  exact ⟨x, hx⟩

theorem eq_str_of_isText {v : Value} {s : String} (h : v.isText s = true) : v = .str s := by
  cases v <;> simp_all [Value.isText]

theorem accepted_of_check {t : Thresholds} (h : t.check = .ok ()) : t.Accepted := by
  simp only [check, bind_eq_ok, Settings.refuseIf_ok] at h
  obtain ⟨_, hsimilarity, _, hsize, _, hwindow, _, hkept, _, hlengths, _, hranking, -⟩ := h
  obtain ⟨size, hsize, hleast⟩ := Value.test_int_ok hsize
  obtain ⟨window, hwindow, -⟩ := Value.number?_left_of_test hwindow hsize
  obtain ⟨short, hanchor, hmatch⟩ := hlengths
  obtain ⟨anchor, hshort, -⟩ := Value.test_int_ok hanchor
  have htext : (!(t.ranking.isText "scan" || t.ranking.isText "value")) = false :=
    Except.ok.inj hranking
  cases short with
  | true => cases hmatch
  | false =>
    obtain ⟨least, hlong, -⟩ := Value.test_int_ok hmatch
    refine ⟨number?_of_isNoShare hsimilarity, ⟨size, hsize, hleast⟩, ⟨window, hwindow⟩,
      Value.test_int_ok hkept, ⟨anchor, hshort⟩, ⟨least, hlong⟩, ?_⟩
    rw [Bool.not_eq_false', Bool.or_eq_true_iff] at htext
    exact htext.imp eq_str_of_isText eq_str_of_isText

/-- The limits of a search under thresholds and a ranking. -/
def ranked (t : Thresholds) (ranking : Ranking) : Limits :=
  ⟨t.minSize, t.similarity, t.maxWindow, t.maxKept, t.minAnchor, t.minMatch, ranking⟩

/-- Accepted thresholds give limits, with the ranking that they name. -/
theorem Accepted.limits_eq {t : Thresholds} (h : t.Accepted) :
    ∃ ranking, t.limits = .ok (t.ranked ranking) ∧
    (ranking = .value ↔ t.ranking = .str "value") := by
  rcases h.ranking with hscan | hvalue
  · refine ⟨.scan, ?_, by simp [hscan]⟩
    rw [limits, hscan]
    rfl
  · refine ⟨.value, ?_, by simp [hvalue]⟩
    rw [limits, hvalue]
    rfl

end Thresholds

namespace Clone

/-! ## Without a least size -/

variable {limits : Limits}

theorem sequence_of_same_path {a : NormalFile} {rest : List NormalFile}
    (h : ∀ b ∈ rest, b.path = a.path) :
    Found.sequence (comparePair limits none a) rest = .nothing := by
  induction rest with
  | nil => rfl
  | cons b rest ih =>
    have hpair : comparePair limits none a b = .nothing := if_pos (h b List.mem_cons_self).symm
    rw [Found.sequence, hpair, ih fun c hc => h c (List.mem_cons_of_mem _ hc)]
    rfl

theorem search_of_same_path {files : List NormalFile}
    (h : ∀ a ∈ files, ∀ b ∈ files, a.path = b.path) :
    search limits files = .nothing := by
  induction files with
  | nil => rfl
  | cons a rest ih =>
    have hfirst : ∀ b ∈ rest, b.path = a.path :=
      fun b hb => h b (List.mem_cons_of_mem _ hb) a List.mem_cons_self
    have hrest : ∀ b ∈ rest, ∀ c ∈ rest, b.path = c.path :=
      fun b hb c hc => (hfirst b hb).trans (hfirst c hc).symm
    rw [search, sequence_of_same_path hfirst, ih hrest]
    rfl

theorem sequence_of_unsized {m : Misuse} (h : limits.leastSize = .error m) {a : NormalFile}
    {rest : List NormalFile} (hrest : ∃ b ∈ rest, a.path ≠ b.path) :
    Found.sequence (comparePair limits none a) rest = .stop m := by
  induction rest with
  | nil => simp at hrest
  | cons b rest ih =>
    rw [Found.sequence, comparePair]
    by_cases hpath : a.path = b.path
    · have hmore : ∃ c ∈ rest, a.path ≠ c.path := by
        obtain ⟨c, hc, hne⟩ := hrest
        rcases List.mem_cons.1 hc with rfl | hc
        · exact absurd hpath hne
        · exact ⟨c, hc, hne⟩
      rw [if_pos hpath, ih hmore]
      rfl
    · rw [if_neg hpath, h]
      rfl

/-- A search whose least size is no integer ends at the first two files with different paths. -/
theorem search_of_unsized {m : Misuse} (h : limits.leastSize = .error m) {files : List NormalFile}
    (hfiles : ∃ a ∈ files, ∃ b ∈ files, a.path ≠ b.path) : search limits files = .stop m := by
  induction files with
  | nil => simp at hfiles
  | cons a rest ih =>
    rw [search]
    by_cases hrest : ∃ b ∈ rest, a.path ≠ b.path
    · rw [sequence_of_unsized h hrest]
      rfl
    · -- the files behind have the path of the first one, so that all paths are the same
      have hsame : ∀ b ∈ a :: rest, b.path = a.path := by
        intro b hb
        rcases List.mem_cons.1 hb with rfl | hb
        · rfl
        · by_contra hne
          exact hrest ⟨b, hb, Ne.symm hne⟩
      obtain ⟨b, hb, c, hc, hne⟩ := hfiles
      exact absurd ((hsame b hb).trans (hsame c hc).symm) hne

/-! ## Results -/

/-- Under accepted thresholds only a least size that is no integer can stop a search. -/
theorem search_stopped_iff {t : Thresholds} (h : t.Accepted) (ranking : Ranking)
    (files : List NormalFile) :
    (search (t.ranked ranking) files).stopped = none ↔
      ((∃ x, t.minSize = .float x) → ∀ a ∈ files, ∀ b ∈ files, a.path = b.path) := by
  obtain ⟨size, hsize, hleast⟩ := h.minSize
  cases size with
  | int i =>
    obtain ⟨similarity, hsimilarity⟩ := h.similarity
    obtain ⟨window, hwindow⟩ := h.maxWindow
    obtain ⟨anchor, hanchor⟩ := h.minAnchor
    obtain ⟨least, hmatch⟩ := h.minMatch
    obtain ⟨n, hn⟩ := exists_within files
    have hone : 1 ≤ i := by
      rw [Comparison.ofNumbers_int_lt, decide_eq_false_iff_not] at hleast
      omega
    have hgauged : (t.ranked ranking).Gauged ⟨i, window, anchor, least, similarity⟩ :=
      ⟨hsize, hwindow, hanchor, hmatch, hsimilarity⟩
    rw [search_eq_sites hgauged hone hn]
    refine iff_of_true rfl ?_
    rintro ⟨x, hx⟩
    rw [hx] at hsize
    cases hsize
  | float x =>
    have hfloat := Value.eq_float_of_number? hsize
    have hunsized : (t.ranked ranking).leastSize = .error (.notInteger .float) := by
      simp only [Limits.leastSize, Thresholds.ranked, hfloat]
    by_cases hsame : ∀ a ∈ files, ∀ b ∈ files, a.path = b.path
    · rw [search_of_same_path hsame]
      exact iff_of_true rfl fun _ => hsame
    · have hdiffer : ∃ a ∈ files, ∃ b ∈ files, a.path ≠ b.path := by simpa using hsame
      rw [search_of_unsized hunsized hdiffer]
      exact iff_of_false (by simp [Found.stop]) fun h => hsame (h ⟨x, hfloat⟩)

/-- There is no room below a NaN, which only a heap cannot do with. -/
theorem keeps_of_nan (h : limits.maxKept = .float .nan) :
    limits.Keeps ↔ limits.ranking ≠ .value := by
  have hroom : limits.hasRoom 0 = .ok false := by
    rw [Limits.hasRoom, h]
    rfl
  rw [Limits.Keeps, hroom]
  cases limits.ranking <;> simp

/-- Under accepted thresholds clones can be kept unless a NaN bounds a heap. -/
theorem keeps_iff {t : Thresholds} (h : t.Accepted) (ranking : Ranking) :
    (t.ranked ranking).Keeps ↔ ¬ (t.maxKept = .float .nan ∧ ranking = .value) := by
  by_cases hnan : t.maxKept = .float .nan
  · rw [keeps_of_nan (show (t.ranked ranking).maxKept = .float .nan from hnan)]
    simp [hnan, Thresholds.ranked]
  · obtain ⟨x, hx, hone⟩ := h.maxKept
    have hnumber : x ≠ .float .nan := by
      rintro rfl
      exact hnan (Value.eq_float_of_number? hx)
    refine iff_of_true (keeps_of_number (x := x) hx ?_) fun hall => hnan hall.1
    rw [← Bool.not_eq_true, Comparison.ofNumbers_iff] at hone
    rw [Comparison.ofNumbers_iff]
    simp only [ne_eq, hnumber, not_false_eq_true, reduceCtorEq, true_and, Comparison.Relates,
      not_lt] at hone ⊢
    exact hone

/-- **Detection under accepted thresholds** has a result just when a least size that is no integer
meets no two files with different paths, and a NaN as the number of clones to keep in a heap meets
no clone. -/
theorem detect_returns_iff (t : Thresholds) (h : t.check = .ok ()) :
    ∃ limits, t.limits = .ok limits ∧ ∀ files : List SourceFile,
      (∃ d, (Duplication.detect limits files).outcome = .ok d) ↔
        ((∃ x, t.minSize = .float x) → ∀ a ∈ files, ∀ b ∈ files, a.path = b.path) ∧
          (t.maxKept = .float .nan → t.ranking = .str "value" →
            (search limits (files.map SourceFile.normal)).clones = []) := by
  have haccepted := Thresholds.accepted_of_check h
  obtain ⟨ranking, hlimits, hranking⟩ := haccepted.limits_eq
  refine ⟨_, hlimits, fun files => ?_⟩
  have hpaths : (∀ a ∈ files.map SourceFile.normal, ∀ b ∈ files.map SourceFile.normal,
      a.path = b.path) ↔
      ∀ a ∈ files, ∀ b ∈ files, a.path = b.path := by
    simp [SourceFile.normal]
  rw [detect_ok_iff, search_stopped_iff haccepted, keeps_iff haccepted, hpaths, hranking]
  refine and_congr_right fun _ => ?_
  tauto

/-- Fractions, infinity, a NaN and a truth value are accepted, and every detection under them has a
result. -/
theorem detect_returns_mixed :
    let t : Thresholds := ⟨.bool true, .float (.ofRatio false 1 2), .float (.ofRatio false 15 2),
      .float (.infinite false), .float (.ofRatio false 1 2), .float .nan, .str "value", .int 10⟩
    t.check = .ok () ∧ ∃ limits, t.limits = .ok limits ∧
      ∀ files : List SourceFile, ∃ d, (Duplication.detect limits files).outcome = .ok d := by
  intro t
  have hcheck : t.check = .ok () := toOption_eq_some.1 (by decide +kernel)
  obtain ⟨limits, hlimits, hreturns⟩ := detect_returns_iff t hcheck
  refine ⟨hcheck, limits, hlimits, fun files => (hreturns files).2 ⟨?_, ?_⟩⟩
  · rintro ⟨x, hx⟩
    cases hx
  · intro hx
    cases hx

/-- A least size of 6.0 is accepted, and the detection fails at two empty files; a NaN as the number
of clones to keep is accepted, and the detection fails at the first clone. -/
theorem detect_fails_accepted :
    let unsized : Thresholds :=
      ⟨.float (.ofNat 6), .int 0, .int 50, .int 50, .int 5, .int 3, .str "scan", .int 10⟩
    let unbounded : Thresholds :=
      ⟨.int 1, .int 0, .int 50, .float .nan, .int 5, .int 3, .str "value", .int 10⟩
    (unsized.check = .ok () ∧ unsized.limits = .ok (unsized.ranked .scan) ∧
      ¬ ∃ d, (Duplication.detect (unsized.ranked .scan) [⟨"a", ""⟩, ⟨"b", ""⟩]).outcome = .ok d) ∧
    unbounded.check = .ok () ∧ unbounded.limits = .ok (unbounded.ranked .value) ∧
      ¬ ∃ d,
        (Duplication.detect (unbounded.ranked .value) [⟨"a", "alpha"⟩, ⟨"b", "alpha"⟩]).outcome =
          .ok d := by
  intro unsized unbounded
  have hsize : unsized.check = .ok () := toOption_eq_some.1 (by decide +kernel)
  have hkept : unbounded.check = .ok () := toOption_eq_some.1 (by decide +kernel)
  refine ⟨⟨hsize, rfl, ?_⟩, hkept, rfl, ?_⟩
  · rw [detect_ok_iff, search_stopped_iff (Thresholds.accepted_of_check hsize)]
    intro hall
    have hpath :=
      hall.1 ⟨_, rfl⟩ (SourceFile.normal ⟨"a", ""⟩) (by simp)
      (SourceFile.normal ⟨"b", ""⟩) (by simp)
    simp [SourceFile.normal] at hpath
  · rw [detect_ok_iff, keeps_iff (Thresholds.accepted_of_check hkept)]
    rintro ⟨-, hclones | hkeeps⟩
    · exact absurd hclones (by decide +kernel)
    · exact hkeeps ⟨rfl, rfl⟩

end Clone

end SourceSurvey
