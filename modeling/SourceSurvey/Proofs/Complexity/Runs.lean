import Mathlib.Algebra.BigOperators.Group.List.Basic
import Mathlib.Data.List.Count
import Mathlib.Data.List.TakeWhile
import Mathlib.Tactic
import SourceSurvey.Complexity

/-!
# Decision points as runs

The places at which a word stands alone are the runs of word characters that are this word, and
pairs of a mark that do not overlap take up each run of the mark but for one mark at most.  So the
decision points of a text can be counted run by run (`complexity_eq_runs`).

* `Text.runs`, with `Text.eq_sum_runs`: a number that is the sum of what each run gives;
* `countWord_cons`, `countWord_append`: a word stands alone where it is all that follows up to the
  end of a word;
* `countWord_eq_count`, `countPairs_eq_sum`: the two counts by runs.
-/

namespace SourceSurvey

/-! ## Runs -/

namespace Text

/-- The maximal runs of characters that pass a test: the pieces between the other characters,
without the empty ones. -/
def runs (test : Char → Bool) (text : List Char) : List (List Char) :=
  (text.splitOnP fun c => !test c).filter (· ≠ [])

variable {test : Char → Bool} {c : Char} {cs run rest : List Char}

@[simp] theorem runs_nil : runs test [] = [] := by simp [runs]

theorem runs_cons_of_neg (h : test c = false) (cs : List Char) :
    runs test (c :: cs) = runs test cs := by
  simp [runs, List.splitOnP_cons_eq_if_modifyHead, h]

theorem runs_append (hne : run ≠ []) (hrun : ∀ c ∈ run, test c = true)
    (hrest : ∀ c ∈ rest.head?, test c = false) :
    runs test (run ++ rest) = run :: runs test rest := by
  have hone : run.splitOnP (fun c => !test c) = [run] :=
    List.splitOnP_eq_singleton fun c hc => by simp [hrun c hc]
  cases rest with
  | nil => simp [runs, hone, hne]
  | cons c rest =>
    have hc : test c = false := hrest c rfl
    rw [runs_cons_of_neg hc, runs, List.splitOnP_append_cons run rest (by simp [hc]), hone]
    simp [runs, hne]

/-- **A number from runs.**  When characters outside of runs add nothing to the number of a text,
and each run adds its part, the number is the sum of these parts. -/
theorem eq_sum_runs {number part : List Char → ℕ} (hnil : number [] = 0)
    (hother : ∀ c cs, test c = false → number (c :: cs) = number cs)
    (hadds : ∀ run rest, run ≠ [] → (∀ c ∈ run, test c = true) →
      (∀ c ∈ rest.head?, test c = false) →
      number (run ++ rest) = part run + number rest)
    (text : List Char) : number text = ((runs test text).map part).sum := by
  -- the run that has begun before the text is carried along
  have hall : ∀ run, (∀ c ∈ run, test c = true) →
      number (run ++ text) = ((runs test (run ++ text)).map part).sum := by
    induction text with
    | nil =>
      intro run hrun
      by_cases hne : run = []
      · simp [hne, hnil]
      · rw [hadds run [] hne hrun (by simp), runs_append hne hrun (by simp)]
        simp [hnil]
    | cons c text ih =>
      intro run hrun
      by_cases hc : test c = true
      · have hmore := ih (run ++ [c]) (by simpa [or_imp, forall_and] using ⟨hrun, hc⟩)
        simpa using hmore
      · have hc : test c = false := by simpa using hc
        have hrest : number (c :: text) = ((runs test (c :: text)).map part).sum := by
          rw [hother c text hc, runs_cons_of_neg hc]
          exact ih [] (by simp)
        by_cases hne : run = []
        · simpa [hne] using hrest
        · rw [hadds run _ hne hrun (by simpa using hc),
            runs_append hne hrun (by simpa using hc), hrest]
          simp
  exact hall [] (by simp)

end Text

namespace Complexity

/-! ## Words that stand alone -/

/-- A text of word characters that is not empty. -/
def IsName (word : List Char) : Prop := word ≠ [] ∧ ∀ c ∈ word, Text.isWord c = true

/-- Whether a text ends within a word, where an empty text leaves it as it was. -/
def inWordAfter (inWord : Bool) : List Char → Bool
  | [] => inWord
  | c :: cs => inWordAfter (Text.isWord c) cs

variable {word : List Char} {inWord : Bool} {c : Char} {cs u v : List Char}

/-- A word stands alone in front when it is all that stands before the end of a word. -/
theorem standsAlone_iff (h : IsName word) (cs : List Char) :
    (word.isPrefixOf cs && endsWord (cs.drop word.length)) = true ↔
    cs.takeWhile Text.isWord = word := by
  rw [Bool.and_eq_true, List.isPrefixOf_iff_prefix]
  constructor
  · rintro ⟨⟨rest, rfl⟩, hend⟩
    rw [List.drop_left] at hend
    rw [List.takeWhile_append_of_pos h.2]
    cases rest with
    | nil => simp
    | cons c rest =>
      have hc : Text.isWord c = false := by simpa [endsWord] using hend
      simp [hc]
  · intro hfront
    have hsplit := List.takeWhile_append_dropWhile (p := Text.isWord) (l := cs)
    rw [hfront] at hsplit
    refine ⟨⟨_, hsplit⟩, ?_⟩
    rw [← hsplit, List.drop_left]
    have hhead := List.head?_dropWhile_not Text.isWord cs
    cases hrest : cs.dropWhile Text.isWord with
    | nil => rfl
    | cons c rest => simpa [hrest, endsWord] using hhead

theorem countWord_cons (h : IsName word) (inWord : Bool) (c : Char) (cs : List Char) :
    countWord word inWord (c :: cs) =
      (if inWord = false ∧ (c :: cs).takeWhile Text.isWord = word then 1 else 0) +
        countWord word (Text.isWord c) cs := by
  rw [countWord]
  congr 1
  have hiff := standsAlone_iff h (c :: cs)
  cases inWord with
  | true => simp
  | false => simp only [Bool.not_false, Bool.true_and, hiff, true_and]

/-- Within a word nothing stands alone. -/
theorem countWord_within (h : IsName word) (hcs : ∀ c ∈ cs, Text.isWord c = true) :
    countWord word true cs = 0 := by
  induction cs with
  | nil => rfl
  | cons c cs ih =>
    rw [countWord_cons h, hcs c List.mem_cons_self,
      ih fun d hd => hcs d (List.mem_cons_of_mem c hd)]
    simp

/-- What stands before a text does not matter when the word is not in front of it. -/
theorem countWord_of_front_ne (h : IsName word) (hfront : cs.takeWhile Text.isWord ≠ word)
    (inWord : Bool) :
    countWord word inWord cs = countWord word false cs := by
  cases cs with
  | nil => rfl
  | cons c cs =>
    rw [countWord_cons h, countWord_cons h, if_neg fun hall => hfront hall.2,
      if_neg fun hall => hfront hall.2]

theorem takeWhile_of_endsWord (h : endsWord v = true) : v.takeWhile Text.isWord = [] := by
  cases v with
  | nil => rfl
  | cons c v => simpa [endsWord] using h

/-- The word in front of a text is not changed by what follows behind the end of a word. -/
theorem takeWhile_append_of_boundary (hne : u ≠ [])
    (h : inWordAfter inWord u = false ∨ endsWord v = true) :
    (u ++ v).takeWhile Text.isWord = u.takeWhile Text.isWord := by
  induction u generalizing inWord with
  | nil => exact absurd rfl hne
  | cons c u ih =>
    by_cases hc : Text.isWord c = true
    · rw [List.cons_append, List.takeWhile_cons_of_pos hc, List.takeWhile_cons_of_pos hc]
      congr 1
      by_cases hu : u = []
      · -- the last character is one of a word, so that none may follow
        subst hu
        have hend : endsWord v = true := by simpa [inWordAfter, hc] using h
        exact takeWhile_of_endsWord hend
      · exact ih hu h
    · simp [hc]

/-- Words are counted one side after the other when the sides meet at the end of a word. -/
theorem countWord_append (hword : IsName word)
    (h : inWordAfter inWord u = false ∨ endsWord v = true) :
    countWord word inWord (u ++ v) = countWord word inWord u +
      countWord word (inWordAfter inWord u) v := by
  induction u generalizing inWord with
  | nil => simp [countWord, inWordAfter]
  | cons c u ih =>
    rw [List.cons_append, countWord_cons hword, countWord_cons hword, ih h, ← List.cons_append,
      takeWhile_append_of_boundary (List.cons_ne_nil c u) h, inWordAfter, Nat.add_assoc]

/-- A run of word characters counts when it is the word. -/
theorem countWord_run (hword : IsName word) (hne : u ≠ []) (hu : ∀ c ∈ u, Text.isWord c = true)
    (hv : ∀ c ∈ v.head?, Text.isWord c = false) :
    countWord word false (u ++ v) = (if u = word then 1 else 0) + countWord word false v := by
  have hend : endsWord v = true := by
    cases v with
    | nil => rfl
    | cons c v => simpa [endsWord] using hv c rfl
  have hfront : v.takeWhile Text.isWord ≠ word := by
    rw [takeWhile_of_endsWord hend]
    exact hword.1.symm
  rw [countWord_append hword (.inr hend), countWord_of_front_ne hword hfront]
  congr 1
  cases u with
  | nil => exact absurd rfl hne
  | cons c u =>
    rw [countWord_cons hword, hu c List.mem_cons_self,
      countWord_within hword fun d hd => hu d (List.mem_cons_of_mem c hd),
      List.takeWhile_eq_self_iff.2 hu]
    simp

theorem sum_ite_eq_countP {α : Type} (test : α → Bool) (items : List α) :
    (items.map fun a => if test a then 1 else 0).sum = items.countP test := by
  induction items with
  | nil => rfl
  | cons a items ih => simp [List.countP_cons, ih, Nat.add_comm]

/-- **The places at which a word stands alone** are the runs of word characters that are this
word. -/
theorem countWord_eq_count (hword : IsName word) (text : List Char) :
    countWord word false text = (Text.runs Text.isWord text).count word := by
  rw [List.count, ← sum_ite_eq_countP]
  apply Text.eq_sum_runs rfl
  · intro c cs hc
    rw [countWord_cons hword, hc]
    simp [hc, hword.1.symm]
  · intro run rest hne hrun hrest
    simpa only [beq_iff_eq] using countWord_run hword hne hrun hrest

theorem isName_of_mem_keywords (h : word ∈ keywords) : IsName word := by
  have hall : (keywords.all fun word => !word.isEmpty && word.all Text.isWord) = true := rfl
  have hword := List.all_eq_true.1 hall word h
  rw [Bool.and_eq_true, Bool.not_eq_true', List.isEmpty_eq_false_iff, List.all_eq_true] at hword
  exact hword

/-- The runs that are one of several words, counted word by word. -/
theorem sum_count {words : List (List Char)} (hwords : words.Nodup) (runs : List (List Char)) :
    (words.map runs.count).sum = runs.countP fun run => decide (run ∈ words) := by
  induction runs with
  | nil => simp
  | cons run runs ih =>
    have hone : (words.map fun word => if run == word then 1 else 0).sum =
        if run ∈ words then 1 else 0 := by
      rw [sum_ite_eq_countP, ← hwords.count, List.count]
      exact List.countP_congr fun word _ => by rw [BEq.comm]
    simp only [List.count_cons, List.sum_map_add, List.countP_cons, decide_eq_true_eq, hone]
    rw [← ih]

/-! ## Pairs of marks -/

variable {mark : Char}

theorem countPairs_cons_of_ne (h : c ≠ mark) (cs : List Char) :
    countPairs mark (c :: cs) = countPairs mark cs := by
  cases cs with
  | nil => rfl
  | cons d cs => simp [countPairs, h]

/-- A run of marks holds half as many pairs. -/
theorem countPairs_replicate (hv : ∀ c ∈ v.head?, c ≠ mark) (n : ℕ) :
    countPairs mark (List.replicate n mark ++ v) = n / 2 + countPairs mark v := by
  induction n using Nat.twoStepInduction with
  | zero => simp
  | one =>
    cases v with
    | nil => rfl
    | cons c v => simp [countPairs, hv c rfl]
  | more n ih _ =>
    rw [List.replicate_succ, List.replicate_succ, List.cons_append, List.cons_append,
      countPairs, ih]
    simp
    omega

/-- **The pairs of a mark** are half the marks of each run, rounded down. -/
theorem countPairs_eq_sum (mark : Char) (text : List Char) :
    countPairs mark text = ((Text.runs (· == mark) text).map fun run => run.length / 2).sum := by
  apply Text.eq_sum_runs rfl
  · intro c cs hc
    exact countPairs_cons_of_ne (by simpa using hc) cs
  · intro run rest _ hrun hrest
    have hmarks : run = List.replicate run.length mark :=
      List.eq_replicate_iff.2 ⟨rfl, by simpa using hrun⟩
    rw [hmarks, countPairs_replicate (by simpa using hrest), List.length_replicate]

/-- **Decision points by runs**: the runs of word characters that are one of seven words, half the
length of each run of one of the two marks, and the question marks. -/
theorem complexity_eq_runs (text : List Char) :
    complexity text = 1 +
      ((Text.runs Text.isWord text).countP fun run =>
        decide (run ∈ ["if", "else", "for", "while", "switch", "case",
          "catch"].map String.toList)) +
      ((Text.runs (· == '&') text).map fun run => run.length / 2).sum +
      ((Text.runs (· == '|') text).map fun run => run.length / 2).sum + text.count '?' := by
  have hwords : (keywords.map fun word => countWord word false text).foldr (· + ·) 0 =
      (Text.runs Text.isWord text).countP fun run => decide (run ∈ keywords) := by
    rw [← sum_count (by decide), ← List.sum_eq_foldr]
    congr 1
    exact List.map_congr_left fun word hword =>
      countWord_eq_count (isName_of_mem_keywords hword) text
  rw [complexity, hwords, countPairs_eq_sum, countPairs_eq_sum]
  simp only [Nat.add_assoc]
  rfl

end Complexity

end SourceSurvey
