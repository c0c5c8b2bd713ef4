import Mathlib.Algebra.Order.BigOperators.Group.List
import SourceSurvey.Proofs.Complexity.Runs
import SourceSurvey.Proofs.Span.Reach

/-!
# Spans within spans

A part of a text can have more decision points than the whole, for a word that branches may be cut
out of a longer one.  This does not happen to spans: they end with a brace, and they start either
with a word that does not branch or where a word starts.  So a span is never more complex than a
span around it, or than its text (`complexity_nested`).

* `complexity_factor_le`: a part of a text that cuts out no word;
* `inWordAfter_take_of_body`: the headers of bodies start where a word starts;
* `front_not_mem_keywords`: the other headers start with a word that does not branch.
-/

namespace SourceSurvey

namespace Complexity

/-! ## Parts of texts -/

variable {word : List Char} {inWord : Bool} {mark : Char} {u v : List Char}

theorem countWord_suffix_le (hword : IsName word) (inWord : Bool) (u v : List Char) :
    countWord word (inWordAfter inWord u) v ≤ countWord word inWord (u ++ v) := by
  induction u generalizing inWord with
  | nil => exact le_rfl
  | cons c u ih =>
    rw [inWordAfter, List.cons_append, countWord_cons hword]
    exact (ih _).trans (Nat.le_add_left _ _)

theorem countPairs_cons_bounds (mark c : Char) (cs : List Char) :
    countPairs mark cs ≤ countPairs mark (c :: cs) ∧
    countPairs mark (c :: cs) ≤ countPairs mark cs + 1 := by
  induction cs generalizing c with
  | nil => simp [countPairs]
  | cons d cs ih =>
    rw [countPairs]
    split_ifs with hpair
    · have hnext := ih d
      omega
    · omega

theorem countPairs_suffix_le (mark : Char) (u v : List Char) :
    countPairs mark v ≤ countPairs mark (u ++ v) := by
  induction u with
  | nil => exact le_rfl
  | cons c u ih => exact ih.trans (countPairs_cons_bounds mark c (u ++ v)).1

theorem countPairs_prefix_le (mark : Char) (u v : List Char) :
    countPairs mark u ≤ countPairs mark (u ++ v) := by
  fun_induction countPairs mark u with
  | case1 => exact Nat.zero_le _
  | case2 c => exact Nat.zero_le _
  | case3 a b cs hpair ih =>
    rw [List.cons_append, List.cons_append, countPairs, if_pos hpair]
    omega
  | case4 a b cs hpair ih =>
    rw [List.cons_append, List.cons_append, countPairs, if_neg hpair]
    exact ih

@[simp] theorem inWordAfter_append (inWord : Bool) (u v : List Char) :
    inWordAfter inWord (u ++ v) = inWordAfter (inWordAfter inWord u) v := by
  induction u generalizing inWord with
  | nil => rfl
  | cons c u ih => exact ih _

theorem inWordAfter_of_getLast? {c : Char} (h : u.getLast? = some c) (inWord : Bool) :
    inWordAfter inWord u = Text.isWord c := by
  obtain ⟨front, rfl⟩ := List.getLast?_eq_some_iff.1 h
  rw [inWordAfter_append]
  rfl

/-- **Part of a text.**  When a part of a text ends outside of words, and a word that branches is
not in front of it where the part starts within a word, the whole has no fewer decision points. -/
theorem complexity_factor_le {before part after : List Char}
    (hend : ∀ inWord, inWordAfter inWord part = false)
    (hstart : inWordAfter false before = true → part.takeWhile Text.isWord ∉ keywords) :
    complexity part ≤ complexity (before ++ (part ++ after)) := by
  have hwords : ∀ word ∈ keywords, countWord word false part ≤
      countWord word false (before ++ (part ++ after)) := by
    intro word hmem
    have hword := isName_of_mem_keywords hmem
    have hfront : countWord word (inWordAfter false before) part = countWord word false part := by
      cases hbefore : inWordAfter false before with
      | false => rfl
      | true => exact countWord_of_front_ne hword (fun heq => hstart hbefore (heq ▸ hmem)) true
    calc countWord word false part = countWord word (inWordAfter false before) part := hfront.symm
      _ ≤ countWord word (inWordAfter false before) (part ++ after) := by
        rw [countWord_append hword (.inl (hend _))]
        exact Nat.le_add_right _ _
      _ ≤ countWord word false (before ++ (part ++ after)) :=
        countWord_suffix_le hword false before _
  have hpairs : ∀ mark, countPairs mark part ≤ countPairs mark (before ++ (part ++ after)) :=
    fun mark =>
    (countPairs_prefix_le mark part after).trans (countPairs_suffix_le mark before _)
  have hquestions : part.count '?' ≤ (before ++ (part ++ after)).count '?' := by
    simp only [List.count_append]
    omega
  have hsum := List.sum_le_sum hwords
  rw [List.sum_eq_foldr, List.sum_eq_foldr] at hsum
  have hand := hpairs '&'
  have hor := hpairs '|'
  unfold complexity
  omega

/-! ## Where spans start -/

/-- Whether a text that is not empty ends within a word does not depend on what stands before it. -/
theorem inWordAfter_of_false (h : inWordAfter false u = true)
    (inWord : Bool) : inWordAfter inWord u = true := by
  cases u with
  | nil => simp [inWordAfter] at h
  | cons c u => exact h

/-- Within a word no header of a body stands in front of the text that is left. -/
def NoneWithin (before cs : List Char) : Prop := inWordAfter false before = true →
  Span.Header.match? .body cs = none

/-- A character that starts no header is passed over: a header behind it would start with it. -/
theorem noneWithin_skip {before cs : List Char} {c : Char}
    (h : Span.Header.match? .body (c :: cs) = none) :
    NoneWithin (before ++ [c]) cs := by
  intro hin
  have hc : Text.isWord c = true := by simpa [inWordAfter] using hin
  cases hbody : Span.Header.match? .body cs with
  | none => rfl
  | some found =>
    have hlonger : Span.Header.match? .body (c :: cs) = some (c :: found.1, found.2) :=
      Span.Header.body?_cons hc hbody
    rw [h] at hlonger
    cases hlonger

/-- Behind a header, which ends with a brace, a word may start. -/
theorem noneWithin_header {before header rest : List Char} (h : Span.Header.Spells .body header) :
    NoneWithin (before ++ header) rest := by
  intro hin
  rw [inWordAfter_append, inWordAfter_of_getLast? (h.opening rfl)] at hin
  exact absurd hin (by decide)

/-- **The header of a body starts where a word starts**, for it would be found before from within
the word. -/
theorem inWordAfter_take_of_body {text : List Char} {m : Span.Match}
    (hm : m ∈ Span.headers .body text) :
    inWordAfter false (text.take m.start) = false := by
  obtain ⟨before, header, after, rfl, -, hstands, hwithin⟩ :=
    Span.mem_headers_of_invariant NoneWithin
    (fun hin => absurd hin (by simp [inWordAfter])) (fun _ _ _ _ hnone => noneWithin_skip hnone)
    (fun _ _ _ _ _ hspells _ => noneWithin_header hspells) hm
  rw [hstands.start, List.take_left]
  by_contra hin
  have hnone := hwithin (by simpa using hin)
  rw [hstands.found] at hnone
  cases hnone

/-- The words that headers begin with do not branch, and neither begin nor continue a word that
does. -/
theorem not_prefix_of_leadingWord {shape : Span.Header} {lead : List Char}
    (hlead : shape.leadingWord = some lead) (hword : word ∈ keywords) :
    ¬ (word <+: lead ∨ lead <+: word) := by
  revert word
  cases shape with
  | body => cases hlead
  | declaration =>
    obtain rfl := Option.some.inj hlead
    decide
  | arrow =>
    obtain rfl := Option.some.inj hlead
    decide
  | exported =>
    obtain rfl := Option.some.inj hlead
    decide

/-- **No span cuts a word that branches out of a longer one** in front. -/
theorem front_not_mem_keywords {shape : Span.Header} {text part : List Char} {m : Span.Match}
    (hm : m ∈ Span.headers shape text) (hpart : part <+: text.drop m.start)
    (hin : inWordAfter false (text.take m.start) = true) :
    part.takeWhile Text.isWord ∉ keywords := by
  cases hlead : shape.leadingWord with
  | none =>
    cases shape with
    | body =>
      rw [inWordAfter_take_of_body hm] at hin
      cases hin
    | declaration => cases hlead
    | arrow => cases hlead
    | exported => cases hlead
  | some lead =>
    intro hmem
    obtain ⟨before, header, after, rfl, hspells, hstands⟩ := Span.exists_standsIn hm
    rw [hstands.start, List.drop_left] at hpart
    have hword := (List.takeWhile_prefix Text.isWord).trans hpart
    have hfront := (hspells.leading lead hlead).trans (List.prefix_append header after)
    exact not_prefix_of_leadingWord hlead hmem (List.prefix_or_prefix_of_prefix hword hfront)

/-! ## Spans -/

theorem complexity_nil_le (text : List Char) : complexity [] ≤ complexity text := by
  have hnil : complexity [] = 1 := by decide
  rw [hnil, complexity]
  exact Nat.le_add_right _ _

/-- A span is at most as complex as any part of the text around it. -/
theorem complexity_ofMatch_le {shape : Span.Header} {text : List Char} {m : Span.Match}
    (hm : m ∈ Span.headers shape text) {first last : ℕ} (hfirst : first ≤ m.start)
    (hlast : Span.blockEnd text m.start ≤ last) :
    complexity (Span.ofMatch text m).text ≤ complexity ((text.drop first).take (last - first)) := by
  cases hclosing : Span.closing 0 false (text.drop m.start) with
  | none =>
    rw [Span.text_ofMatch, hclosing]
    exact complexity_nil_le _
  | some k =>
    have hend : m.start + k ≤ last := by simpa [Span.blockEnd, hclosing] using hlast
    have hbrace := (Span.closing_eq_some_iff.1 hclosing).2.1.last
    rw [Span.text_ofMatch, hclosing, Option.getD_some]
    have hsplit : (text.drop first).take (last - first) =
        (text.drop first).take (m.start - first) ++
        ((text.drop m.start).take k ++ (text.drop (m.start + k)).take (last - (m.start + k))) := by
      have hsize : last - first = (m.start - first) + (k + (last - (m.start + k))) := by omega
      rw [hsize, List.take_add, List.drop_drop, Nat.add_sub_cancel' hfirst, List.take_add,
        List.drop_drop]
    have hbefore : text.take m.start = text.take first ++
        (text.drop first).take (m.start - first) := by
      rw [← List.take_add, Nat.add_sub_cancel' hfirst]
    rw [hsplit]
    refine complexity_factor_le (fun inWord => ?_) fun hin => ?_
    · rw [inWordAfter_of_getLast? hbrace]
      decide
    · refine front_not_mem_keywords hm (List.take_prefix k _) ?_
      rw [hbefore, inWordAfter_append]
      exact inWordAfter_of_false hin _

/-- **Spans within spans.**  A span that lies within another one is at most as complex, and no span
is more complex than the whole text. -/
theorem complexity_nested (shapes : List Span.Header) (text : List Char) :
    (∀ shape shape' m m' s s', Span.Yields shapes text shape m s →
      Span.Yields shapes text shape' m' s' →
      m.start ≤ m'.start → Span.blockEnd text m'.start ≤ Span.blockEnd text m.start →
      complexity s'.text ≤ complexity s.text) ∧
    ∀ s ∈ Span.spans shapes text, complexity s.text ≤ complexity text := by
  constructor
  · rintro shape shape' m m' s s' ⟨-, -, rfl⟩ ⟨-, hm', rfl⟩ hstart hend
    exact complexity_ofMatch_le hm' hstart hend
  · intro s hs
    obtain ⟨shape, m, -, hm, rfl⟩ := Span.mem_spans_iff.1 hs
    have hwhole :=
      complexity_ofMatch_le hm (Nat.zero_le _)
      (le_max_left (Span.blockEnd text m.start) text.length)
    rwa [List.drop_zero, Nat.sub_zero, List.take_of_length_le (le_max_right _ _)] at hwhole

/-- A declaration that is found within a word has a branch in it, which is a span of its own. -/
theorem complexity_nested_branch :
    let text := "xfunction f() \x7b if (a) \x7b b ? c : d \x7d \x7d".toList
    let m : Span.Match := ⟨1, 10, ['f']⟩
    let m' : Span.Match := ⟨16, 8, ['i', 'f']⟩
    let s : Span := ⟨['f'], 1, text.drop 1⟩
    let s' : Span := ⟨['i', 'f'], 1, "if (a) \x7b b ? c : d \x7d".toList⟩
    Span.Yields Span.Header.all text .declaration m s ∧
    Span.Yields Span.Header.all text .body m' s' ∧
      m.start ≤ m'.start ∧ Span.blockEnd text m'.start ≤ Span.blockEnd text m.start ∧
      s ∈ Span.spans Span.Header.all text ∧ complexity s'.text = 3 ∧
      complexity s'.text ≤ complexity s.text ∧ complexity s.text ≤ complexity text := by
  intro text m m' s s'
  have h : Span.Yields Span.Header.all text .declaration m s := ⟨by decide, by decide, by decide⟩
  have h' : Span.Yields Span.Header.all text .body m' s' := ⟨by decide, by decide, by decide⟩
  have hmem : s ∈ Span.spans Span.Header.all text := Span.mem_spans_iff.2 ⟨_, _, h⟩
  have hends : Span.blockEnd text m'.start ≤ Span.blockEnd text m.start := by decide
  obtain ⟨hinside, hwhole⟩ := complexity_nested Span.Header.all text
  exact ⟨h, h', by decide, hends, hmem, by decide, hinside _ _ m m' s s' h h' (by decide) hends,
    hwhole s hmem⟩

end Complexity

end SourceSurvey
