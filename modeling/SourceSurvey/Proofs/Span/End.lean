import Mathlib.Order.Bounds.Basic
import SourceSurvey.Proofs.Span.Matching
import SourceSurvey.Proofs.Span.Reach

/-!
# Where a block ends

Offsets at which a block closes are said of the text alone (`BlockAt`): no counter and no flag, only
the braces between the start and the offset.  The scan stops at the least of these offsets, and
gives the start back when there is none (`blockEnd_isLeast`).  So a span is empty, or a text at the
end of which a block closes.
-/

namespace SourceSurvey.Span

/-- A block closes before the offset `e`: a closing brace stands there, and from the start up to it
there are an opening brace and as many braces of the one kind as of the other. -/
structure BlockAt (text : List Char) (start e : ℕ) : Prop where
  behind : start < e
  within : e ≤ text.length
  brace : text[e - 1]? = some '\x7d'
  opened : '\x7b' ∈ part text start e
  balanced : (part text start e).count '\x7b' = (part text start e).count '\x7d'

variable {text : List Char} {start e k : ℕ}

theorem getLast?_part (hbehind : start < e) (hwithin : e ≤ text.length) :
    (part text start e).getLast? = text[e - 1]? := by
  have hlength : (part text start e).length = e - start := by
    rw [part, List.length_take, List.length_drop]
    omega
  rw [List.getLast?_eq_getElem?, hlength, part, List.getElem?_take_of_lt (by omega),
    List.getElem?_drop]
  congr 1
  omega

theorem blockAt_iff :
    BlockAt text start e ↔ start < e ∧ e ≤ text.length ∧ IsBlock (part text start e) := by
  constructor
  · rintro ⟨hbehind, hwithin, hbrace, hopened, hbalanced⟩
    exact ⟨hbehind, hwithin, hopened, hbalanced, (getLast?_part hbehind hwithin).trans hbrace⟩
  · rintro ⟨hbehind, hwithin, hopened, hbalanced, hlast⟩
    exact ⟨hbehind, hwithin, (getLast?_part hbehind hwithin).symm.trans hlast, hopened, hbalanced⟩

/-- Offsets behind the start, counted from the start. -/
theorem blockAt_add_iff : BlockAt text start (start + k) ↔
    k ≤ (text.drop start).length ∧ Ends 0 false ((text.drop start).take k) := by
  rw [blockAt_iff, part, Nat.add_sub_cancel_left, ends_zero, List.length_drop]
  constructor
  · rintro ⟨-, hwithin, hblock⟩
    exact ⟨by omega, hblock⟩
  · rintro ⟨hlength, hblock⟩
    have hpos : k ≠ 0 := by
      rintro rfl
      simpa using hblock.opened
    have hlong : (text.drop start).take k ≠ [] := List.ne_nil_of_mem hblock.opened
    have hstart : start < text.length := by
      by_contra hbeyond
      rw [List.drop_of_length_le (by omega)] at hlong
      simp at hlong
    exact ⟨by omega, by omega, hblock⟩

/-- The scan stops at the least offset at which a block closes. -/
theorem closing_eq_some_iff_isLeast :
    closing 0 false (text.drop start) = some k ↔
    IsLeast {e | BlockAt text start e} (start + k) := by
  rw [closing_eq_some_iff]
  constructor
  · rintro ⟨hlength, hends, hleast⟩
    refine ⟨blockAt_add_iff.2 ⟨hlength, hends⟩, fun e he => ?_⟩
    obtain ⟨j, rfl⟩ := Nat.exists_eq_add_of_lt he.behind
    rw [Nat.add_assoc] at he ⊢
    by_contra hlt
    exact hleast (j + 1) (by omega) (blockAt_add_iff.1 he).2
  · rintro ⟨hblock, hleast⟩
    obtain ⟨hlength, hends⟩ := blockAt_add_iff.1 hblock
    refine ⟨hlength, hends, fun j hj hends' => ?_⟩
    have hle := hleast (blockAt_add_iff.2 ⟨by omega, hends'⟩)
    omega

theorem closing_eq_none_iff_not_blockAt :
    closing 0 false (text.drop start) = none ↔ ∀ e, ¬ BlockAt text start e := by
  constructor
  · intro hnone e hblock
    obtain ⟨j, rfl⟩ := Nat.exists_eq_add_of_lt hblock.behind
    rw [Nat.add_assoc] at hblock
    exact closing_eq_none_iff.1 hnone _ (blockAt_add_iff.1 hblock).2
  · intro hblock
    cases hclosing : closing 0 false (text.drop start) with
    | none => rfl
    | some k => exact absurd (closing_eq_some_iff_isLeast.1 hclosing).1 (hblock _)

theorem blockEnd_eq_iff : blockEnd text start = e ↔
    IsLeast {e | BlockAt text start e} e ∨ (∀ k, ¬ BlockAt text start k) ∧ e = start := by
  rw [blockEnd]
  cases hclosing : closing 0 false (text.drop start) with
  | some k =>
    have hleast := closing_eq_some_iff_isLeast.1 hclosing
    constructor
    · rintro rfl
      exact .inl hleast
    · rintro (hleast' | ⟨hnone, -⟩)
      · exact hleast.unique hleast'
      · exact absurd hleast.1 (hnone _)
  | none =>
    have hnone := closing_eq_none_iff_not_blockAt.1 hclosing
    constructor
    · rintro rfl
      exact .inr ⟨hnone, rfl⟩
    · rintro (hleast | ⟨-, rfl⟩)
      · exact absurd hleast.1 (hnone e)
      · rfl

/-- A span is empty, or a block closes at its end. -/
theorem isBlock_text_ofMatch (text : List Char) (m : Match) :
    (ofMatch text m).text = [] ∨ IsBlock (ofMatch text m).text := by
  rw [text_ofMatch]
  cases hclosing : closing 0 false (text.drop m.start) with
  | none => exact .inl (List.take_zero)
  | some k => exact .inr (ends_zero.1 (closing_eq_some_iff.1 hclosing).2.1)

/-- **The end of a block** is the least offset behind the start at which a block closes, and the
start when there is none.  So a span of any shape is empty, or it ends with a closing brace and has
as many opening ones. -/
theorem blockEnd_isLeast (text : List Char) :
    (∀ start : ℕ, blockEndAt text (.int start) = .ok (.int (blockEnd text start)) ∧
      ∀ e, blockEnd text start = e ↔
        IsLeast {e | BlockAt text start e} e ∨ (∀ k, ¬ BlockAt text start k) ∧ e = start) ∧
    ∀ shapes, ∀ s ∈ spans shapes text, s.text = [] ∨
      s.text.getLast? = some '\x7d' ∧ s.text.count '\x7b' = s.text.count '\x7d' := by
  refine ⟨fun start => ⟨blockEndAt_int text start, fun e => blockEnd_eq_iff⟩, fun shapes s hs => ?_⟩
  obtain ⟨shape, m, hyields⟩ := mem_spans_iff.1 hs
  rw [hyields.span]
  exact (isBlock_text_ofMatch text m).imp_right fun hblock => ⟨hblock.last, hblock.balanced⟩

/-- The block of a body is closed by the second of three closing braces, and a span ends there. -/
theorem blockEnd_isLeast_nested :
    let text := "f() \x7b \x7b \x7d \x7d \x7d".toList
    IsLeast {e | BlockAt text 0 e} 11 ∧
      ∃ s ∈ spans [.body] text, s.text ≠ [] ∧ s.text.getLast? = some '\x7d' ∧
        s.text.count '\x7b' = s.text.count '\x7d' := by
  intro text
  obtain ⟨hend, hspans⟩ := blockEnd_isLeast text
  have hleast := ((hend 0).2 11).1 (by decide)
  let s : Span := ⟨['f'], 1, text.take 11⟩
  have hs : s ∈ spans [.body] text := by decide
  have hne : s.text ≠ [] := by decide
  exact ⟨hleast.resolve_right fun hnone => absurd hnone.2 (by decide), s, hs, hne,
    (hspans [.body] s hs).resolve_left hne⟩

end SourceSurvey.Span
