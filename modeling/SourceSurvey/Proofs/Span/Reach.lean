import SourceSurvey.Proofs.Span.Block
import SourceSurvey.Proofs.Span.Header

/-!
# How far a span reaches

The end of a span is looked for from the start of its header on, and not from behind it.  A block
can therefore close within the header, in the parameters of a function, and then the span ends
there.  Where none does, the span holds the whole header and reaches beyond it
(`header_prefix_span`).
-/

namespace SourceSurvey.Span

/-- The text of a header. -/
def Match.header (m : Match) (text : List Char) : List Char := (text.drop m.start).take m.size

/-- The text of a span reaches from the start of its header to the end of the block that closes
first. -/
theorem text_ofMatch (text : List Char) (m : Match) :
    (ofMatch text m).text = (text.drop m.start).take
      ((closing 0 false (text.drop m.start)).getD 0) := by
  simp only [ofMatch, blockEnd]
  congr 1
  cases closing 0 false (text.drop m.start) with
  | none => simp
  | some k => simp

variable {header after : List Char} {k : ℕ}

/-- When no block closes in the header, the span goes on behind it. -/
theorem prefix_of_open (hheader : closing 0 false header = none)
    (h : closing 0 false (header ++ after) = some k) :
    header <+: (header ++ after).take k ∧ header.length < ((header ++ after).take k).length := by
  have hlong := lt_of_closing_append hheader h
  have hlength := (closing_eq_some_iff.1 h).1
  refine ⟨List.prefix_take_iff.2 ⟨List.prefix_append _ _, hlong.le⟩, ?_⟩
  rw [List.length_take]
  omega

/-- When a block closes in the header, the span ends there. -/
theorem prefix_of_closed {shape : Header} (hspells : shape.Spells header)
    (h : closing 0 false header = some k) :
    (header ++ after).take k <+: header ∧ ((header ++ after).take k).length < header.length := by
  obtain ⟨hlength, hends, -⟩ := closing_eq_some_iff.1 h
  have htake : (header ++ after).take k = header.take k := List.take_append_of_le_length hlength
  have hshort : k ≠ header.length := by
    -- a header does not end with the brace that closes a block
    rintro rfl
    obtain ⟨c, hc, hbrace⟩ := hspells.last
    have hlast := hends.last
    rw [List.take_length, hc] at hlast
    exact hbrace (Option.some.inj hlast)
  refine ⟨htake ▸ List.take_prefix k header, ?_⟩
  rw [htake, List.length_take]
  omega

/-- **A span and its header.**  Where no block closes in the header, the header stands in front of
the span, and the span is longer; this is always so for declarations and exports.  Where a block
closes in the header, the span stands in front of the header, and the header is longer.  The header
of a body ends with the brace that opens the body. -/
theorem header_prefix_span (shapes : List Header) (text : List Char) (shape : Header)
    (m : Match) (s : Span) (h : Yields shapes text shape m s) (hne : s.text ≠ []) :
    shape.match? (text.drop m.start) = some (m.name, text.drop (m.start + m.size)) ∧
      ((∀ p, p <+: m.header text → ¬ IsBlock p) →
        m.header text <+: s.text ∧ (m.header text).length < s.text.length) ∧
      ((∃ p, p <+: m.header text ∧ IsBlock p) →
        s.text <+: m.header text ∧ s.text.length < (m.header text).length) ∧
      (shape = .declaration ∨ shape = .exported → m.header text <+: s.text) ∧
      (shape = .body → (m.header text).getLast? = some '\x7b') := by
  obtain ⟨before, header, after, htext, hspells, hstands⟩ := exists_standsIn h.found
  have hdrop : text.drop m.start = header ++ after := by rw [hstands.start, htext, List.drop_left]
  have hheader : m.header text = header := by rw [Match.header, hdrop, hstands.size, List.take_left]
  have hspan : s.text = (header ++ after).take ((closing 0 false (header ++ after)).getD 0) := by
    rw [h.span, text_ofMatch, hdrop]
  have hafter : text.drop (m.start + m.size) = after := by
    rw [← List.drop_drop, hdrop, hstands.size, List.drop_left]
  obtain ⟨k, hk⟩ : ∃ k, closing 0 false (header ++ after) = some k := by
    rw [← Option.ne_none_iff_exists']
    intro hnone
    simp [hspan, hnone] at hne
  rw [hk, Option.getD_some] at hspan
  rw [hdrop, hheader, hafter, hspan]
  have hopen : (∀ p, p <+: header → ¬ IsBlock p) → header <+: (header ++ after).take k ∧
      header.length < ((header ++ after).take k).length :=
    fun hblock => prefix_of_open (closing_zero_eq_none_iff.2 hblock) hk
  refine ⟨hstands.found, hopen, ?_, ?_, hspells.opening⟩
  · rintro ⟨p, hp, hblock⟩
    cases hclosing : closing 0 false header with
    | none => exact absurd hblock (closing_zero_eq_none_iff.1 hclosing p hp)
    | some j =>
      obtain rfl : j = k := Option.some.inj ((closing_append hclosing after).symm.trans hk)
      exact prefix_of_closed hspells hclosing
  · intro hshape
    exact (hopen fun p hp hblock => hspells.plain hshape (hp.subset hblock.opened)).1

/-- A brace in the parameters that nothing closes does not end the span. -/
theorem header_prefix_span_open_brace :
    let text := "f(\x7b) \x7b \x7d \x7d".toList
    let m : Match := ⟨0, 6, ['f']⟩
    let s : Span := ⟨['f'], 1, text⟩
    Yields Header.all text .body m s ∧ s.text ≠ [] ∧ (∀ p, p <+: m.header text → ¬ IsBlock p) ∧
      m.header text <+: s.text ∧ (m.header text).getLast? = some '\x7b' := by
  intro text m s
  have h : Yields Header.all text .body m s := ⟨by decide, by decide, by decide⟩
  have hblock : ∀ p, p <+: m.header text → ¬ IsBlock p := closing_zero_eq_none_iff.1 (by decide)
  obtain ⟨-, hopen, -, -, hbrace⟩ := header_prefix_span Header.all text .body m s h (by decide)
  exact ⟨h, by decide, hblock, (hopen hblock).1, hbrace rfl⟩

/-- A block in the parameters ends the span before the header ends. -/
theorem header_not_prefix_span :
    let text := "f(\x7ba\x7d) \x7b b \x7d".toList
    let m : Match := ⟨0, 8, ['f']⟩
    let s : Span := ⟨['f'], 1, "f(\x7ba\x7d".toList⟩
    Yields Header.all text .body m s ∧ s.text ≠ [] ∧
      Header.match? .body (text.drop m.start) = some (m.name, text.drop (m.start + m.size)) ∧
      ¬ m.header text <+: s.text := by
  intro text m s
  exact ⟨⟨by decide, by decide, by decide⟩, by decide, by decide, by decide⟩

end SourceSurvey.Span
