import SourceSurvey.Proofs.Rule.Locality
import SourceSurvey.Proofs.Span.Reach

/-!
# Where a span starts

The line of a span is the number of line feeds before its header, and one more.  This is the number
under which the line that holds the start of the header stands among the lines of the file, and
under which the findings on that line are reported (`spans_in_lines`).

* `StandsOn`: an offset as a column of a numbered line;
* `search_induction`: what is kept by the two kinds of step holds of the whole search;
* `Starts`: a header that was found, with its span and its line.
-/

namespace SourceSurvey

/-! ## Lines and offsets -/

@[simp] theorem length_linesOf (text : List Char) :
    (linesOf text).length = text.count '\n' + 1 := by
  induction text with
  | nil => rfl
  | cons c text ih =>
    by_cases hc : c = '\n'
    · rw [linesOf, if_pos hc, List.length_cons, ih, hc, List.count_cons_self]
    · rw [linesOf_cons_of_ne hc, List.length_modifyHead, ih, List.count_cons_of_ne hc]

/-- With a line feed behind each, the lines have one character more than the text. -/
theorem sum_linesOf (text : List Char) :
    ((linesOf text).map (·.length + 1)).sum = text.length + 1 := by
  induction text with
  | nil => rfl
  | cons c text ih =>
    by_cases hc : c = '\n'
    · rw [linesOf, if_pos hc, List.map_cons, List.sum_cons, ih, List.length_cons, List.length_nil]
      omega
    · obtain ⟨line, rest, hlines⟩ := List.exists_cons_of_ne_nil (linesOf_ne_nil text)
      rw [linesOf_cons_of_ne hc, hlines]
      rw [hlines] at ih
      simp only [List.modifyHead_cons, List.map_cons, List.sum_cons, List.length_cons] at ih ⊢
      omega

/-- A text that is cut within a line: the line is put together from the last line before and the
first behind. -/
theorem linesOf_append_line {u v left right : List Char} {front back : List (List Char)}
    (hu : linesOf u = front ++ [left]) (hv : linesOf v = right :: back) :
    linesOf (u ++ v) = front ++ (left ++ right) :: back := by
  induction u generalizing front left with
  | nil =>
    obtain ⟨rfl, hleft⟩ := List.append_inj' (show [] ++ [[]] = front ++ [left] from hu) rfl
    obtain rfl := List.singleton_injective hleft
    exact hv
  | cons c u ih =>
    by_cases hc : c = '\n'
    · rw [linesOf, if_pos hc] at hu
      -- the line feed ends an empty first line, which is not the last one
      cases front with
      | nil => exact absurd (List.cons.inj hu).2 (linesOf_ne_nil u)
      | cons line front =>
        obtain ⟨rfl, hrest⟩ := List.cons.inj hu
        rw [List.cons_append, linesOf, if_pos hc, ih hrest]
        rfl
    · rw [linesOf_cons_of_ne hc] at hu
      rw [List.cons_append, linesOf_cons_of_ne hc]
      obtain ⟨line, rest, hlines⟩ := List.exists_cons_of_ne_nil (linesOf_ne_nil u)
      rw [hlines, List.modifyHead_cons] at hu
      cases front with
      | nil =>
        obtain ⟨rfl, rfl⟩ := List.cons.inj hu
        have hrest : linesOf (u ++ v) = [] ++ (line ++ right) :: back := ih hlines
        rw [hrest]
        rfl
      | cons first front =>
        obtain ⟨rfl, rfl⟩ := List.cons.inj hu
        have hrest : linesOf (u ++ v) = (line :: front) ++ (left ++ right) :: back := ih hlines
        rw [hrest]
        rfl

/-- The number of characters before the line with a number, line feeds included. -/
def charsBefore (lines : List (List Char)) (number : ℕ) : ℕ :=
  ((lines.take (number - 1)).map (·.length + 1)).sum

/-- An offset is a column of the line with a number; the first line has the number one. -/
structure StandsOn (lines : List (List Char)) (offset number column : ℕ)
    (line : List Char) : Prop where
  first : 1 ≤ number
  last : number ≤ lines.length
  numbered : lines[number - 1]? = some line
  inside : column < line.length
  reached : charsBefore lines number + column = offset

theorem standsOn_lineAt {text : List Char} {start : ℕ} {c : Char} {rest : List Char}
    (hdrop : text.drop start = c :: rest) (hc : c ≠ '\n') :
    ∃ column line, StandsOn (linesOf text) start (Span.lineAt text start) column line := by
  have htext : text = text.take start ++ c :: rest := by rw [← hdrop, List.take_append_drop]
  have hstart : (text.take start).length = start := by
    have hlength := congrArg List.length hdrop
    rw [List.length_drop, List.length_cons] at hlength
    rw [List.length_take]
    omega
  obtain ⟨front, left, hfront⟩ : ∃ front left, linesOf (text.take start) = front ++ [left] :=
    ⟨_, _, (List.dropLast_append_getLast (linesOf_ne_nil _)).symm⟩
  obtain ⟨right, back, hback⟩ := List.exists_cons_of_ne_nil (linesOf_ne_nil rest)
  have hlines : linesOf text = front ++ (left ++ c :: right) :: back := by
    rw [htext]
    refine linesOf_append_line hfront ?_
    rw [linesOf_cons_of_ne hc, hback]
    rfl
  have hnumber : Span.lineAt text start = front.length + 1 := by
    rw [Span.lineAt, ← length_linesOf, hfront, List.length_append, List.length_singleton]
  have hsum := sum_linesOf (text.take start)
  rw [hfront, List.map_append, List.sum_append, hstart] at hsum
  simp only [List.map_cons, List.map_nil, List.sum_cons, List.sum_nil] at hsum
  refine ⟨left.length, left ++ c :: right, ?_⟩
  rw [hlines, hnumber]
  refine ⟨by omega, by simp, by simp, by simp, ?_⟩
  rw [charsBefore, Nat.add_sub_cancel, List.take_left]
  omega

/-- The findings with the number of a line are those on that line. -/
theorem mem_findings_iff {rules : List Rule} {text line : List Char} {number : ℕ}
    (hfirst : 1 ≤ number) (hline : (linesOf text)[number - 1]? = some line) (rule : Rule) :
    ⟨rule, number⟩ ∈ findings rules text ↔ rule ∈ rules ∧ rule.fires line = true := by
  rw [findings_eq, findingsBy, findingsAt, List.mem_flatMap]
  simp only [findingsOn, List.mem_map, List.mem_filter, Finding.mk.injEq, Prod.exists,
    List.mk_mem_zipIdx_iff_le_and_getElem?_sub]
  constructor
  · rintro ⟨other, number, ⟨-, hother⟩, rule, hrule, rfl, rfl⟩
    obtain rfl : line = other := Option.some.inj (hline.symm.trans hother)
    exact hrule
  · intro hrule
    exact ⟨line, number, ⟨hfirst, hline⟩, rule, hrule, rfl, rfl⟩

end SourceSurvey

namespace SourceSurvey.Span

/-! ## The search for headers -/

variable {shape : Header} {text cs : List Char} {start : ℕ}

/-- **The search** goes over one character where no header stands, and over the header where one
does. -/
theorem search_induction (shape : Header) {motive : ℕ → List Char → Prop}
    (nil : ∀ start, motive start []) (pass : ∀ start c cs, shape.match? (c :: cs) = none →
      motive (start + 1) cs → motive start (c :: cs))
    (found : ∀ start header name rest, shape.Spells header →
      shape.match? (header ++ rest) = some (name, rest) →
      motive (start + header.length) rest → motive start
        (header ++ rest)) (start : ℕ) (cs : List Char) :
    motive start cs := by
  induction hn : cs.length using Nat.strong_induction_on generalizing start cs with
  | _ n ih =>
    cases hmatch : shape.match? cs with
    | some read =>
      obtain ⟨name, rest⟩ := read
      obtain ⟨header, rfl, hspells⟩ := Header.match?_spec hmatch
      have hpos := List.length_pos_of_ne_nil hspells.ne_nil
      rw [List.length_append] at hn
      exact found start header name rest hspells hmatch (ih rest.length (by omega) _ rest rfl)
    | none =>
      cases cs with
      | nil => exact nil start
      | cons c cs =>
        rw [List.length_cons] at hn
        exact pass start c cs hmatch (ih cs.length (by omega) _ cs rfl)

/-- Headers are found behind the start, and each behind the one before it. -/
theorem headersFrom_ordered (shape : Header) (start : ℕ) (cs : List Char) :
    (∀ m ∈ headersFrom shape start 0 cs, start ≤ m.start) ∧
      (headersFrom shape start 0 cs).Pairwise fun m n => m.start + m.size ≤ n.start := by
  induction start, cs using search_induction shape with
  | nil start => simp [headersFrom]
  | pass start c cs hnone ih =>
    rw [headersFrom_of_none hnone]
    exact ⟨fun m hm => Nat.le_of_succ_le (ih.1 m hm), ih.2⟩
  | found start header name rest hspells hmatch ih =>
    rw [headersFrom_of_found hspells.ne_nil hmatch]
    refine ⟨?_, List.pairwise_cons.2 ⟨ih.1, ih.2⟩⟩
    rintro m (_ | ⟨_, hm⟩)
    · exact le_rfl
    · exact (Nat.le_add_right _ _).trans (ih.1 m hm)

@[simp] theorem match?_nil (shape : Header) : shape.match? [] = none := by
  cases hmatch : shape.match? [] with
  | none => rfl
  | some read =>
    obtain ⟨header, hheader, hspells⟩ := Header.match?_spec hmatch
    exact absurd (List.append_eq_nil_iff.1 hheader.symm).1 hspells.ne_nil

/-- Wherever a header could be read, one has been found that reaches there. -/
theorem headersFrom_covers {k : ℕ} (h : shape.match? (cs.drop k) ≠ none) :
    ∃ m ∈ headersFrom shape start 0 cs, m.start ≤ start + k ∧ start + k < m.start + m.size := by
  induction start, cs using search_induction shape generalizing k with
  | nil start =>
    rw [List.drop_nil] at h
    exact absurd (match?_nil shape) h
  | pass start c cs hnone ih =>
    rw [headersFrom_of_none hnone]
    cases k with
    | zero => exact absurd hnone h
    | succ k =>
      obtain ⟨m, hm, hfrom, hto⟩ := ih h
      exact ⟨m, hm, by omega, by omega⟩
  | found start header name rest hspells hmatch ih =>
    rw [headersFrom_of_found hspells.ne_nil hmatch]
    by_cases hk : k < header.length
    · exact ⟨_, List.mem_cons_self, Nat.le_add_right _ _, Nat.add_lt_add_left hk start⟩
    · rw [List.drop_append, List.drop_of_length_le (by omega), List.nil_append] at h
      obtain ⟨m, hm, hfrom, hto⟩ := ih h
      exact ⟨m, List.mem_cons_of_mem _ hm, by omega, by omega⟩

/-- A header does not begin with a line feed. -/
theorem exists_head_of_match? {name rest : List Char} (h : shape.match? cs = some (name, rest)) :
    ∃ c more, cs = c :: more ∧ c ≠ '\n' := by
  obtain ⟨header, rfl, hspells⟩ := Header.match?_spec h
  have hword : ∀ word, shape.leadingWord = some word → ∀ c more, word = c :: more → c ≠ '\n' →
      ∃ c more, header ++ rest = c :: more ∧ c ≠ '\n' := by
    rintro _ hleading c more rfl hc
    obtain ⟨tail, rfl⟩ := hspells.leading _ hleading
    exact ⟨c, more ++ tail ++ rest, rfl, hc⟩
  cases shape with
  | declaration => exact hword _ rfl 'f' _ rfl (by decide)
  | arrow => exact hword _ rfl 'c' _ rfl (by decide)
  | exported => exact hword _ rfl 'e' _ rfl (by decide)
  | body =>
    simp only [Header.match?, Header.body?, Option.bind_eq_bind, Option.bind_eq_some_iff,
      Prod.exists] at h
    obtain ⟨name, named, hread, -⟩ := h
    obtain ⟨hfront, hne, hname⟩ := name?_eq_some hread
    obtain ⟨c, more, rfl⟩ := List.exists_cons_of_ne_nil hne
    refine ⟨c, more ++ named, hfront, ?_⟩
    rintro rfl
    exact absurd (hname _ List.mem_cons_self) (by decide)

theorem lineAt_mono (text : List Char) {p q : ℕ} (h : p ≤ q) : lineAt text p ≤ lineAt text q := by
  have hsublist : (text.take p).Sublist (text.take q) := (List.take_prefix_take_left h).sublist
  exact Nat.succ_le_succ (hsublist.count_le '\n')

/-! ## Spans and lines -/

/-- A header that was found in a file, with its span: the shape reads it at its start, the span is a
part of the text from there on, and its line is the one that holds the start, for the lines of the
file and for the findings alike. -/
structure Starts (f : SourceFile) (shape : Header) (m : Match) (s : Span) : Prop where
  read : shape.match? (f.content.toList.drop m.start) =
    some (m.name, f.content.toList.drop (m.start + m.size))
  within : m.start < m.start + m.size ∧ m.start + m.size ≤ f.content.toList.length
  text : s.text <+: f.content.toList.drop m.start
  line : ∃ column line, StandsOn f.lines m.start s.line column line ∧
    ∀ rules rule, ⟨rule, s.line⟩ ∈ findings rules f.content.toList ↔
    rule ∈ rules ∧ rule.fires line = true

theorem starts_of_mem {f : SourceFile} {m : Match} (hm : m ∈ headers shape f.content.toList) :
    Starts f shape m (ofMatch f.content.toList m) := by
  obtain ⟨before, header, after, htext, hspells, hstands⟩ := exists_standsIn hm
  have hdrop : f.content.toList.drop m.start = header ++ after := by
    rw [hstands.start, htext, List.drop_left]
  have hafter : f.content.toList.drop (m.start + m.size) = after := by
    rw [← List.drop_drop, hdrop, hstands.size, List.drop_left]
  have hread : shape.match? (f.content.toList.drop m.start) =
      some (m.name, f.content.toList.drop (m.start + m.size)) := by
    rw [hdrop, hafter]
    exact hstands.found
  obtain ⟨c, more, hhead, hc⟩ := exists_head_of_match? hread
  obtain ⟨column, line, hline⟩ := standsOn_lineAt hhead hc
  refine ⟨hread, ?_, List.take_prefix _ _, column, line, hline, fun rules rule => ?_⟩
  · have hpos := List.length_pos_of_ne_nil hspells.ne_nil
    rw [htext, hstands.start, hstands.size]
    simp only [List.length_append]
    omega
  · exact mem_findings_iff hline.first hline.numbered rule

/-- **Spans and the lines they start on.**  Spans come shape by shape.  Within a shape, the headers
do not overlap and come from left to right, one wherever the shape can be read, and the lines of
their spans never decrease.  Each span is a part of the text from the start of its header on, and
its line is the one that holds this start. -/
theorem spans_in_lines (f : SourceFile) (shapes : List Header) :
    let text := f.content.toList
    spans shapes text = shapes.flatMap (fun shape => (headers shape text).map (ofMatch text)) ∧
      ∀ shape,
        (headers shape text).Pairwise (fun m n => m.start < n.start ∧ m.start + m.size ≤ n.start) ∧
        ((headers shape text).map (ofMatch text)).Pairwise (·.line ≤ ·.line) ∧
        (∀ p, shape.match? (text.drop p) ≠ none → ∃ m ∈ headers shape text, m.start ≤ p ∧
          p < m.start + m.size) ∧
        ∀ m ∈ headers shape text, Starts f shape m (ofMatch text m) := by
  intro text
  refine ⟨rfl, fun shape => ?_⟩
  have hstarts : ∀ m ∈ headers shape text, Starts f shape m (ofMatch text m) :=
    fun m hm => starts_of_mem hm
  have hordered : (headers shape text).Pairwise fun m n => m.start + m.size ≤ n.start :=
    (headersFrom_ordered shape 0 text).2
  refine ⟨?_, ?_, fun p hp => ?_, hstarts⟩
  · exact hordered.imp_of_mem fun {m n} hm _ hle => ⟨(hstarts m hm).within.1.trans_le hle, hle⟩
  · rw [List.pairwise_map]
    exact hordered.imp fun {m n} hle => lineAt_mono text ((Nat.le_add_right _ _).trans hle)
  · obtain ⟨m, hm, hfrom, hto⟩ : ∃ m ∈ headers shape text, m.start ≤ 0 + p ∧
        0 + p < m.start + m.size :=
      headersFrom_covers hp
    exact ⟨m, hm, by omega, by omega⟩

/-- A header may go over the end of its line, and only line feeds end a line. -/
theorem spans_in_lines_broken_header :
    let f : SourceFile := ⟨"a.js", "a\u2028b\r\n\n function\n g() \x7b\x7d"⟩
    let m : Match := ⟨7, 11, ['g']⟩
    m ∈ headers .declaration f.content.toList ∧ (ofMatch f.content.toList m).line = 3 ∧
      Starts f .declaration m (ofMatch f.content.toList m) := by
  intro f m
  have hm : m ∈ headers .declaration f.content.toList := by decide
  exact ⟨hm, by decide, ((spans_in_lines f [.declaration]).2 .declaration).2.2.2 m hm⟩

end SourceSurvey.Span
