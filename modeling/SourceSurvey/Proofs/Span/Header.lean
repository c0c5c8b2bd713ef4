import Mathlib.Data.List.TakeWhile
import Mathlib.Tactic
import SourceSurvey.Span.Basic

/-!
# Headers and where they are found

A header is what a shape reads in front of a text (`match?_spec`).  The search for headers goes
through a text from left to right: it passes over one character where no header stands, and over the
whole header where one does.  So what holds at the start and is kept by both kinds of step holds
wherever a header is found (`mem_headers_of_invariant`).

* `Header.Spells`: how the headers of a shape begin and end;
* `Match.StandsIn`: a header that was found, with the text before and behind it;
* `Yields`: a span with the header that it starts with.
-/

namespace SourceSurvey.Span

variable {c : Char} {cs word name rest : List Char}

/-! ## Pieces of headers -/

@[simp] theorem after?_eq_some : after? word cs = some rest ↔ cs = word ++ rest := by
  unfold after?
  split_ifs with hfront
  · obtain ⟨more, rfl⟩ := List.isPrefixOf_iff_prefix.1 hfront
    simp
  · simp only [false_iff]
    rintro rfl
    exact hfront (List.isPrefixOf_iff_prefix.2 (List.prefix_append _ _))

theorem skipBlanks_suffix (cs : List Char) : skipBlanks cs <:+ cs := List.dropWhile_suffix _

theorem afterBlanks?_eq_some (h : afterBlanks? cs = some rest) :
    ∃ blanks, cs = blanks ++ rest ∧ ∀ c ∈ blanks, Text.isBlank c = true := by
  cases cs with
  | nil => simp [afterBlanks?] at h
  | cons c cs =>
    simp only [afterBlanks?, Option.ite_none_right_eq_some, Option.some.injEq] at h
    obtain ⟨hc, rfl⟩ := h
    refine ⟨c :: cs.takeWhile Text.isBlank, by simp [skipBlanks], ?_⟩
    simpa [hc] using fun d hd => List.mem_takeWhile_imp hd

theorem name?_eq_some_iff : name? cs = some (name, rest) ↔
    name ≠ [] ∧ cs.takeWhile Text.isWord = name ∧ cs.dropWhile Text.isWord = rest := by
  unfold name?
  cases hname : cs.takeWhile Text.isWord with
  | nil =>
    simp only [reduceCtorEq, false_iff, not_and]
    rintro hne rfl
    exact absurd rfl hne
  | cons c front =>
    simp only [Option.some.injEq, Prod.mk.injEq]
    constructor
    · rintro ⟨rfl, rfl⟩
      exact ⟨by simp, rfl, rfl⟩
    · rintro ⟨-, rfl, rfl⟩
      exact ⟨rfl, rfl⟩

theorem name?_eq_some (h : name? cs = some (name, rest)) :
    cs = name ++ rest ∧ name ≠ [] ∧ ∀ c ∈ name, Text.isWord c = true := by
  obtain ⟨hne, rfl, rfl⟩ := name?_eq_some_iff.1 h
  exact ⟨List.takeWhile_append_dropWhile.symm, hne, fun c hc => List.mem_takeWhile_imp hc⟩

/-- A word character in front makes a name longer. -/
theorem name?_cons (hc : Text.isWord c = true) (h : name? cs = some (name, rest)) :
    name? (c :: cs) = some (c :: name, rest) := by
  obtain ⟨-, rfl, rfl⟩ := name?_eq_some_iff.1 h
  exact name?_eq_some_iff.2 ⟨by simp, by simp [hc], by simp [hc]⟩

namespace Header

theorem skipAsync_suffix (cs : List Char) : skipAsync cs <:+ cs := by
  unfold skipAsync
  cases hasync : after? "async".toList cs with
  | none => exact List.suffix_rfl
  | some rest =>
    cases hblanks : afterBlanks? rest with
    | none => simp [hblanks]
    | some more =>
      obtain ⟨blanks, hrest, -⟩ := afterBlanks?_eq_some hblanks
      have hmore : more <:+ rest := hrest ▸ List.suffix_append blanks more
      have hbehind : rest <:+ cs := after?_eq_some.1 hasync ▸ List.suffix_append _ rest
      simpa [hblanks] using hmore.trans hbehind

theorem arrowTail?_eq_some (h : arrowTail? cs = some rest) : '=' :: '>' :: rest <:+ cs := by
  induction cs with
  | nil => simp [arrowTail?] at h
  | cons c cs ih =>
    rw [arrowTail?] at h
    by_cases hbreak : c = '\n'
    · simp [hbreak] at h
    rw [if_neg hbreak] at h
    cases htail : arrowTail? cs with
    | some more =>
      rw [htail] at h
      obtain rfl := Option.some.inj h
      exact (ih htail).trans (List.suffix_cons c cs)
    | none =>
      simp only [htail, Option.ite_none_right_eq_some, after?_eq_some] at h
      have hblanks := skipBlanks_suffix cs
      rw [h.2] at hblanks
      exact hblanks.trans (List.suffix_cons c cs)

/-! ## Shapes -/

/-- The word that the headers of a shape begin with, but for those that begin with the name. -/
def leadingWord : Header → Option (List Char)
  | .declaration => some "function".toList
  | .arrow => some "const".toList
  | .body => none
  | .exported => some "export".toList

/-- How a header of a shape begins and ends, and whether braces can stand in it. -/
structure Spells (shape : Header) (header : List Char) : Prop where
  leading : ∀ word, shape.leadingWord = some word → word <+: header
  last : ∃ c, header.getLast? = some c ∧ c ≠ '\x7d'
  plain : shape = .declaration ∨ shape = .exported → '\x7b' ∉ header
  opening : shape = .body → header.getLast? = some '\x7b'

theorem spells_of_name {shape : Header} (hshape : shape = .declaration ∨ shape = .exported)
    {front : List Char} (hleading : ∀ word, shape.leadingWord = some word → word <+: front)
    (hfront : '\x7b' ∉ front) (hne : name ≠ []) (hname : ∀ c ∈ name, Text.isWord c = true) :
    shape.Spells (front ++ name) where
  leading word hword := (hleading word hword).trans (List.prefix_append _ _)
  last := by
    refine ⟨name.getLast hne, by simp [List.getLast?_eq_some_getLast hne], fun hlast => ?_⟩
    have hword := hname _ (List.getLast_mem hne)
    rw [hlast] at hword
    exact absurd hword (by decide)
  plain _ hmem := by
    rcases List.mem_append.1 hmem with hmem | hmem
    · exact hfront hmem
    · exact absurd (hname _ hmem) (by decide)
  opening hbody := by
    subst hbody
    simp at hshape

theorem not_mem_blanks {blanks : List Char} (h : ∀ c ∈ blanks, Text.isBlank c = true) :
    '\x7b' ∉ blanks :=
  fun hmem => absurd (h _ hmem) (by decide)

theorem declaration?_spec (h : declaration? cs = some (name, rest)) :
    ∃ header, cs = header ++ rest ∧ Spells .declaration header := by
  simp only [declaration?, Option.bind_eq_bind, Option.bind_eq_some_iff, after?_eq_some] at h
  obtain ⟨_, rfl, _, hskip, hread⟩ := h
  obtain ⟨blanks, rfl, hblanks⟩ := afterBlanks?_eq_some hskip
  obtain ⟨rfl, hne, hname⟩ := name?_eq_some hread
  refine ⟨"function".toList ++ blanks ++ name, by simp, spells_of_name (.inl rfl) ?_ ?_ hne hname⟩
  · intro word hword
    obtain rfl := Option.some.inj hword
    exact List.prefix_append _ _
  · simpa using not_mem_blanks hblanks

theorem exported?_spec (h : exported? cs = some (name, rest)) :
    ∃ header, cs = header ++ rest ∧ Spells .exported header := by
  simp only [exported?, Option.bind_eq_bind, Option.bind_eq_some_iff, Option.or_eq_some_iff,
    after?_eq_some] at h
  obtain ⟨_, rfl, _, hskip, _, hkind, _, hskip', hread⟩ := h
  obtain ⟨blanks, rfl, hblanks⟩ := afterBlanks?_eq_some hskip
  obtain ⟨more, rfl, hmore⟩ := afterBlanks?_eq_some hskip'
  obtain ⟨rfl, hne, hname⟩ := name?_eq_some hread
  obtain ⟨kind, rfl, hplain⟩ : ∃ kind : List Char, _ = kind ++ (more ++ (name ++ rest)) ∧
      '\x7b' ∉ kind := by
    rcases hkind with hconst | ⟨-, hfunction⟩
    · exact ⟨_, hconst, by decide⟩
    · exact ⟨_, hfunction, by decide⟩
  refine ⟨"export".toList ++ blanks ++ kind ++ more ++ name, by simp,
    spells_of_name (.inr rfl) ?_ ?_ hne hname⟩
  · intro word hword
    obtain rfl := Option.some.inj hword
    simp only [List.append_assoc]
    exact List.prefix_append _ _
  · simpa [hplain] using ⟨not_mem_blanks hblanks, not_mem_blanks hmore⟩

theorem arrow?_spec (h : arrow? cs = some (name, rest)) :
    ∃ header, cs = header ++ rest ∧ Spells .arrow header := by
  simp only [arrow?, Option.bind_eq_bind, Option.bind_eq_some_iff, after?_eq_some, Prod.exists,
    Option.pure_def, Option.some.injEq, Prod.mk.injEq] at h
  obtain ⟨_, rfl, _, hskip, name, named, hread, valued, hequals, params, hparen, rest, htail,
      rfl, rfl⟩ := h
  obtain ⟨blanks, rfl, -⟩ := afterBlanks?_eq_some hskip
  obtain ⟨rfl, -, -⟩ := name?_eq_some hread
  have hvalued : valued <:+ named :=
    (List.suffix_append _ valued).trans (hequals ▸ skipBlanks_suffix named)
  have hparams : params <:+ valued :=
    (List.suffix_append _ params).trans
      (hparen ▸ (skipAsync_suffix _).trans (skipBlanks_suffix valued))
  obtain ⟨front, rfl⟩ := ((arrowTail?_eq_some htail).trans hparams).trans hvalued
  refine ⟨"const".toList ++ (blanks ++ name ++ front ++ ['=']) ++ ['>'], by simp, ?_,
    ⟨'>', List.getLast?_concat, by decide⟩, by simp, by simp⟩
  intro word hword
  obtain rfl := Option.some.inj hword
  exact (List.prefix_append _ _).trans (List.prefix_append _ _)

theorem body?_spec (h : body? cs = some (name, rest)) :
    ∃ header, cs = header ++ rest ∧ Spells .body header := by
  simp only [body?, Option.bind_eq_bind, Option.bind_eq_some_iff, after?_eq_some, Prod.exists,
    Option.pure_def, Option.some.injEq, Prod.mk.injEq] at h
  obtain ⟨name, named, hread, params, hparen, closed, hclose, rest, hopen, rfl, rfl⟩ := h
  obtain ⟨rfl, -, -⟩ := name?_eq_some hread
  have hparams : params <:+ named :=
    (List.suffix_append _ params).trans (hparen ▸ skipBlanks_suffix named)
  have hclosed : closed <:+ params :=
    (List.suffix_append _ closed).trans (hclose ▸ List.dropWhile_suffix _)
  have hopened : ['\x7b'] ++ rest <:+ closed := hopen ▸ skipBlanks_suffix closed
  obtain ⟨front, rfl⟩ := (hopened.trans hclosed).trans hparams
  exact ⟨name ++ front ++ ['\x7b'], by simp, by simp [leadingWord],
    ⟨'\x7b', List.getLast?_concat, by decide⟩, by simp, fun _ => List.getLast?_concat⟩

/-- **What a shape reads** is the header, and the rest of the text stands behind it. -/
theorem match?_spec {shape : Header} (h : shape.match? cs = some (name, rest)) :
    ∃ header, cs = header ++ rest ∧ shape.Spells header := by
  cases shape with
  | declaration => exact declaration?_spec h
  | arrow => exact arrow?_spec h
  | body => exact body?_spec h
  | exported => exact exported?_spec h

theorem Spells.ne_nil {shape : Header} {header : List Char}
    (h : shape.Spells header) : header ≠ [] := by
  rintro rfl
  obtain ⟨c, hc, -⟩ := h.last
  simp at hc

/-- A name with parameters and an opening brace is also read from any place within the name. -/
theorem body?_cons (hc : Text.isWord c = true) (h : body? cs = some (name, rest)) :
    body? (c :: cs) = some (c :: name, rest) := by
  simp only [body?, Option.bind_eq_bind, Option.bind_eq_some_iff, after?_eq_some, Prod.exists,
    Option.pure_def, Option.some.injEq, Prod.mk.injEq] at h ⊢
  obtain ⟨name, named, hread, hmore⟩ := h
  obtain ⟨params, hparen, closed, hclose, rest, hopen, rfl, rfl⟩ := hmore
  exact ⟨c :: name, named, name?_cons hc hread, params, hparen, closed, hclose, rest,
    hopen, rfl, rfl⟩

end Header

/-! ## The search -/

/-- A header that was found, with the text before and behind it. -/
structure Match.StandsIn (m : Match) (shape : Header) (before header after : List Char) : Prop where
  start : m.start = before.length
  size : m.size = header.length
  found : shape.match? (header ++ after) = some (m.name, after)

variable {shape : Header} {header : List Char} {start : ℕ}

theorem headersFrom_drop (shape : Header) (start skip : ℕ) (cs : List Char) :
    headersFrom shape start skip cs = headersFrom shape (start + skip) 0 (cs.drop skip) := by
  induction cs generalizing start skip with
  | nil => simp [headersFrom]
  | cons c cs ih =>
    cases skip with
    | zero => rfl
    | succ skip =>
      rw [headersFrom, ih, List.drop_succ_cons]
      congr 1
      omega

/-- Where a header stands, the search goes on behind it. -/
theorem headersFrom_of_found (hne : header ≠ [])
    (h : shape.match? (header ++ rest) = some (name, rest)) :
    headersFrom shape start 0 (header ++ rest) =
      ⟨start, header.length, name⟩ :: headersFrom shape (start + header.length) 0 rest := by
  cases header with
  | nil => exact absurd rfl hne
  | cons c header =>
    have hsize : (c :: (header ++ rest)).length - rest.length = header.length + 1 := by
      simp only [List.length_cons, List.length_append]
      omega
    rw [List.cons_append] at h ⊢
    rw [headersFrom, h]
    dsimp only
    rw [hsize, Nat.add_sub_cancel, headersFrom_drop, List.drop_left, List.length_cons,
      Nat.add_assoc, Nat.add_comm 1]

/-- Where none stands, it goes on behind one character. -/
theorem headersFrom_of_none (h : shape.match? (c :: cs) = none) :
    headersFrom shape start 0 (c :: cs) = headersFrom shape (start + 1) 0 cs := by
  rw [headersFrom, h]

/-- **Where a header is found**, there holds what holds at the start and is kept by the two kinds of
step. -/
theorem mem_headers_of_invariant (Holds : List Char → List Char → Prop) {text : List Char}
    (hstart : Holds [] text) (hnone : ∀ before c cs, Holds before (c :: cs) →
      shape.match? (c :: cs) = none → Holds (before ++ [c]) cs)
    (hfound : ∀ before header name rest, Holds before (header ++ rest) → shape.Spells header →
      shape.match? (header ++ rest) = some (name, rest) → Holds (before ++ header) rest)
    {m : Match} (hm : m ∈ headers shape text) :
    ∃ before header after, text = before ++ (header ++ after) ∧ shape.Spells header ∧
      m.StandsIn shape before header after ∧ Holds before (header ++ after) := by
  -- the text that is left gets shorter, by one character or by a header
  have hall : ∀ (n : ℕ) (before cs : List Char), cs.length = n → text = before ++ cs →
      Holds before cs →
      m ∈ headersFrom shape before.length 0 cs →
      ∃ before header after, text = before ++ (header ++ after) ∧ shape.Spells header ∧
        m.StandsIn shape before header after ∧ Holds before (header ++ after) := by
    intro n
    induction n using Nat.strong_induction_on with
    | _ n ih =>
      intro before cs hn htext hholds hmem
      cases hmatch : shape.match? cs with
      | some found =>
        obtain ⟨name, rest⟩ := found
        obtain ⟨header, rfl, hspells⟩ := Header.match?_spec hmatch
        rw [headersFrom_of_found hspells.ne_nil hmatch] at hmem
        rcases List.mem_cons.1 hmem with rfl | hmem
        · exact ⟨before, header, rest, htext, hspells, ⟨rfl, rfl, hmatch⟩, hholds⟩
        · have hpos := List.length_pos_of_ne_nil hspells.ne_nil
          rw [List.length_append] at hn
          refine ih rest.length (by omega) (before ++ header) rest rfl (by simpa using htext)
            (hfound before header name rest hholds hspells hmatch) ?_
          rwa [List.length_append]
      | none =>
        cases cs with
        | nil => simp [headersFrom] at hmem
        | cons c cs =>
          rw [headersFrom_of_none hmatch] at hmem
          rw [List.length_cons] at hn
          refine ih cs.length (by omega) (before ++ [c]) cs rfl (by simpa using htext)
            (hnone before c cs hholds hmatch) ?_
          simpa using hmem
  exact hall text.length [] text rfl rfl hstart hm

theorem exists_standsIn {text : List Char} {m : Match} (hm : m ∈ headers shape text) :
    ∃ before header after, text = before ++ (header ++ after) ∧ shape.Spells header ∧
      m.StandsIn shape before header after := by
  obtain ⟨before, header, after, htext, hspells, hstands, -⟩ :=
    mem_headers_of_invariant (fun _ _ => True) trivial
    (fun _ _ _ _ _ => trivial) (fun _ _ _ _ _ _ _ => trivial) hm
  exact ⟨before, header, after, htext, hspells, hstands⟩

/-- A span of a text, with the shape and the place of the header that it starts with. -/
structure Yields (shapes : List Header) (text : List Char) (shape : Header) (m : Match)
    (s : Span) : Prop where
  listed : shape ∈ shapes
  found : m ∈ headers shape text
  span : s = ofMatch text m

theorem mem_spans_iff {shapes : List Header} {text : List Char} {s : Span} :
    s ∈ spans shapes text ↔ ∃ shape m, Yields shapes text shape m s := by
  simp only [spans, List.mem_flatMap, List.mem_map]
  constructor
  · rintro ⟨shape, hshape, m, hm, rfl⟩
    exact ⟨shape, m, hshape, hm, rfl⟩
  · rintro ⟨shape, m, hshape, hm, rfl⟩
    exact ⟨shape, hshape, m, hm, rfl⟩

end SourceSurvey.Span
