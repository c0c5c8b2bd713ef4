import Mathlib.Computability.Language
import Mathlib.Tactic
import SourceSurvey.Proofs.Text.Lower
import SourceSurvey.Rule.Basic

/-!
# The languages of the rules

A shape stands for a language, the product of the languages of its pieces, and a rule for the sum of
its shapes.  The search that tries every length of a piece finds a shape in a line just when a word
of its language is a factor of the line (`occurs_iff`).  The languages of the rules are then written
out (`languages`), and each rule fires on just the lines with a factor from its language
(`fires_iff_languages`).

* `CountsAs`: when a character counts as a letter if case is ignored;
* `Piece.language`, `step_iff`: one piece;
* `fits_iff`, `occurs_iff`: shapes.
-/

open scoped Computability

namespace SourceSurvey.Rule

/-! ## Words without case -/

/-- The lower case of a character that stands alone, cut to one character. -/
def simpleLower (c : Char) : Char := (Text.lower [c]).headD c

/-- A character counts as a character of ASCII when case is ignored: that is its lower case, or it
is the dotless i or the long s, which are lower case themselves but count as i and s. -/
def CountsAs (c a : Char) : Prop := simpleLower c = a ∨ c = 'ı' ∧ a = 'i' ∨ c = 'ſ' ∧ a = 's'

theorem simpleLower_of_ne {c : Char} (h : c ≠ 'İ') : simpleLower c = Text.lowerChar c := by
  by_cases hsigma : c = 'Σ'
  · subst hsigma
    decide
  · simp [simpleLower, Text.lower, Text.lowerAfter, h, hsigma]

/-- Characters count as those of ASCII to which they are folded. -/
theorem foldCase_eq_iff {c a : Char} (ha : a.toNat < 0x80) : foldCase c = a ↔ CountsAs c a := by
  have hne : ∀ d : Char, 0x80 ≤ d.toNat → d ≠ a := by
    rintro d hd rfl
    omega
  by_cases hlong : c = 'ſ'
  · subst hlong
    have hlower : simpleLower 'ſ' ≠ a := hne _ (by decide)
    simp [foldCase, CountsAs, hlower, eq_comm]
  by_cases hkelvin : c = '\u212a'
  · subst hkelvin
    have hlower : simpleLower '\u212a' = 'k' := by decide
    simp [foldCase, CountsAs, hlower]
  by_cases hdotless : c = 'ı'
  · subst hdotless
    have hlower : simpleLower 'ı' ≠ a := hne _ (by decide)
    simp [foldCase, CountsAs, hlower, eq_comm]
  by_cases hdotted : c = 'İ'
  · subst hdotted
    have hlower : simpleLower 'İ' = 'i' := by decide
    simp [foldCase, CountsAs, hlower]
  -- what is left has its case only in ASCII, and no lower case in ASCII from elsewhere
  have hfold : foldCase c = c.toLower := by simp [foldCase, hlong, hkelvin, hdotless, hdotted]
  simp only [CountsAs, hlong, hdotless, false_and, or_false, hfold, simpleLower_of_ne hdotted]
  by_cases hc : c.toNat < 0x80
  · rw [Text.lowerChar, if_pos hc]
  · have hsame : c.toLower = c := by
      rw [← Char.toNat_inj, Text.toNat_toLower, if_neg (by omega)]
    have hlower : Text.lowerChar c ≠ a := by
      rintro rfl
      exact (Text.ascii_of_lowerChar ha).elim hc hkelvin
    simp [hsame, hlower, hne c (by omega)]

/-! ## Languages -/

/-- One character of a kind. -/
def single (p : Char → Bool) : Language Char := {v | ∃ c, p c = true ∧ v = [c]}

/-- A white space character. -/
def space : Language Char := single Text.isBlank

/-- The word itself. -/
def exactly (w : String) : Language Char := {w.toList}

/-- The words that count as a word when case is ignored. -/
def inAnyCase (w : List Char) : Language Char := {v | List.Forall₂ CountsAs v w}

/-- A word in any case. -/
def caseless (w : String) : Language Char := inAnyCase w.toList

/-- A language occurs in a text if one of its words is a factor of the text. -/
def OccursIn (L : Language Char) (cs : List Char) : Prop := ∃ v ∈ L, v <:+: cs

theorem mem_kstar_single {p : Char → Bool} {v : List Char} :
    v ∈ (single p)∗ ↔ ∀ c ∈ v, p c = true := by
  constructor
  · intro hv
    obtain ⟨words, rfl, hwords⟩ := Language.mem_kstar.1 hv
    intro c hc
    obtain ⟨word, hword, hmem⟩ := List.mem_flatten.1 hc
    obtain ⟨d, hd, rfl⟩ := hwords word hword
    rwa [List.mem_singleton.1 hmem]
  · intro hall
    have hjoined : v = (v.map ([·])).flatten := by rw [← List.flatMap_def, List.flatMap_singleton']
    refine Language.mem_kstar.2 ⟨v.map ([·]), hjoined, fun word hword => ?_⟩
    obtain ⟨c, hc, rfl⟩ := List.mem_map.1 hword
    exact ⟨c, hall c hc, rfl⟩

/-- The language of a piece. -/
def Piece.language : Piece → Language Char
  | .word w => {w}
  | .letters w => inAnyCase w
  | .blanks => space∗
  | .someBlanks => space * space∗
  | .oneOf set => single set.contains
  | .maybe set => 1 + single set.contains
  | .anything => (single (· != '\n'))∗

/-- The letters of a piece are characters of ASCII. -/
def Piece.isAscii : Piece → Bool
  | .letters w => w.all fun a => a.toNat < 0x80
  | _ => true

/-! ## One piece -/

/-- A test behind a piece succeeds behind one of the words of its language. -/
def Behind (L : Language Char) (next : List Char → Bool) (cs : List Char) : Prop :=
  ∃ v ∈ L, ∃ rest, v ++ rest = cs ∧ next rest = true

variable {next : List Char → Bool} {cs : List Char}

theorem behind_mul {L M : Language Char} : Behind (L * M) next cs ↔
    ∃ v ∈ L, ∃ rest, v ++ rest = cs ∧ Behind M next rest := by
  constructor
  · rintro ⟨vw, hvw, rest, rfl, hnext⟩
    obtain ⟨v, hv, w, hw, rfl⟩ := Language.mem_mul.1 hvw
    exact ⟨v, hv, w ++ rest, by simp, w, hw, rest, rfl, hnext⟩
  · rintro ⟨v, hv, _, rfl, w, hw, rest, rfl, hnext⟩
    exact ⟨v ++ w, Language.append_mem_mul hv hw, rest, by simp, hnext⟩

@[simp] theorem behind_add {L M : Language Char} :
    Behind (L + M) next cs ↔ Behind L next cs ∨ Behind M next cs := by
  constructor
  · rintro ⟨v, hv | hv, hrest⟩
    · exact .inl ⟨v, hv, hrest⟩
    · exact .inr ⟨v, hv, hrest⟩
  · rintro (⟨v, hv, hrest⟩ | ⟨v, hv, hrest⟩)
    · exact ⟨v, .inl hv, hrest⟩
    · exact ⟨v, .inr hv, hrest⟩

@[simp] theorem behind_one : Behind 1 next cs ↔ next cs = true := by
  constructor
  · rintro ⟨v, rfl, rest, rfl, hnext⟩
    exact hnext
  · exact fun hnext => ⟨[], rfl, cs, rfl, hnext⟩

theorem behind_single {p : Char → Bool} :
    Behind (single p) next cs ↔ ∃ c rest, c :: rest = cs ∧ p c = true ∧ next rest = true := by
  constructor
  · rintro ⟨_, ⟨c, hc, rfl⟩, rest, rfl, hnext⟩
    exact ⟨c, rest, rfl, hc, hnext⟩
  · rintro ⟨c, rest, rfl, hc, hnext⟩
    exact ⟨[c], ⟨c, hc, rfl⟩, rest, rfl, hnext⟩

/-- All lengths of a run of characters are tried. -/
theorem skipping_iff {p : Char → Bool} :
    Piece.skipping p next cs = true ↔ Behind (single p)∗ next cs := by
  induction cs with
  | nil =>
    simp only [Piece.skipping, Behind, List.append_eq_nil_iff]
    constructor
    · exact fun hnext => ⟨[], Language.nil_mem_kstar _, [], ⟨rfl, rfl⟩, hnext⟩
    · rintro ⟨v, -, rest, ⟨rfl, rfl⟩, hnext⟩
      exact hnext
  | cons c cs ih =>
    rw [Piece.skipping, Bool.or_eq_true, Bool.and_eq_true, ih]
    constructor
    · rintro (hnext | ⟨hc, v, hv, rest, rfl, hnext⟩)
      · exact ⟨[], Language.nil_mem_kstar _, c :: cs, rfl, hnext⟩
      · refine ⟨c :: v, mem_kstar_single.2 ?_, rest, rfl, hnext⟩
        exact List.forall_mem_cons.2 ⟨hc, mem_kstar_single.1 hv⟩
    · rintro ⟨v, hv, rest, hcs, hnext⟩
      cases v with
      | nil =>
        obtain rfl : rest = c :: cs := hcs
        exact .inl hnext
      | cons d v =>
        obtain ⟨rfl, rfl⟩ := List.cons.inj hcs
        obtain ⟨hd, hv⟩ := List.forall_mem_cons.1 (mem_kstar_single.1 hv)
        exact .inr ⟨hd, v, mem_kstar_single.2 hv, rest, rfl, hnext⟩

/-- Behind a word of a known length there is one place only. -/
theorem behind_of_length {L : Language Char} {n : ℕ} (h : ∀ v ∈ L, v.length = n) :
    Behind L next cs ↔ cs.take n ∈ L ∧ next (cs.drop n) = true := by
  constructor
  · rintro ⟨v, hv, rest, rfl, hnext⟩
    rw [← h v hv, List.take_left, List.drop_left]
    exact ⟨hv, hnext⟩
  · rintro ⟨hv, hnext⟩
    exact ⟨cs.take n, hv, cs.drop n, List.take_append_drop n cs, hnext⟩

theorem isPrefixOf_letters_iff {w : List Char} (h : ∀ a ∈ w, a.toNat < 0x80) :
    w.isPrefixOf ((cs.take w.length).map foldCase) = true ↔
    List.Forall₂ CountsAs (cs.take w.length) w := by
  induction w generalizing cs with
  | nil => simp
  | cons a w ih =>
    obtain ⟨ha, hw⟩ := List.forall_mem_cons.1 h
    cases cs with
    | nil => simp
    | cons c cs =>
      have hfold : (a == foldCase c) = true ↔ CountsAs c a := by
        rw [beq_iff_eq, eq_comm, foldCase_eq_iff ha]
      simp only [List.length_cons, List.take_succ_cons, List.map_cons, List.isPrefixOf,
        Bool.and_eq_true, hfold, ih hw, List.forall₂_cons]

/-- **One piece**: what stands behind it is tested behind each word of its language. -/
theorem step_iff {piece : Piece} (h : piece.isAscii = true) :
    piece.step next cs = true ↔ Behind piece.language next cs := by
  cases piece with
  | word w =>
    have hlength : ∀ v ∈ ({w} : Language Char), v.length = w.length :=
      fun v hv => congrArg List.length hv
    rw [Piece.language, behind_of_length hlength, Piece.step, Bool.and_eq_true,
      List.isPrefixOf_iff_prefix, List.prefix_iff_eq_take, eq_comm]
    rfl
  | letters w =>
    have hascii : ∀ a ∈ w, a.toNat < 0x80 := by simpa [Piece.isAscii] using h
    have hlength : ∀ v ∈ inAnyCase w, v.length = w.length := fun v hv => List.Forall₂.length_eq hv
    rw [Piece.language, behind_of_length hlength, Piece.step, Bool.and_eq_true,
      isPrefixOf_letters_iff hascii]
    rfl
  | blanks => exact skipping_iff
  | someBlanks =>
    rw [Piece.language, behind_mul]
    constructor
    · intro hstep
      cases cs with
      | nil => simp [Piece.step] at hstep
      | cons c cs =>
        obtain ⟨hc, hrest⟩ := Bool.and_eq_true_iff.1 hstep
        exact ⟨[c], ⟨c, hc, rfl⟩, cs, rfl, skipping_iff.1 hrest⟩
    · rintro ⟨_, ⟨c, hc, rfl⟩, rest, rfl, hrest⟩
      exact Bool.and_eq_true_iff.2 ⟨hc, skipping_iff.2 hrest⟩
  | oneOf set =>
    rw [Piece.language, behind_single]
    cases cs <;> simp [Piece.step]
  | maybe set =>
    rw [Piece.language, behind_add, behind_one, behind_single]
    cases cs <;> simp [Piece.step]
  | anything => exact skipping_iff

/-! ## Shapes and rules -/

/-- The language of a shape. -/
def shapeLanguage (shape : List Piece) : Language Char := (shape.map Piece.language).prod

/-- The language of a rule. -/
def language (rule : Rule) : Language Char := (rule.shapes.map shapeLanguage).sum

theorem fits_iff {shape : List Piece} (h : ∀ piece ∈ shape, piece.isAscii = true) :
    fits shape cs = true ↔ Behind (shapeLanguage shape) (fun _ => true) cs := by
  induction shape generalizing cs with
  | nil => simp [fits, shapeLanguage]
  | cons piece shape ih =>
    obtain ⟨hpiece, hshape⟩ := List.forall_mem_cons.1 h
    have hlanguage : shapeLanguage (piece :: shape) = piece.language * shapeLanguage shape := rfl
    rw [fits, step_iff hpiece, hlanguage, behind_mul]
    simp only [Behind, ih hshape]

/-- **A shape occurs in a text** just when a word of its language is a factor of the text. -/
theorem occurs_iff {shape : List Piece} (h : ∀ piece ∈ shape, piece.isAscii = true) :
    occurs shape cs = true ↔ OccursIn (shapeLanguage shape) cs := by
  have hfront : ∀ cs, fits shape cs = true ↔ ∃ v ∈ shapeLanguage shape, v <+: cs := by
    intro cs
    rw [fits_iff h]
    simp [Behind, List.IsPrefix]
  induction cs with
  | nil =>
    rw [occurs, hfront]
    simp [OccursIn]
  | cons c cs ih =>
    rw [occurs, Bool.or_eq_true, hfront]
    simp only [ih, OccursIn, List.infix_cons_iff, and_or_left, exists_or]

theorem occursIn_sum {languages : List (Language Char)} :
    OccursIn languages.sum cs ↔ ∃ L ∈ languages, OccursIn L cs := by
  induction languages with
  | nil => simp [OccursIn, Language.notMem_zero]
  | cons L languages ih =>
    rw [List.sum_cons, List.exists_mem_cons_iff, ← ih]
    simp only [OccursIn, Language.mem_add, or_and_right, exists_or]

/-- A rule fires where its language occurs. -/
theorem fires_iff {rule : Rule} (h : rule.shapes.all (·.all Piece.isAscii) = true)
    (line : List Char) :
    rule.fires line = true ↔ OccursIn rule.language line := by
  have hascii : ∀ shape ∈ rule.shapes, ∀ piece ∈ shape, piece.isAscii = true := by
    simpa only [List.all_eq_true] using h
  rw [fires, List.any_eq_true, language, occursIn_sum]
  constructor
  · rintro ⟨shape, hshape, hoccurs⟩
    exact ⟨_, List.mem_map_of_mem hshape, (occurs_iff (hascii shape hshape)).1 hoccurs⟩
  · rintro ⟨L, hL, hoccurs⟩
    obtain ⟨shape, hshape, rfl⟩ := List.mem_map.1 hL
    exact ⟨shape, hshape, (occurs_iff (hascii shape hshape)).2 hoccurs⟩

/-! ## The languages written out -/

/-- A single or a double quote. -/
def quote : Language Char := exactly "'" + exactly "\""

/-- A sign of assignment. -/
def assignment : Language Char := exactly ":" + exactly "="

/-- The languages of the rules, in the order of the rules; `any` stands for any characters. -/
def languages (any : Language Char) : List (Language Char) :=
  [ exactly "eval" * space∗ * exactly "(",
    exactly "innerHTML" * space∗ * exactly "=",
    exactly "document.write" * space∗ * exactly "(",
    exactly "dangerouslySetInnerHTML",
    exactly ".exec" * space∗ * exactly "(" * space∗ * exactly "$\x7b",
    exactly "new" * (space * space∗) * exactly "Function" * space∗ * exactly "(",
    (exactly "setTimeout" + exactly "setInterval") * space∗ * exactly "(" * space∗ * quote,
    exactly "console." * (exactly "log" + exactly "debug" + exactly "info"),
    exactly "process.env.",
    caseless "password" * space∗ * assignment,
    caseless "api" * (1 + exactly "_" + exactly "-") * caseless "key" * space∗ * assignment,
    caseless "secret" * space∗ * assignment,
    caseless "token" * space∗ * assignment,
    caseless "md5" * space∗ * exactly "(",
    caseless "sha1" * space∗ * exactly "(",
    caseless "query" * space∗ * exactly "+" * space∗ * quote +
      quote * space∗ * exactly "+" * space∗ * caseless "query",
    caseless "path" * space∗ * exactly "+" * space∗ * exactly "$\x7b" +
      caseless "path" * space∗ * exactly "+=" * any * caseless "req" ]

@[simp] theorem exactly_mul (v w : String) : exactly v * exactly w = exactly (v ++ w) := by
  ext u
  rw [Language.mem_mul]
  constructor
  · rintro ⟨_, rfl, _, rfl, rfl⟩
    exact String.toList_append.symm
  · intro hu
    exact ⟨v.toList, rfl, w.toList, rfl, (hu.trans String.toList_append).symm⟩

theorem single_contains_pair (a b : Char) : single [a, b].contains = {[a]} + {[b]} := by
  ext v
  rw [Language.mem_add]
  constructor
  · rintro ⟨c, hc, rfl⟩
    have hcases : c = a ∨ c = b := by simpa using hc
    exact hcases.imp (congrArg ([·])) (congrArg ([·]))
  · rintro (rfl | rfl)
    · exact ⟨a, by simp, rfl⟩
    · exact ⟨b, by simp, rfl⟩

theorem map_language_all : all.map language = languages (single (· != '\n'))∗ := by
  have hquote : single ['"', '\''].contains = quote :=
    (single_contains_pair _ _).trans (add_comm _ _)
  have hassignment : single [':', '='].contains = assignment := single_contains_pair _ _
  have hhyphen : single ['_', '-'].contains = exactly "_" + exactly "-" := single_contains_pair _ _
  -- both sides as sums of products, bracketed to the right
  simp only [all, languages, language, shapeLanguage, withWord, withLetters, call, quotedCall,
    assigned, placeholder, Piece.language, List.map_cons, List.map_nil, List.cons_append,
    List.nil_append, List.prod_cons, List.prod_nil,
    List.sum_cons, List.sum_nil, hquote, hassignment, hhyphen, exactly_mul, mul_one, one_mul,
    add_zero, mul_assoc,
    add_assoc, add_mul, mul_add]
  rfl

/-! ## Lines -/

/-- Two languages with the same words on one line. -/
def SameOnLines (L M : Language Char) : Prop := ∀ v, '\n' ∉ v → (v ∈ L ↔ v ∈ M)

namespace SameOnLines

variable {L L' M M' : Language Char}

theorem refl (L : Language Char) : SameOnLines L L := fun _ _ => Iff.rfl

theorem add (h : SameOnLines L L') (h' : SameOnLines M M') :
    SameOnLines (L + M) (L' + M') := fun v hv =>
  or_congr (h v hv) (h' v hv)

/-- The parts of a word on one line are on one line. -/
theorem mul (h : SameOnLines L L') (h' : SameOnLines M M') : SameOnLines (L * M) (L' * M') := by
  intro v hv
  simp only [Language.mem_mul]
  constructor
  · rintro ⟨u, hu, w, hw, rfl⟩
    rw [List.mem_append, not_or] at hv
    exact ⟨u, (h u hv.1).1 hu, w, (h' w hv.2).1 hw, rfl⟩
  · rintro ⟨u, hu, w, hw, rfl⟩
    rw [List.mem_append, not_or] at hv
    exact ⟨u, (h u hv.1).2 hu, w, (h' w hv.2).2 hw, rfl⟩

/-- On one line, what holds no line feed is anything. -/
theorem anything : SameOnLines (single (· != '\n'))∗ ⊤ := by
  intro v hv
  have hall : ∀ c ∈ v, (c != '\n') = true := by
    intro c hc
    rw [bne_iff_ne]
    rintro rfl
    exact hv hc
  exact ⟨fun _ => trivial, fun _ => mem_kstar_single.2 hall⟩

theorem occursIn_iff (h : SameOnLines L M) {line : List Char} (hline : '\n' ∉ line) :
    OccursIn L line ↔ OccursIn M line := by
  have hfactor : ∀ v, v <:+: line → '\n' ∉ v := fun v hv hmem => hline (hv.subset hmem)
  constructor
  · rintro ⟨v, hv, hin⟩
    exact ⟨v, (h v (hfactor v hin)).1 hv, hin⟩
  · rintro ⟨v, hv, hin⟩
    exact ⟨v, (h v (hfactor v hin)).2 hv, hin⟩

/-- Only the last rule has a piece that could leave the line. -/
theorem forall₂_languages :
    List.Forall₂ SameOnLines (languages (single (· != '\n'))∗) (languages ⊤) := by
  have hlast := (refl (caseless "path" * space∗ * exactly "+" * space∗ * exactly "$\x7b")).add
    (((refl (caseless "path" * space∗ * exactly "+=")).mul anything).mul (refl (caseless "req")))
  simp only [languages, List.forall₂_cons, refl, true_and, List.forall₂_nil_left_iff, and_true]
  exact hlast

end SameOnLines

/-- **Each rule fires on just the lines with a factor from its language.** -/
theorem fires_iff_languages (line : List Char) (h : '\n' ∉ line) :
    List.Forall₂ (fun rule L => rule.fires line = true ↔ OccursIn L line) all (languages ⊤) := by
  have hascii : ∀ rule ∈ all, rule.shapes.all (·.all Piece.isAscii) = true := List.all_eq_true.1 rfl
  have hsame : List.Forall₂ (fun rule L => SameOnLines rule.language L) all (languages ⊤) := by
    rw [← List.forall₂_map_left_iff, map_language_all]
    exact SameOnLines.forall₂_languages
  have hboth := (List.forall₂_and_left _ _).2 ⟨hascii, hsame⟩
  exact hboth.imp fun rule L hrule => (fires_iff hrule.1 line).trans (hrule.2.occursIn_iff h)

/-- Letters that only fold to ASCII and a blank from elsewhere make a key, but no secret. -/
theorem fires_iff_languages_foreign_letters :
    let line := "apİ-\u212aEY\u3000= x".toList
    '\n' ∉ line ∧
      OccursIn (caseless "api" * (1 + exactly "_" + exactly "-") * caseless "key" * space∗ *
        assignment) line ∧
      ¬ OccursIn (caseless "secret" * space∗ * assignment) line := by
  intro line
  have hline : '\n' ∉ line := by decide
  have hkey := (fires_iff_languages line hline).get (i := 10) (by decide) (by decide)
  have hsecret := (fires_iff_languages line hline).get (i := 11) (by decide) (by decide)
  exact ⟨hline, hkey.1 (by decide), fun h => absurd (hsecret.2 h) (by decide)⟩

end SourceSurvey.Rule
