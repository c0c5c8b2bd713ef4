import SourceSurvey.Proofs.SourceFile
import SourceSurvey.Report.Entries

/-!
# Findings line by line

The findings of a text are those of its lines, one line after the other, and nothing in a line
depends on the others.  This holds for any test of lines in the place of the shapes of the rules
(`findingsBy`), and is said in four ways (`LineByLine`): a line feed divides the findings, with all
line numbers behind it shifted; so it does in the entries of a report, where the number also stands
in the message; findings stand at sites, pairs of a line and a rule, in lexicographic order and each
once; and an edit within a line leaves the findings on all other lines.
-/

namespace SourceSurvey

/-- A finding on a line that comes later. -/
def Finding.later (k : ℕ) (f : Finding) : Finding := ⟨f.rule, f.line + k⟩

/-- A test of lines by rules. -/
abbrev LineTest := Rule → List Char → Bool

variable {test : LineTest} {rules : List Rule}

/-! ## Numbered lines -/

/-- The findings on one line. -/
def findingsOn (test : LineTest) (rules : List Rule) (numbered : List Char × ℕ) : List Finding :=
  (rules.filter (test · numbered.1)).map (⟨·, numbered.2⟩)

/-- The findings on lines of which the first has a number. -/
def findingsAt (test : LineTest) (rules : List Rule) (number : ℕ)
    (lines : List (List Char)) : List Finding :=
  (lines.zipIdx number).flatMap (findingsOn test rules)

/-- The findings of a text by any test of lines. -/
def findingsBy (test : LineTest) (rules : List Rule) (text : List Char) : List Finding :=
  findingsAt test rules 1 (linesOf text)

@[simp] theorem findingsAt_cons (number : ℕ) (line : List Char) (rest : List (List Char)) :
    findingsAt test rules number (line :: rest) =
      findingsOn test rules (line, number) ++ findingsAt test rules (number + 1) rest := by
  rw [findingsAt, List.zipIdx_cons, List.flatMap_cons]
  rfl

theorem findingsFrom_eq (rules : List Rule) (number : ℕ) (lines : List (List Char)) :
    findingsFrom rules number lines = findingsAt Rule.fires rules number lines := by
  induction lines generalizing number with
  | nil => rfl
  | cons line rest ih =>
    rw [findingsFrom, ih, findingsAt_cons]
    rfl

theorem findings_eq (rules : List Rule) : findings rules = findingsBy Rule.fires rules :=
  funext fun text => findingsFrom_eq rules 1 (linesOf text)

@[simp] theorem findingsAt_append (number : ℕ) (front back : List (List Char)) :
    findingsAt test rules number (front ++ back) =
      findingsAt test rules number front ++ findingsAt test rules (number + front.length) back := by
  rw [findingsAt, List.zipIdx_append, List.flatMap_append]
  rfl

/-- Later lines have later findings. -/
theorem findingsAt_later (number k : ℕ) (lines : List (List Char)) :
    findingsAt test rules (number + k) lines =
      (findingsAt test rules number lines).map (·.later k) := by
  induction lines generalizing number with
  | nil => rfl
  | cons line rest ih =>
    have hline : findingsOn test rules (line, number + k) =
        (findingsOn test rules (line, number)).map (·.later k) := by
      rw [findingsOn, findingsOn, List.map_map]
      rfl
    rw [findingsAt_cons, findingsAt_cons, List.map_append, ← ih, hline, Nat.add_right_comm]

/-! ## Sites -/

/-- The sites of findings: the numbers of lines with the positions of the rules that apply to
them. -/
def sites (test : LineTest) (rules : List Rule) (lines : List (List Char)) : List (ℕ × ℕ) :=
  (lines.zipIdx 1).flatMap fun numbered =>
    (rules.zipIdx.filter fun placed => test placed.1 numbered.1).map fun placed =>
      (numbered.2, placed.2)

/-- The finding at a site. -/
def findingAt (rules : List Rule) (site : ℕ × ℕ) : Option Finding :=
  rules[site.2]?.map (⟨·, site.1⟩)

theorem mem_sites {lines : List (List Char)} {number position : ℕ} :
    (number, position) ∈ sites test rules lines ↔
    ∃ line rule, 1 ≤ number ∧ lines[number - 1]? = some line ∧ rules[position]? = some rule ∧
      test rule line = true := by
  simp only [sites, List.mem_flatMap, List.mem_map, List.mem_filter, Prod.exists, Prod.mk.injEq,
    List.mk_mem_zipIdx_iff_le_and_getElem?_sub]
  constructor
  · rintro ⟨line, number, ⟨hpos, hline⟩, rule, position, ⟨⟨-, hrule⟩, htest⟩, rfl, rfl⟩
    exact ⟨line, rule, hpos, hline, hrule, htest⟩
  · rintro ⟨line, rule, hpos, hline, hrule, htest⟩
    exact ⟨line, number, ⟨hpos, hline⟩, rule, position, ⟨⟨Nat.zero_le _, hrule⟩, htest⟩, rfl, rfl⟩

theorem pairwise_zipIdx {α : Type} (l : List α) (k : ℕ) : (l.zipIdx k).Pairwise (·.2 < ·.2) := by
  rw [← List.pairwise_map (f := Prod.snd), List.zipIdx_map_snd]
  exact List.pairwise_lt_range' 1

/-- Sites come line by line and, within a line, rule by rule. -/
theorem pairwise_sites (lines : List (List Char)) :
    (sites test rules lines).Pairwise (Prod.Lex (· < ·) (· < ·)) := by
  rw [sites, List.pairwise_flatMap]
  constructor
  · intro numbered _
    rw [List.pairwise_map]
    exact ((pairwise_zipIdx rules 0).filter _).imp fun h => .right _ h
  · refine (pairwise_zipIdx lines 1).imp fun {numbered later} h => ?_
    intro site hsite site' hsite'
    obtain ⟨placed, -, rfl⟩ := List.mem_map.1 hsite
    obtain ⟨placed', -, rfl⟩ := List.mem_map.1 hsite'
    exact .left _ _ h

/-- The findings on a line are those at its sites. -/
theorem findingsOn_eq (numbered : List Char × ℕ) : findingsOn test rules numbered =
    (rules.zipIdx.filter fun placed => test placed.1 numbered.1).filterMap fun placed =>
      findingAt rules (numbered.2, placed.2) := by
  have hplaced : ∀ placed ∈ rules.zipIdx.filter fun placed => test placed.1 numbered.1,
      findingAt rules (numbered.2, placed.2) = some ⟨placed.1, numbered.2⟩ := by
    intro placed hmem
    have hrule := List.mem_zipIdx_iff_getElem?.1 (List.mem_of_mem_filter hmem)
    rw [findingAt, hrule]
    rfl
  calc findingsOn test rules numbered
      = ((rules.zipIdx.map Prod.fst).filter (test · numbered.1)).map (⟨·, numbered.2⟩) := by
        rw [List.zipIdx_map_fst, findingsOn]
    _ = (rules.zipIdx.filter fun placed => test placed.1 numbered.1).map fun placed =>
      ⟨placed.1, numbered.2⟩ := by
        rw [List.filter_map, List.map_map]
        rfl
    _ = _ := by rw [List.filterMap_congr hplaced, List.filterMap_eq_map']

theorem findingsAt_eq_sites (lines : List (List Char)) :
    findingsAt test rules 1 lines = (sites test rules lines).filterMap (findingAt rules) := by
  rw [sites, List.filterMap_flatMap, findingsAt]
  congr 1
  funext numbered
  rw [List.filterMap_map, findingsOn_eq]
  rfl

/-! ## Locality -/

/-- A line in the middle has the findings on it, and all others are independent of it. -/
theorem filter_findingsAt (front : List (List Char)) (line : List Char) (back : List (List Char)) :
    (findingsAt test rules 1 (front ++ line :: back)).filter (·.line ≠ front.length + 1) =
      (findingsAt test rules 1 front).filter (·.line ≠ front.length + 1) ++
        (findingsAt test rules (front.length + 2) back).filter (·.line ≠ front.length + 1) := by
  have hline : (findingsOn test rules (line, 1 + front.length)).filter (·.line ≠ front.length + 1) =
      [] := by
    rw [List.filter_eq_nil_iff]
    intro f hf
    obtain ⟨rule, -, rfl⟩ := List.mem_map.1 hf
    simp [Nat.add_comm]
  rw [findingsAt_append, findingsAt_cons, List.filter_append, List.filter_append, hline,
    List.nil_append, show 1 + front.length + 1 = front.length + 2 by omega]

/-- What it means that a text is scanned line by line. -/
structure LineByLine (test : LineTest) (rules : List Rule)
    (scan : List Char → List Finding) : Prop where
  /-- A line feed divides the findings. -/
  append : ∀ a b, scan (a ++ '\n' :: b) = scan a ++ (scan b).map (·.later (linesOf a).length)
  /-- In the entries of a report, the number of the line and the message change together, and
  nothing else does. -/
  entries : ∀ a b, (scan (a ++ '\n' :: b)).map (·.toEntry) =
    (scan a).map (·.toEntry) ++ (scan b).map fun f =>
    { f.toEntry with
      line := .ofNat (f.line + (linesOf a).length)
      message := .str (f.rule.warning ++ " at line " ++ toString (f.line + (linesOf a).length)) }
  /-- Findings stand at the sites where a rule applies to a line, line by line and rule by rule,
  each once. -/
  ordered : ∀ text, ∃ sites : List (ℕ × ℕ), sites.Pairwise (Prod.Lex (· < ·) (· < ·)) ∧
    (∀ number position, (number, position) ∈ sites ↔
      ∃ line rule, 1 ≤ number ∧ (linesOf text)[number - 1]? = some line ∧
      rules[position]? = some rule ∧ test rule line = true) ∧
    scan text = sites.filterMap (findingAt rules)
  /-- An edit within a line leaves the findings on all other lines. -/
  edit : ∀ u old new v, '\n' ∉ old → '\n' ∉ new →
    (scan (u ++ (new ++ v))).filter (·.line ≠ (linesOf u).length) =
      (scan (u ++ (old ++ v))).filter (·.line ≠ (linesOf u).length)

theorem findingsBy_append (a b : List Char) : findingsBy test rules (a ++ '\n' :: b) =
    findingsBy test rules a ++ (findingsBy test rules b).map (·.later (linesOf a).length) := by
  rw [findingsBy, linesOf_append, findingsAt_append, findingsAt_later]
  rfl

theorem findingsBy_edit {old new : List Char} (hold : '\n' ∉ old) (hnew : '\n' ∉ new)
    (u v : List Char) :
    (findingsBy test rules (u ++ (new ++ v))).filter (·.line ≠ (linesOf u).length) =
      (findingsBy test rules (u ++ (old ++ v))).filter (·.line ≠ (linesOf u).length) := by
  obtain ⟨front, left, right, back, hlength, hlines⟩ := linesOf_edit u v
  rw [findingsBy, findingsBy, hlines old hold, hlines new hnew, ← hlength, filter_findingsAt,
    filter_findingsAt]

/-- **A text is scanned line by line**, by the rules and by any other test in their place. -/
theorem findings_lineByLine (rules : List Rule) :
    LineByLine Rule.fires rules (findings rules) ∧
    ∀ test, LineByLine test rules (findingsBy test rules) := by
  have hall : ∀ test, LineByLine test rules (findingsBy test rules) := by
    intro test
    refine ⟨findingsBy_append, fun a b => ?_, fun text => ?_, fun u old new v hold hnew => ?_⟩
    · rw [findingsBy_append, List.map_append, List.map_map]
      rfl
    · exact ⟨sites test rules (linesOf text), pairwise_sites _, fun _ _ => mem_sites,
        findingsAt_eq_sites _⟩
    · exact findingsBy_edit hold hnew u v
  exact ⟨findings_eq rules ▸ hall Rule.fires, hall⟩

end SourceSurvey
