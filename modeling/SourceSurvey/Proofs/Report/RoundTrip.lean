import SourceSurvey.Proofs.Json.RoundTrip
import SourceSurvey.Report.Basic

/-!
# Reports read back

Each part of a report is read from its object form as it was (`ofValue_toValue`).  `Report.Typed`
says that the leaves of a report hold values of their types; such a report is storable, and so its
JSON text reads as the report.  There is such a text for every indent that a text can be repeated
by, and for no other (`Report.ofJson_dump`).

Values of different kinds are different, so nothing, zero and false stay apart, and an integer stays
apart from the double of the same size.
-/

namespace SourceSurvey

open Json (Storable)

/-! ## Objects -/

theorem readMembers_map {α : Type} {write : α → Value} {read : Value → Except Misuse α}
    (h : ∀ x, read (write x) = .ok x) (xs : List α) :
    readMembers read (.list (xs.map write)) = .ok xs := by
  change (xs.map write).mapM read = .ok xs
  induction xs with
  | nil => rfl
  | cons x xs ih =>
    rw [List.map_cons, List.mapM_cons, h, ih]
    rfl

@[simp] theorem FunctionEntry.ofValue_toValue (e : FunctionEntry) : ofValue e.toValue = .ok e := rfl

@[simp] theorem ComplexityEntry.ofValue_toValue (e : ComplexityEntry) :
    ofValue e.toValue = .ok e := by
  have hfunctions := readMembers_map FunctionEntry.ofValue_toValue e.functions
  change
    (readMembers FunctionEntry.ofValue (.list (e.functions.map FunctionEntry.toValue)) >>= _) = _
  rw [hfunctions]
  rfl

@[simp] theorem IssueEntry.ofValue_toValue (e : IssueEntry) : ofValue e.toValue = .ok e := rfl

@[simp] theorem SecurityEntry.ofValue_toValue (e : SecurityEntry) : ofValue e.toValue = .ok e := by
  have hissues := readMembers_map IssueEntry.ofValue_toValue e.issues
  change (readMembers IssueEntry.ofValue (.list (e.issues.map IssueEntry.toValue)) >>= _) = _
  rw [hissues]
  rfl

@[simp] theorem Location.ofValue_toValue (l : Location) : ofValue l.toValue = .ok l := rfl

@[simp] theorem FragmentEntry.ofValue_toValue (e : FragmentEntry) : ofValue e.toValue = .ok e := rfl

@[simp] theorem DuplicationPart.ofValue_toValue (p : DuplicationPart) :
    ofValue p.toValue = .ok p := by
  have hfragments := readMembers_map FragmentEntry.ofValue_toValue p.fragments
  change
    (readMembers FragmentEntry.ofValue (.list (p.fragments.map FragmentEntry.toValue)) >>= _) = _
  rw [hfragments]
  rfl

@[simp] theorem DependencyEntry.ofValue_toValue (e : DependencyEntry) :
    ofValue e.toValue = .ok e := rfl

@[simp] theorem DependencyPart.ofValue_toValue (p : DependencyPart) :
    ofValue p.toValue = .ok p := by
  have hdependencies := readMembers_map DependencyEntry.ofValue_toValue p.dependencies
  change (readMembers DependencyEntry.ofValue
    (.list (p.dependencies.map DependencyEntry.toValue)) >>= _) = _
  rw [hdependencies]
  rfl

@[simp] theorem Summary.ofValue_toValue (s : Summary) : ofValue s.toValue = .ok s := rfl

@[simp] theorem Report.ofValue_toValue (r : Report) : ofValue r.toValue = .ok r := by
  have hcomplexity := readMembers_map ComplexityEntry.ofValue_toValue r.complexity
  have hsecurity := readMembers_map SecurityEntry.ofValue_toValue r.security
  change (do
    let complexity ← readMembers ComplexityEntry.ofValue
        (.list (r.complexity.map ComplexityEntry.toValue))
    let security ← readMembers SecurityEntry.ofValue (.list (r.security.map SecurityEntry.toValue))
    let duplication ← DuplicationPart.ofValue r.duplication.toValue
    let dependencies ← DependencyPart.ofValue r.dependencies.toValue
    let summary ← Summary.ofValue r.summary.toValue
    return Report.mk r.project r.timestamp complexity security duplication dependencies summary
      r.recommendations) = Except.ok r
  rw [hcomplexity, hsecurity, DuplicationPart.ofValue_toValue, DependencyPart.ofValue_toValue,
    Summary.ofValue_toValue]
  rfl

/-! ## Types of leaves -/

namespace Value

/-- A text. -/
inductive IsText : Value → Prop
  | mk (s : String) : IsText (.str s)

/-- An integer with no more digits than are read. -/
inductive IsInteger : Value → Prop
  | mk {i : ℤ} (digits : (Nat.toDigits 10 i.natAbs).length ≤ Text.digitLimit) : IsInteger (.int i)

/-- A double, or an integer in the place of one. -/
inductive IsNumber : Value → Prop
  | float (x : Double) : IsNumber (.float x)
  | integer {v : Value} (h : v.IsInteger) : IsNumber v

/-- A truth value. -/
inductive IsFlag : Value → Prop
  | mk (b : Bool) : IsFlag (.bool b)

/-- A value that may be missing. -/
inductive IsOptional (type : Value → Prop) : Value → Prop
  | null : IsOptional type .null
  | some {v : Value} (h : type v) : IsOptional type v

variable {v : Value}

theorem IsText.storable (h : v.IsText) : Storable v := by
  obtain ⟨s⟩ := h
  exact .str s

theorem IsInteger.storable (h : v.IsInteger) : Storable v := by
  obtain ⟨digits⟩ := h
  exact .int digits

theorem IsNumber.storable (h : v.IsNumber) : Storable v := by
  cases h with
  | float x => exact .float x
  | integer h => exact h.storable

theorem IsFlag.storable (h : v.IsFlag) : Storable v := by
  obtain ⟨b⟩ := h
  exact .bool b

theorem IsOptional.storable {type : Value → Prop} (htype : ∀ {v}, type v → Storable v)
    (h : IsOptional type v) : Storable v := by
  cases h with
  | null => exact .null
  | some h => exact htype h

end Value

/-! ## Types of parts -/

/-- The types of the leaves of a function's entry. -/
structure FunctionEntry.Typed (e : FunctionEntry) : Prop where
  name : e.name.IsText
  complexity : e.complexity.IsInteger
  line : e.line.IsInteger

structure ComplexityEntry.Typed (e : ComplexityEntry) : Prop where
  file : e.file.IsText
  average : e.average.IsNumber
  functions : ∀ f ∈ e.functions, f.Typed
  rating : e.rating.IsText

structure IssueEntry.Typed (e : IssueEntry) : Prop where
  category : e.category.IsText
  severity : e.severity.IsText
  message : e.message.IsText
  line : e.line.IsOptional Value.IsInteger
  rule : e.rule.IsOptional Value.IsText

structure SecurityEntry.Typed (e : SecurityEntry) : Prop where
  file : e.file.IsText
  issues : ∀ i ∈ e.issues, i.Typed
  score : e.score.IsInteger

structure Location.Typed (l : Location) : Prop where
  file : l.file.IsText
  startLine : l.startLine.IsInteger
  endLine : l.endLine.IsInteger

structure FragmentEntry.Typed (e : FragmentEntry) : Prop where
  first : e.first.Typed
  second : e.second.Typed
  lines : e.lines.IsInteger
  similarity : e.similarity.IsNumber

structure DuplicationPart.Typed (p : DuplicationPart) : Prop where
  fragments : ∀ f ∈ p.fragments, f.Typed
  totalLines : p.totalLines.IsInteger
  percentage : p.percentage.IsNumber

structure DependencyEntry.Typed (e : DependencyEntry) : Prop where
  name : e.name.IsText
  version : e.version.IsText
  scope : e.scope.IsText
  vulnerabilities : e.vulnerabilities.IsOptional Value.IsInteger
  outdated : e.outdated.IsOptional Value.IsFlag

/-- The number of dependencies is written too, and has to be an integer that is read. -/
structure DependencyPart.Typed (p : DependencyPart) : Prop where
  dependencies : ∀ d ∈ p.dependencies, d.Typed
  count : (Value.ofNat p.dependencies.length).IsInteger
  locked : p.locked.IsFlag

structure Summary.Typed (s : Summary) : Prop where
  files : s.files.IsInteger
  highComplexity : s.highComplexity.IsInteger
  issues : s.issues.IsInteger
  criticalIssues : s.criticalIssues.IsInteger
  duplicationRate : s.duplicationRate.IsNumber

/-- The types of the leaves of a report. -/
structure Report.Typed (r : Report) : Prop where
  project : r.project.IsText
  timestamp : r.timestamp.IsInteger
  complexity : ∀ e ∈ r.complexity, e.Typed
  security : ∀ e ∈ r.security, e.Typed
  duplication : r.duplication.Typed
  dependencies : r.dependencies.Typed
  summary : r.summary.Typed
  recommendations : ∀ v ∈ r.recommendations, v.IsText

/-! ## Typed reports are storable -/

theorem storable_map {α : Type} {write : α → Value} {xs : List α}
    (h : ∀ x ∈ xs, Storable (write x)) :
    Storable (.list (xs.map write)) := by
  refine .list fun v hv => ?_
  obtain ⟨x, hx, rfl⟩ := List.mem_map.1 hv
  exact h x hx

theorem FunctionEntry.Typed.storable {e : FunctionEntry} (h : e.Typed) : Storable e.toValue :=
  .obj (by simp) (by simpa using ⟨h.name.storable, h.complexity.storable, h.line.storable⟩)

theorem ComplexityEntry.Typed.storable {e : ComplexityEntry}
    (h : e.Typed) : Storable e.toValue := by
  have hfunctions := storable_map fun f hf => (h.functions f hf).storable
  exact .obj (by simp) (by simpa using ⟨h.file.storable, h.average.storable, hfunctions,
    h.rating.storable⟩)

theorem IssueEntry.Typed.storable {e : IssueEntry} (h : e.Typed) : Storable e.toValue := by
  have hline := h.line.storable fun h => h.storable
  have hrule := h.rule.storable fun h => h.storable
  exact .obj (by simp)
    (by simpa using ⟨h.category.storable, h.severity.storable, hline, h.message.storable, hrule⟩)

theorem SecurityEntry.Typed.storable {e : SecurityEntry} (h : e.Typed) : Storable e.toValue := by
  have hissues := storable_map fun i hi => (h.issues i hi).storable
  exact .obj (by simp) (by simpa using ⟨h.file.storable, hissues, h.score.storable⟩)

theorem Location.Typed.storable {l : Location} (h : l.Typed) : Storable l.toValue :=
  .obj (by simp) (by simpa using ⟨h.file.storable, h.startLine.storable, h.endLine.storable⟩)

theorem FragmentEntry.Typed.storable {e : FragmentEntry} (h : e.Typed) : Storable e.toValue :=
  .obj (by simp)
    (by simpa using ⟨h.first.storable, h.second.storable, h.lines.storable, h.similarity.storable⟩)

theorem DuplicationPart.Typed.storable {p : DuplicationPart}
    (h : p.Typed) : Storable p.toValue := by
  have hfragments := storable_map fun f hf => (h.fragments f hf).storable
  exact .obj (by simp) (by simpa using ⟨hfragments, h.totalLines.storable, h.percentage.storable⟩)

theorem DependencyEntry.Typed.storable {e : DependencyEntry}
    (h : e.Typed) : Storable e.toValue := by
  have hvulnerabilities := h.vulnerabilities.storable fun h => h.storable
  have houtdated := h.outdated.storable fun h => h.storable
  exact .obj (by simp) (by simpa using
    ⟨h.name.storable, h.version.storable, h.scope.storable, hvulnerabilities, houtdated⟩)

theorem DependencyPart.Typed.storable {p : DependencyPart} (h : p.Typed) : Storable p.toValue := by
  have hdependencies := storable_map fun d hd => (h.dependencies d hd).storable
  exact .obj (by simp) (by simpa using ⟨hdependencies, h.count.storable, h.locked.storable⟩)

theorem Summary.Typed.storable {s : Summary} (h : s.Typed) : Storable s.toValue :=
  .obj (by simp) (by simpa using ⟨h.files.storable, h.highComplexity.storable, h.issues.storable,
    h.criticalIssues.storable, h.duplicationRate.storable⟩)

theorem Report.Typed.storable {r : Report} (h : r.Typed) : Storable r.toValue := by
  have hcomplexity := storable_map fun e he => (h.complexity e he).storable
  have hsecurity := storable_map fun e he => (h.security e he).storable
  have hrecommendations : Storable (.list r.recommendations) :=
    .list fun v hv => (h.recommendations v hv).storable
  exact .obj (by simp [Report.fields]) (by simpa [Report.fields] using
    ⟨h.project.storable, h.timestamp.storable, hcomplexity, hsecurity, h.duplication.storable,
      h.dependencies.storable, h.summary.storable, hrecommendations⟩)

/-! ## Texts -/

/-- The written text of a storable value is read as that value. -/
theorem readJson_write {v : Value} (h : Storable v) (indent : Option Int) :
    readJson (Json.write indent v) = .ok v := by
  have htext : (Json.write indent v).toList = Json.valueText (indent.map Int.toNat) 0 v :=
    String.toList_ofList
  rw [readJson, htext, Json.read_valueText h]

/-- The JSON text of a typed report is in ASCII and reads as that report. -/
theorem Report.ofJson_toJson (r : Report) (h : r.Typed) (indent : Option Int) :
    (∀ c ∈ (r.toJson indent).toList, c.toNat < 128) ∧ Report.ofJson (r.toJson indent) = .ok r := by
  have htext : (r.toJson indent).toList = Json.valueText (indent.map Int.toNat) 0 r.toValue :=
    String.toList_ofList
  have hread : readJson (r.toJson indent) = .ok r.toValue := by
    rw [readJson, htext, Json.read_valueText h.storable]
  refine ⟨?_, ?_⟩
  · rw [htext]
    exact h.storable.ascii 0
  · rw [Report.ofJson, hread]
    change orFail (Report.ofValue r.toValue) = _
    rw [Report.ofValue_toValue]
    rfl

theorem Json.isIndent_iff {indent : Option Int} :
    isIndent indent = true ↔ ∀ n ∈ indent, -2 ^ 63 ≤ n ∧ n < 2 ^ 63 := by
  cases indent with
  | none => simp [isIndent]
  | some n =>
    have hsize : Value.greatestSize = 2 ^ 63 - 1 := rfl
    simp only [isIndent, Option.all_some, Bool.and_eq_true, decide_eq_true_eq, Option.mem_def,
      Option.some.injEq, forall_eq']
    omega

/-- **A typed report has a JSON text for every indent in the range of sizes; the text is in ASCII
and reads as that report.**  For an indent out of range there is none. -/
theorem Report.ofJson_dump (r : Report) (h : r.Typed) (indent : Option Int) :
    ((∀ n ∈ indent, -2 ^ 63 ≤ n ∧ n < 2 ^ 63) → ∃ text, r.dump indent = .ok text ∧
      (∀ c ∈ text.toList, c.toNat < 128) ∧ Report.ofJson text = .ok r) ∧
    ((∃ n ∈ indent, n < -2 ^ 63 ∨ 2 ^ 63 ≤ n) → r.dump indent = .error .sizeTooLarge) := by
  refine ⟨fun hrange => ?_, fun ⟨n, hn, hout⟩ => ?_⟩
  · have hindent := Json.isIndent_iff.2 hrange
    exact ⟨r.toJson indent, if_pos hindent, Report.ofJson_toJson r h indent⟩
  · have hindent : ¬ Json.isIndent indent = true := fun hrange => by
      have hn := Json.isIndent_iff.1 hrange n hn
      omega
    exact if_neg hindent

/-- A report with characters beyond ASCII and beyond the basic plane, an integer in the place of a
double, a negative zero, and nothing, zero and false side by side. -/
def Report.specimen : Report where
  project := .str "/home/é/😀\n"
  timestamp := .int (-1)
  complexity := [⟨.str "a\"b\\c.py", .int 3, [⟨.str "f", .int 3, .int 1⟩], .str "low"⟩]
  security :=
  [⟨.str "b.py", [⟨.str "injection", .str "critical", .str "\x00", .null, .null⟩], .int 0⟩]
  duplication := ⟨[], .int 0, .float (.zero true)⟩
  dependencies := ⟨[⟨.str "d", .str "1", .str "prod", .int 0, .null⟩,
    ⟨.str "e", .str "2", .str "dev", .null, .bool false⟩], .bool false⟩
  summary := ⟨.int 2, .int 0, .int 1, .int 1, .float (.infinite false)⟩
  recommendations := [.str ""]

theorem Report.typed_specimen : Report.specimen.Typed := by
  have hint : ∀ i : ℤ, i.natAbs < 10 → (Value.int i).IsInteger := fun i hi =>
    .mk (by simp [Nat.toDigits_of_lt_base hi, Text.digitLimit])
  refine ⟨⟨_⟩, hint _ (by decide), ?_, ?_, ⟨?_, hint _ (by decide), .float _⟩, ?_, ?_, ?_⟩
  · simpa [specimen] using ⟨⟨_⟩, .integer (hint _ (by decide)), by
      simpa using ⟨⟨_⟩, hint _ (by decide), hint _ (by decide)⟩, ⟨_⟩⟩
  · simpa [specimen] using ⟨⟨_⟩, by simpa using ⟨⟨_⟩, ⟨_⟩, ⟨_⟩, .null, .null⟩, hint _ (by decide)⟩
  · simp [specimen]
  · refine ⟨?_, hint _ (by decide), ⟨_⟩⟩
    simpa [specimen] using ⟨⟨⟨_⟩, ⟨_⟩, ⟨_⟩, .some (hint _ (by decide)), .null⟩,
      ⟨⟨_⟩, ⟨_⟩, ⟨_⟩, .null, .some ⟨_⟩⟩⟩
  · exact ⟨hint _ (by decide), hint _ (by decide), hint _ (by decide), hint _ (by decide), .float _⟩
  · simpa [specimen] using ⟨_⟩

theorem Report.ofJson_dump_specimen : Report.specimen.Typed ∧
    ∃ text, Report.specimen.dump (some (-2)) = .ok text ∧ (∀ c ∈ text.toList, c.toNat < 128) ∧
      Report.ofJson text = .ok Report.specimen :=
  ⟨typed_specimen, (Report.ofJson_dump specimen typed_specimen (some (-2))).1 (by simp)⟩

/-- An indent just below the range leaves a typed report without a text. -/
theorem Report.dump_specimen_fails : Report.specimen.Typed ∧
    Report.specimen.dump (some (-9223372036854775809)) = .error .sizeTooLarge :=
  ⟨typed_specimen, rfl⟩

end SourceSurvey
