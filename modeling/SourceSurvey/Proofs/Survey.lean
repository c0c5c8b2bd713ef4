import SourceSurvey.Proofs.Trace
import SourceSurvey.Proofs.Value.Order
import SourceSurvey.Survey

/-!
# What a survey reports about risky lines

The summary of a report counts the findings of all files of the snapshot.  `survey_ok` takes a
survey that succeeds apart; `issues_pos_iff` and `countIssues_pos_iff` say when its counts are
positive: a rule that is counted applies to some line of some source file (`Flagged`).

* `mem_findingsFrom`: findings and lines;
* `exists_issue_iff`: findings and files;
* `outcome_survey`: a survey as a snapshot, its analyses, and a conclusion.
-/

namespace SourceSurvey

theorem Traced.both_ok {α β : Type} {x : Traced α} {y : Traced β} {r : α × β} :
    (x.both y).outcome = .ok r ↔ x.outcome = .ok r.1 ∧ y.outcome = .ok r.2 := by
  obtain ⟨a, b⟩ := r
  change (do return (← x.outcome, ← y.outcome) : Except Failure (α × β)) = .ok (a, b) ↔ _
  cases x.outcome <;> cases y.outcome <;> simp [Bind.bind, Except.bind, Pure.pure, Except.pure]

/-! ## Findings -/

/-- A line gives a finding for each rule that applies to it. -/
theorem mem_findingsFrom {rules : List Rule} {lines : List (List Char)} {n : ℕ} {rule : Rule} :
    (∃ found ∈ findingsFrom rules n lines, found.rule = rule) ↔
      rule ∈ rules ∧ ∃ line ∈ lines, rule.fires line = true := by
  induction lines generalizing n with
  | nil => simp [findingsFrom]
  | cons line lines ih =>
    rw [findingsFrom]
    constructor
    · rintro ⟨found, hfound, rfl⟩
      rcases List.mem_append.1 hfound with hhere | hlater
      · obtain ⟨rule, hrule, rfl⟩ := List.mem_map.1 hhere
        obtain ⟨hmem, hfires⟩ := List.mem_filter.1 hrule
        exact ⟨hmem, line, List.mem_cons_self, hfires⟩
      · obtain ⟨hmem, l, hl, hfires⟩ := ih.1 ⟨found, hlater, rfl⟩
        exact ⟨hmem, l, List.mem_cons_of_mem _ hl, hfires⟩
    · rintro ⟨hmem, l, hl, hfires⟩
      rcases List.mem_cons.1 hl with rfl | hl
      · exact ⟨⟨rule, n⟩,
          List.mem_append_left _ (List.mem_map_of_mem (List.mem_filter.2 ⟨hmem, hfires⟩)), rfl⟩
      · obtain ⟨found, hfound, hrule⟩ := ih.2 ⟨hmem, l, hl, hfires⟩
        exact ⟨found, List.mem_append_right _ hfound, hrule⟩

/-- The rules that are counted apply to some line of some file. -/
def Flagged (counted : Rule → Bool) (rules : List Rule) (files : List SourceFile) : Prop :=
  ∃ file ∈ files, ∃ line ∈ file.lines, ∃ rule ∈ rules, counted rule = true ∧ rule.fires line = true

/-- A file without findings is left out, and each other one has an entry for each of them. -/
theorem issues_scan {rules : List Rule} {file : SourceFile} {issue : IssueEntry} :
    (∃ found ∈ scan rules file, issue ∈ found.toEntry.issues) ↔
      issue ∈ (findings rules file.content.toList).map (·.toEntry) := by
  unfold scan
  cases findings rules file.content.toList with
  | nil => simp
  | cons f fs =>
    constructor
    · rintro ⟨found, hfound, hissue⟩
      obtain rfl := Option.some.inj hfound
      exact hissue
    · exact fun hissue => ⟨_, rfl, hissue⟩

/-- Some issue of some entry is counted just when a counted rule applies somewhere. -/
theorem exists_issue_iff {rules : List Rule} {files : List SourceFile} {counted : Rule → Bool}
    (counts : IssueEntry → Bool) (h : ∀ f : Finding, counts f.toEntry = counted f.rule) :
    (∃ e ∈ (files.filterMap (scan rules)).map (·.toEntry), ∃ issue ∈ e.issues,
      counts issue = true) ↔
      Flagged counted rules files := by
  constructor
  · rintro ⟨e, he, issue, hissue, hcounts⟩
    obtain ⟨found, hfound, rfl⟩ := List.mem_map.1 he
    obtain ⟨file, hfile, hscan⟩ := List.mem_filterMap.1 hfound
    obtain ⟨f, hf, rfl⟩ := List.mem_map.1 (issues_scan.1 ⟨found, hscan, hissue⟩)
    obtain ⟨hrule, line, hline, hfires⟩ := mem_findingsFrom.1 ⟨f, hf, rfl⟩
    exact ⟨file, hfile, line, hline, f.rule, hrule, (h f).symm.trans hcounts, hfires⟩
  · rintro ⟨file, hfile, line, hline, rule, hrule, hcounted, hfires⟩
    obtain ⟨f, hf, rfl⟩ := mem_findingsFrom.2 ⟨hrule, line, hline, hfires⟩
    obtain ⟨found, hscan, hissue⟩ := issues_scan.2 (List.mem_map_of_mem hf)
    have hmem : found ∈ files.filterMap (scan rules) := List.mem_filterMap.2 ⟨file, hfile, hscan⟩
    exact ⟨found.toEntry, List.mem_map_of_mem hmem, f.toEntry, hissue, (h f).trans hcounted⟩

/-- Whether a finding of a rule is critical. -/
def Rule.isCritical (rule : Rule) : Bool := rule.severity = .critical

theorem issues_pos_iff {rules : List Rule} {files : List SourceFile} :
    0 < (((files.filterMap (scan rules)).map (·.toEntry)).map (·.issues.length)).sum ↔
      Flagged (fun _ => true) rules files := by
  rw [← exists_issue_iff (fun _ => true) fun _ => rfl, List.sum_pos_iff_exists_pos_nat]
  simp [List.length_pos_iff_exists_mem]

theorem countIssues_pos_iff {rules : List Rule} {files : List SourceFile} :
    0 < countIssues ((files.filterMap (scan rules)).map (·.toEntry)) "critical" ↔
      Flagged Rule.isCritical rules files := by
  have hcounts : ∀ f : Finding, f.toEntry.severity.isText "critical" = f.rule.isCritical := by
    intro f
    change (f.rule.severity.text == "critical") = decide (f.rule.severity = .critical)
    cases f.rule.severity <;> decide
  rw [← exists_issue_iff (fun i => i.severity.isText "critical") hcounts, countIssues,
    ← List.sum_eq_foldr, List.sum_pos_iff_exists_pos_nat]
  simp [SecurityEntry.count, List.countP_pos_iff]

/-! ## Surveys -/

theorem scanAll_ok {rules : List Rule} {files : List SourceFile} {entries : List SecurityEntry}
    (h : (scanAll rules files).outcome = .ok entries) :
    entries = (files.filterMap (scan rules)).map (·.toEntry) := by
  rw [scanAll, Traced.log_bind_ok, Traced.pure_ok] at h
  exact h.symm

theorem Summary.of_ok {complexity : List ComplexityEntry} {security : List SecurityEntry}
    {duplication : DuplicationPart} {s : Summary}
    (h : Summary.of complexity security duplication = .ok s) :
    s.issues = .ofNat (security.map (·.issues.length)).sum ∧
      s.criticalIssues = .ofNat (countIssues security "critical") := by
  rw [Summary.of, bind_eq_ok] at h
  obtain ⟨high, -, h⟩ := h
  obtain rfl := Except.ok.inj h
  exact ⟨rfl, rfl⟩

/-- **A survey that succeeds** has a snapshot of files, and its summary counts the findings of all
source files among them. -/
theorem survey_ok {w : World} {settings : Settings} {corpus : String → Traced (List SourceFile)}
    {auditor : Auditor} {path : String} {report : Report}
    (h : (survey w settings corpus auditor path).outcome = .ok report) :
    ∃ files, (corpus path).outcome = .ok files ∧
      let entries :=
        ((files.filter fun f => isSourceFile f.path).filterMap (scan Rule.all)).map (·.toEntry)
      report.summary.issues = .ofNat (entries.map (·.issues.length)).sum ∧
        report.summary.criticalIssues = .ofNat (countIssues entries "critical") := by
  rw [survey, Traced.log_bind_ok, Traced.bind_ok] at h
  obtain ⟨files, hfiles, h⟩ := h
  refine ⟨files, hfiles, ?_⟩
  rw [Traced.log_bind_ok, Traced.bind_ok] at h
  obtain ⟨results, hresults, h⟩ := h
  rw [Traced.bind_ok] at h
  obtain ⟨summary, hsummary, h⟩ := h
  rw [Traced.bind_ok] at h
  obtain ⟨texts, -, h⟩ := h
  rw [Traced.bind_ok] at h
  obtain ⟨message, -, h⟩ := h
  rw [Traced.log_bind_ok, Traced.bind_ok] at h
  obtain ⟨time, -, h⟩ := h
  rw [Traced.pure_ok] at h
  obtain rfl := h
  have hcounts := Summary.of_ok (orFail_ok.1 hsummary)
  rw [Analyses.all, Traced.bind_ok] at hresults
  obtain ⟨⟨complexity, security, duplication, dependencies⟩, hall, hresults⟩ := hresults
  rw [Traced.pure_ok] at hresults
  obtain rfl := hresults
  -- of the four analyses only the scan for risky lines is counted here
  have hsecurity := scanAll_ok (Traced.both_ok.1 (Traced.both_ok.1 hall).2).1
  simp only at hsecurity
  rw [← hsecurity]
  exact hcounts

/-! ## Snapshot, analyses, conclusion -/

/-- The analyses of the source files among those of a corpus. -/
def Analyses.ofFiles (w : World) (settings : Settings) (auditor : Auditor) (path : String)
    (files : List SourceFile) : Analyses :=
  .of w settings auditor path (files.filter fun f => isSourceFile f.path)

/-- What a survey makes of the results of its analyses. -/
def Results.conclude (w : World) (settings : Settings) (path : String)
    (results : Results) : Traced Report := do
  let summary ← Summary.of results.complexity results.security results.duplication
  let texts ← recommendations results.complexity results.security results.duplication
    results.dependencies settings.thresholds.warning
  Traced.log .info (← completion summary)
  return results.report path (← timestamp w) summary texts

theorem outcome_survey (w : World) (settings : Settings)
    (corpus : String → Traced (List SourceFile)) (auditor : Auditor) (path : String) :
    (survey w settings corpus auditor path).outcome = (corpus path).outcome >>= fun files =>
      (Analyses.ofFiles w settings auditor path files).all.outcome >>= fun results =>
        (results.conclude w settings path).outcome := by
  rw [survey, Traced.outcome_log_bind, Traced.outcome_bind]
  refine bind_congr fun files => ?_
  rw [Traced.outcome_log_bind, Traced.outcome_bind]
  rfl

/-- A directory with nothing in it. -/
def emptyWorld : World where
  top := .directory []
  here := []
  environment := []
  tool := fun _ => .missing
  clock := .int 0
  accessDenied := false
  width := 80

end SourceSurvey
