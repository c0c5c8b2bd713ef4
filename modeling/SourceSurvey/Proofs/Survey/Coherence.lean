import SourceSurvey.Proofs.Audit.Outcome
import SourceSurvey.Proofs.Report.Recommendation
import SourceSurvey.Proofs.Survey

/-!
# Coherence of a report

A report says the same things several times: as entries, as counts in its summary, and as
recommendations, and each is made by code of its own.  `Report.Coherent` says that they agree with
the source files and with each other, and `survey_coherent` that every report of a survey does so.

* `counted_of_audit`: what an audit notes about vulnerabilities;
* `securityEntries_scan`: the files with findings;
* `Analyses.all_ok`, `Results.conclude_ok`: a report and the results of its analyses.
-/

namespace SourceSurvey

open Recommendation

/-! ## Dependencies -/

theorem counted_of_noteCount {counts : Value} {d noted : DependencyEntry} (hd : Counted d)
    (h : Audit.noteCount counts d = .ok noted) : Counted noted := by
  obtain ⟨known, -, h⟩ := bind_eq_ok.1 h
  cases known with
  | false => exact Except.ok.inj h ▸ hd
  | true =>
    obtain ⟨count, -, h⟩ := bind_eq_ok.1 h
    obtain ⟨n, -, h⟩ := bind_eq_ok.1 h
    exact .inr ⟨n, by rw [← Except.ok.inj h]⟩

theorem counted_of_noteOutdated {names : Value} {d noted : DependencyEntry} (hd : Counted d)
    (h : Audit.noteOutdated names d = .ok noted) : Counted noted := by
  obtain ⟨outdated, -, h⟩ := bind_eq_ok.1 h
  exact Except.ok.inj h ▸ hd

/-- What holds of each dependency and is kept by each note holds after all notes. -/
theorem forall_of_noteAll {P : DependencyEntry → Prop}
    {note : Value → DependencyEntry → Except Misuse DependencyEntry}
    (hnote : ∀ answer d noted, P d → note answer d = .ok noted → P noted) {answer : Option Value}
    {dependencies noted : List DependencyEntry} (hall : ∀ d ∈ dependencies, P d)
    (h : Audit.noteAll note answer dependencies = .ok noted) : ∀ d ∈ noted, P d := by
  cases answer with
  | none =>
    obtain rfl := Except.ok.inj h
    exact hall
  | some answer =>
    intro d hd
    obtain ⟨before, hbefore, hsame⟩ := exists_left_of_mapM h hd
    exact hnote _ _ _ (hall before hbefore) hsame

theorem counted_of_listed {w : World} {project : Route} {dependencies : List DependencyEntry}
    (h : (Auditor.listed w project).outcome = .ok dependencies) :
    ∀ d ∈ dependencies, Counted d := by
  cases hfound : w.reaches (project.child Manifest.fileName) with
  | error f =>
    rw [Auditor.listed, hfound] at h
    cases h
  | ok found =>
    cases found with
    | false =>
      rw [Auditor.listed_of_missing hfound] at h
      obtain rfl := Except.ok.inj h
      simp
    | true =>
      rcases Manifest.read_spec hfound with ⟨-, n, hread⟩ | ⟨-, -, hrefused⟩ |
        ⟨-, records, hread, hunnoted⟩
      · rw [Auditor.listed_of_misuse hfound hread] at h
        cases h
      · obtain ⟨message, hlisted⟩ := Auditor.listed_of_refused hfound hrefused
        rw [hlisted] at h
        obtain rfl := Except.ok.inj h
        simp
      · rw [Auditor.listed_of_read hfound hread] at h
        obtain rfl := Except.ok.inj h
        exact fun d hd => .inl (hunnoted d hd).1

/-- After an audit the vulnerabilities of each dependency are counted or unknown. -/
theorem counted_of_audit {w : World} {a : Auditor} {path : String} {part : DependencyPart}
    (h : (a.audit w path).outcome = .ok part) : ∀ d ∈ part.dependencies, Counted d := by
  obtain ⟨locked, -, h⟩ := Traced.bind_ok.1 h
  obtain ⟨dependencies, hlisted, h⟩ := Traced.bind_ok.1 h
  obtain ⟨enriched, henriched, h⟩ := Traced.bind_ok.1 h
  obtain rfl := Traced.pure_ok.1 h
  have hcounted := counted_of_listed hlisted
  rw [Auditor.enrich] at henriched
  split_ifs at henriched
  · obtain rfl := Traced.pure_ok.1 henriched
    simp
  obtain ⟨counts, -, henriched⟩ := Traced.bind_ok.1 henriched
  obtain ⟨noted, hnoted, henriched⟩ := Traced.bind_ok.1 henriched
  obtain ⟨outdated, -, henriched⟩ := Traced.bind_ok.1 henriched
  have hnotedCounted :=
    forall_of_noteAll (fun _ _ _ => counted_of_noteCount) hcounted (orFail_ok.1 hnoted)
  exact forall_of_noteAll (fun _ _ _ => counted_of_noteOutdated) hnotedCounted
    (orFail_ok.1 henriched)

/-! ## Security -/

/-- The issues of a source file. -/
def SourceFile.issues (f : SourceFile) : List IssueEntry :=
  (findings Rule.all f.content.toList).map (·.toEntry)

/-- The score of a file by its issues. -/
def SecurityEntry.deserved (e : SecurityEntry) : ℤ :=
  max 0 (100 - 10 * e.issues.length - 30 * e.count "critical")

/-- The highest score is 100, so the bound above it never counts. -/
theorem securityScore_eq (total critical : ℕ) :
    securityScore total critical = max 0 (100 - 10 * total - 30 * critical : ℤ) := by
  unfold securityScore
  omega

@[simp] theorem isText_severity (f : Finding) :
    f.toEntry.severity.isText "critical" = (f.rule.severity == .critical) := by
  change (f.rule.severity.text == "critical") = _
  cases f.rule.severity <;> decide

/-- A file without issues has no entry, and the entry of any other has its issues and the score they
deserve. -/
theorem scan_spec (f : SourceFile) :
    (f.issues = [] ∧ scan Rule.all f = none) ∨
      f.issues ≠ [] ∧ ∃ found, scan Rule.all f = some found ∧ found.toEntry.file = .str f.path ∧
        found.toEntry.issues = f.issues ∧ found.toEntry.score = .int found.toEntry.deserved := by
  unfold SourceFile.issues scan
  cases hfindings : findings Rule.all f.content.toList with
  | nil => exact .inl ⟨rfl, rfl⟩
  | cons first rest =>
    refine .inr ⟨by simp, _, rfl, rfl, rfl, congrArg Value.int ?_⟩
    have hcritical (found : List Finding) :
        (found.map (·.toEntry)).countP (·.severity.isText "critical") =
        found.countP (·.rule.severity == .critical) := by
      rw [List.countP_map]
      exact List.countP_congr fun f _ => by rw [Function.comp_apply, isText_severity]
    rw [securityScore_eq]
    unfold SecurityEntry.deserved SecurityEntry.count FileFindings.toEntry
    rw [hcritical, List.length_map]

/-- The files with issues, in their order. -/
theorem securityEntries_scan (files : List SourceFile) :
    ((files.filterMap (scan Rule.all)).map (·.toEntry)).map (fun e => (e.file, e.issues)) =
      (files.filter (·.issues ≠ [])).map fun f => (.str f.path, f.issues) := by
  induction files with
  | nil => rfl
  | cons f files ih =>
    rcases scan_spec f with ⟨hnone, hscan⟩ | ⟨hsome, found, hscan, hfile, hissues, -⟩
    · rw [List.filterMap_cons_none hscan, ih, List.filter_cons_of_neg (by simpa using hnone)]
    · rw [List.filterMap_cons_some hscan, List.filter_cons_of_pos (by simpa using hsome),
        List.map_cons, List.map_cons, List.map_cons, ih, hfile, hissues]

theorem score_of_mem_scan {files : List SourceFile} {e : SecurityEntry}
    (h : e ∈ (files.filterMap (scan Rule.all)).map (·.toEntry)) : e.score = .int e.deserved := by
  obtain ⟨found, hfound, rfl⟩ := List.mem_map.1 h
  obtain ⟨f, -, hscan⟩ := List.mem_filterMap.1 hfound
  rcases scan_spec f with ⟨-, hnone⟩ | ⟨-, other, hother, -, -, hscore⟩
  · cases hscan.symm.trans hnone
  · obtain rfl := Option.some.inj (hscan.symm.trans hother)
    exact hscore

/-! ## Complexity -/

/-- What a mean is documented to be: the nearest number to the quotient of sum and length, as long
as the sum is small enough for no digit of it to be lost. -/
def Averages (mean : List ℕ → Double) : Prop :=
  ∀ numbers, numbers ≠ [] → numbers.sum < 2 ^ 53 →
    mean numbers = Double.ofRatio false numbers.sum numbers.length

theorem averages_mean : Averages Double.mean := by
  intro numbers _ _
  rw [Double.mean, ← List.sum_eq_foldr]

/-- Any mean that is what it should be gives a file the same score. -/
theorem score_eq_of_averages {mean : List ℕ → Double} (h : Averages mean)
    {shapes : List Span.Header} {f : SourceFile}
    (hsmall : ((Complexity.score shapes f).functions.map (·.complexity)).sum < 2 ^ 53) :
    Complexity.score shapes f mean = Complexity.score shapes f := by
  unfold Complexity.score at hsmall ⊢
  generalize (Span.spans shapes f.content.toList).map _ = functions at hsmall ⊢
  cases functions with
  | nil => rfl
  | cons first rest =>
    have hmean : mean ((first :: rest).map (·.complexity)) =
        Double.mean ((first :: rest).map (·.complexity)) := by
      rw [h _ (by simp) hsmall, averages_mean _ (by simp) hsmall]
    simp only [List.isEmpty_cons, Bool.false_eq_true, if_false, hmean]

/-! ## Reports -/

/-- All issues of a report. -/
def Report.issues (r : Report) : List IssueEntry := r.security.flatMap (·.issues)

theorem countIssues_eq (security : List SecurityEntry) (severity : String) :
    countIssues security severity = (security.flatMap (·.issues)).countP
      (·.severity.isText severity) := by
  rw [List.countP_flatMap, countIssues, ← List.sum_eq_foldr]
  rfl

/-- What a report about source files should say: each file has a complexity, those with issues have
an entry with the score they deserve, the summary counts what the entries hold, and the
recommendations advise by the same counts. -/
structure Report.Coherent (mean : List ℕ → Double) (sources : List SourceFile) (warning : Value)
    (r : Report) : Prop where
  complexity : r.complexity = sources.map fun f => (Complexity.score Span.Header.all f mean).toEntry
  order : r.complexity.map (·.file) = sources.map fun f => .str f.path
  security : r.security.map (fun e => (e.file, e.issues)) =
    (sources.filter (·.issues ≠ [])).map fun f => (.str f.path, f.issues)
  score : ∀ e ∈ r.security, e.score = .int e.deserved
  files : r.summary.files = .ofNat r.complexity.length
  high : r.summary.highComplexity = .ofNat (r.complexity.countP ratedHigh)
  issues : r.summary.issues = .ofNat r.issues.length
  critical : r.summary.criticalIssues = .ofNat (r.issues.countP (·.severity.isText "critical"))
  rate : r.summary.duplicationRate = r.duplication.percentage
  counted : ∀ d ∈ r.dependencies.dependencies, Counted d
  advice : ∃ texts, r.recommendations = texts.map .str ∧
    Advises (r.complexity.countP ratedHigh) (r.issues.countP (·.severity.isText "critical"))
      (r.issues.countP (·.severity.isText "high")) r.duplication.percentage warning
      (vulnerableNames r.dependencies) r.dependencies.locked.truthy texts

theorem scoreAll_ok {mean : List ℕ → Double} {shapes : List Span.Header} {files : List SourceFile}
    {entries : List ComplexityEntry} (h : (scoreAll mean shapes files).outcome = .ok entries) :
    entries = files.map fun f => (Complexity.score shapes f mean).toEntry := by
  rw [scoreAll, Traced.log_bind_ok, Traced.pure_ok] at h
  exact h.symm

theorem Analyses.all_ok {a : Analyses} {r : Results} (h : a.all.outcome = .ok r) :
    a.complexity.outcome = .ok r.complexity ∧ a.security.outcome = .ok r.security ∧
      a.duplication.outcome = .ok r.duplication ∧ a.dependencies.outcome = .ok r.dependencies := by
  obtain ⟨parts, hparts, h⟩ := Traced.bind_ok.1 h
  obtain rfl := Traced.pure_ok.1 h
  obtain ⟨hcomplexity, hparts⟩ := Traced.both_ok.1 hparts
  obtain ⟨hsecurity, hparts⟩ := Traced.both_ok.1 hparts
  obtain ⟨hduplication, hdependencies⟩ := Traced.both_ok.1 hparts
  exact ⟨hcomplexity, hsecurity, hduplication, hdependencies⟩

theorem Results.conclude_ok {w : World} {settings : Settings} {path : String} {results : Results}
    {report : Report} (h : (results.conclude w settings path).outcome = .ok report) :
    ∃ summary texts time, Summary.of results.complexity results.security results.duplication =
      .ok summary ∧
      recommendations results.complexity results.security results.duplication results.dependencies
        settings.thresholds.warning = .ok texts ∧
        report = results.report path time summary texts := by
  obtain ⟨summary, hsummary, h⟩ := Traced.bind_ok.1 h
  obtain ⟨texts, htexts, h⟩ := Traced.bind_ok.1 h
  obtain ⟨message, -, h⟩ := Traced.bind_ok.1 h
  obtain ⟨time, -, h⟩ := Traced.bind_ok.1 (Traced.log_bind_ok.1 h)
  exact ⟨summary, texts, time, orFail_ok.1 hsummary, orFail_ok.1 htexts, (Traced.pure_ok.1 h).symm⟩

theorem Summary.of_eq {complexity : List ComplexityEntry} (security : List SecurityEntry)
    (duplication : DuplicationPart) (hrated : ∀ e ∈ complexity, ∃ rating, e.rating = .str rating) :
    Summary.of complexity security duplication =
      .ok ⟨.ofNat complexity.length, .ofNat (complexity.countP ratedHigh),
      .ofNat (security.flatMap (·.issues)).length,
      .ofNat ((security.flatMap (·.issues)).countP (·.severity.isText "critical")),
      duplication.percentage⟩ := by
  have hhigh : complexity.countP ratedHigh = (complexity.filter ratedHigh).length :=
    List.countP_eq_length_filter
  rw [Summary.of, highFiles_eq hrated, countIssues_eq, hhigh, List.length_flatMap,
    List.sum_eq_foldr]
  rfl

/-- **Every report of a survey is coherent**: its entries, its summary and its recommendations are
about the source files of one snapshot and the dependencies of one audit, and agree with each
other. -/
theorem survey_coherent {w : World} {settings : Settings}
    {corpus : String → Traced (List SourceFile)} {auditor : Auditor} {path : String}
    {report : Report} (h : (survey w settings corpus auditor path).outcome = .ok report) :
    ∃ files, (corpus path).outcome = .ok files ∧
    (auditor.audit w path).outcome = .ok report.dependencies ∧
      report.Coherent w.mean (files.filter fun f => isSourceFile f.path)
      settings.thresholds.warning := by
  rw [outcome_survey] at h
  obtain ⟨files, hfiles, h⟩ := bind_eq_ok.1 h
  obtain ⟨⟨complexity, security, duplication, dependencies⟩, hresults, h⟩ := bind_eq_ok.1 h
  obtain ⟨hcomplexity, hsecurity, -, hdependencies⟩ := Analyses.all_ok hresults
  obtain ⟨summary, texts, time, hsummary, htexts, rfl⟩ := Results.conclude_ok h
  refine ⟨files, hfiles, hdependencies, ?_⟩
  obtain rfl : complexity = _ := scoreAll_ok hcomplexity
  obtain rfl : security = _ := scanAll_ok hsecurity
  have hrated : ∀ e ∈ (files.filter fun f => isSourceFile f.path).map
      fun f => (Complexity.score Span.Header.all f w.mean).toEntry, ∃ rating,
      e.rating = .str rating := by
    intro e he
    obtain ⟨f, -, rfl⟩ := List.mem_map.1 he
    exact ⟨_, rfl⟩
  have hcounted := counted_of_audit hdependencies
  have hadvice := recommendations_advises hrated hcounted htexts
  rw [Summary.of_eq _ _ hrated] at hsummary
  obtain rfl := Except.ok.inj hsummary
  rw [countIssues_eq, countIssues_eq] at hadvice
  exact {
    complexity := rfl
    order := by rw [Results.report, List.map_map]; rfl
    security := securityEntries_scan _
    score := fun e he => score_of_mem_scan he
    files := rfl
    high := rfl
    issues := rfl
    critical := rfl
    rate := rfl
    counted := hcounted
    advice := ⟨texts, rfl, hadvice⟩ }

/-- A source file with a risky line, and a file that is no source file. -/
def riskySnapshot : List SourceFile := [⟨"a.js", "eval(x)"⟩, ⟨"b.txt", ""⟩]

theorem survey_coherent_risky_file :
    ∃ report, (survey emptyWorld .default (fun _ => pure riskySnapshot) .silent ".").outcome =
      .ok report ∧
      report.Coherent Double.mean [⟨"a.js", "eval(x)"⟩] Settings.default.thresholds.warning := by
  have hsome :
      (survey emptyWorld .default (fun _ => pure riskySnapshot) .silent
        ".").outcome.toOption.isSome =
      true := by decide +kernel
  obtain ⟨report, hreport⟩ := Option.isSome_iff_exists.1 hsome
  have hok := toOption_eq_some.1 hreport
  obtain ⟨files, hfiles, -, hcoherent⟩ := survey_coherent hok
  obtain rfl := Except.ok.inj hfiles
  have hsources : riskySnapshot.filter (fun f => isSourceFile f.path) = [⟨"a.js", "eval(x)"⟩] := by
    decide +kernel
  exact ⟨report, hok, hsources ▸ hcoherent⟩

end SourceSurvey
