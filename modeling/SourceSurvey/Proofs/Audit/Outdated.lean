import SourceSurvey.Proofs.Audit.Annotation

/-!
# Outdated dependencies

A report about outdated dependencies maps the names of packages to objects (`MapsNames`), and the
package manager reports an error of its own as an object under a name of the same kind.  So an audit
flags the dependencies whose names are in the report (`Flagged`) just when no package in it has that
name; where one has, nothing is noted at any dependency (`audit_flags_iff`).

* `noteAll_fixed`: the number of vulnerabilities is noted without a change of anything else;
* `enrich_flags`: the flags of an audit, whoever answers about vulnerabilities.
-/

namespace SourceSurvey

namespace Audit

/-- A report that maps names of packages to objects. -/
def MapsNames (fields : List (String × Value)) : Prop :=
  ∀ field ∈ fields, ∃ inner, field.2 = .obj inner

/-- A dependency has the flag that a report gives it: it is outdated just when its name is in the
report. -/
def Flagged (fields : List (String × Value)) (d : DependencyEntry) : Prop :=
  ∃ flag, d.outdated = .bool flag ∧ (flag = true ↔ d.name.text ∈ fields.map Prod.fst)

/-- What stays of a dependency when its vulnerabilities are noted. -/
def fixed (d : DependencyEntry) : Value × Value × Value × Value :=
  (d.name, d.version, d.scope, d.outdated)

theorem noteCount_fixed {counts : Value} {d noted : DependencyEntry}
    (h : noteCount counts d = .ok noted) :
    fixed noted = fixed d := by
  obtain ⟨held, -, h⟩ := bind_eq_ok.1 h
  cases held with
  | false =>
    rw [← Except.ok.inj h]
  | true =>
    obtain ⟨count, -, h⟩ := bind_eq_ok.1 h
    obtain ⟨n, -, h⟩ := bind_eq_ok.1 h
    rw [← Except.ok.inj h]
    rfl

theorem noteAll_fixed {counts : Option Value} {records counted : List DependencyEntry}
    (h : noteAll noteCount counts records = .ok counted) :
    counted.map fixed = records.map fixed := by
  cases counts with
  | none => rw [Except.ok.inj h]
  | some v =>
    induction mapM_eq_ok.1 h with
    | nil => rfl
    | cons hd hrest ih =>
      rw [List.map_cons, List.map_cons, noteCount_fixed hd, ih (mapM_eq_ok.2 hrest)]

theorem asksTool_of_eq {client : Option Client} {seconds : Value}
    (h : client = some (.packageManager seconds)) :
    AsksTool client := by
  rw [h]
  rintro c ⟨⟩
  exact ⟨seconds, rfl⟩

theorem heard_of_eq {w : World} {q : Question} {client : Option Client} {seconds : Value}
    {project : Route} (h : client = some (.packageManager seconds))
    (hanswer : w.answerTo ⟨q.words, project.text, seconds⟩ ≠ .interrupted) :
    Heard w q client project := by
  rw [h]
  rintro call ⟨⟩
  exact hanswer

/-- The dependencies of an audit have the flags of the answer about outdated ones, whoever answers
about vulnerabilities. -/
theorem enrich_flags {decode : String → Except Failure Value}
    (hdecode : Uninterrupted decode) {w : World} {a : Auditor} {seconds : Value} {project : Route}
    {records annotated : List DependencyEntry}
    (hclient : a.outdated = some (.packageManager seconds))
    (hanswer : w.answerTo ⟨Question.outdated.words, project.text, seconds⟩ ≠ .interrupted)
    (hne : records ≠ []) (h : (a.enrich w project records decode).outcome = .ok annotated) :
    ∃ counted : List DependencyEntry, counted.map fixed = records.map fixed ∧
      annotated = counted.map fun d =>
        { d with
          outdated := notedFlag
            (answer? decode .outdated
              (w.answerTo ⟨Question.outdated.words, project.text, seconds⟩)
              (records.map (·.name.text))) d } := by
  rw [Auditor.enrich, if_neg (by simpa using hne), Traced.bind_ok] at h
  obtain ⟨counts, -, h⟩ := h
  obtain ⟨counted, hcounted, h⟩ := Traced.bind_ok.1 h
  obtain ⟨flags, hflags, h⟩ := Traced.bind_ok.1 h
  rw [Traced.outcome_liftM_misuse, orFail_ok] at hcounted h
  rw [lookUp_outcome hdecode (asksTool_of_eq hclient) (heard_of_eq hclient hanswer),
    hclient] at hflags
  obtain rfl := Except.ok.inj hflags
  refine ⟨counted, noteAll_fixed hcounted, ?_⟩
  exact Except.ok.inj (h.symm.trans (noteAll_noteOutdated _ counted exists_of_answerOf))

section Flags

variable {decode : String → Except Failure Value} {fields : List (String × Value)}

/-- Where all values are objects, the name of an error stands for one. -/
theorem MapsNames.error_iff (h : MapsNames fields) :
    (∃ error, fields.lookup "error" = some (.obj error)) ↔ "error" ∈ fields.map Prod.fst := by
  constructor
  · rintro ⟨error, herror⟩
    exact List.mem_map_of_mem (Value.mem_of_lookup herror)
  · intro hmem
    cases hlookup : fields.lookup "error" with
    | none =>
      obtain ⟨⟨_, v⟩, hfield, rfl⟩ := List.mem_map.1 hmem
      exact absurd rfl (bne_iff_ne.1 (List.lookup_eq_none_iff.1 hlookup _ hfield))
    | some v =>
      obtain ⟨error, rfl⟩ := h _ (Value.mem_of_lookup hlookup)
      exact ⟨error, rfl⟩

theorem flagged_notedFlag (fields : List (String × Value)) (d : DependencyEntry) :
    Flagged fields { d with outdated := notedFlag (some (.ofTexts (fields.map (·.1)))) d } := by
  refine ⟨_, rfl, ?_⟩
  simp [Value.isText]

/-- A report with an error of its own is no answer. -/
theorem answer?_of_error {answer : ToolAnswer} (hreport : Decodes decode answer (.obj fields))
    (hnames : MapsNames fields) (herror : "error" ∈ fields.map Prod.fst) (names : List String) :
    answer? decode .outdated answer names = none := by
  obtain ⟨error, herror⟩ := hnames.error_iff.2 herror
  rw [answer?_outdated, Option.map_eq_none_iff, Option.eq_none_iff_forall_ne_some]
  intro found hfound
  obtain ⟨hdecodes, hfree⟩ := report?_eq_some.1 hfound
  obtain rfl := Value.obj.inj (hdecodes.unique hreport)
  exact hfree error herror

theorem answer?_of_no_error {answer : ToolAnswer} (hreport : Decodes decode answer (.obj fields))
    (hnames : MapsNames fields) (herror : "error" ∉ fields.map Prod.fst) (names : List String) :
    answer? decode .outdated answer names = some (.ofTexts (fields.map (·.1))) := by
  have hfree := not_exists.1 (mt hnames.error_iff.1 herror)
  rw [answer?_outdated, report?_eq_some.2 ⟨hreport, hfree⟩]
  rfl

theorem answer?_of_nothing_decoded {answer : ToolAnswer} (h : ∀ v, ¬ Decodes decode answer v)
    (names : List String) : answer? decode .outdated answer names = none := by
  rw [answer?_outdated, Option.map_eq_none_iff, Option.eq_none_iff_forall_ne_some]
  intro found hfound
  exact h _ (report?_eq_some.1 hfound).1

end Flags

end Audit

open Audit Manifest

section Audit

variable {decode : String → Except Failure Value} (hdecode : Uninterrupted decode) {w : World}
  {a : Auditor} {path : String} {seconds : Value} {records : List DependencyEntry}
  (hread : Manifest.read w ((Route.ofText path).child fileName) decode = .ok records)
  (hclient : a.outdated = some (.packageManager seconds))
  (hanswer : w.answerTo ⟨Question.outdated.words, (Route.ofText path).text, seconds⟩ ≠ .interrupted)

include hdecode hread hclient hanswer

/-- The dependencies of an audit are those of the manifest, with the flags of the answer of the
package manager, or with none where there is no answer. -/
theorem flags_of_audit (hne : records ≠ []) {part : DependencyPart}
    (haudit : (a.audit w path decode).outcome = .ok part) :
    part.dependencies.map (fun d => (d.name, d.version, d.scope)) =
        records.map (fun d => (d.name, d.version, d.scope)) ∧
      ∀ answer,
      answer? decode .outdated (w.answerTo ⟨Question.outdated.words,
        (Route.ofText path).text, seconds⟩)
          (records.map (·.name.text)) = answer →
        (answer = none → ∀ d ∈ part.dependencies, d.outdated = .null) ∧
        ∀ fields : List (String × Value), answer = some (.ofTexts (fields.map (·.1))) →
          ∀ d ∈ part.dependencies, Flagged fields d := by
  obtain ⟨locked, hlocked⟩ := Auditor.locked_of_ok haudit
  rw [Auditor.audit_eq hlocked (Auditor.listed_of_read (reaches_of_read hread) hread),
    map_eq_ok] at haudit
  obtain ⟨annotated, hannotated, rfl⟩ := haudit
  obtain ⟨counted, hfixed, rfl⟩ := enrich_flags hdecode hclient hanswer hne hannotated
  refine ⟨?_, ?_⟩
  · have hnames :=
      congrArg (List.map fun row : Value × Value × Value × Value =>
        (row.1, row.2.1, row.2.2.1)) hfixed
    rw [List.map_map, List.map_map] at hnames
    rw [List.map_map]
    exact hnames
  · rintro answer rfl
    refine ⟨fun hnone => ?_, fun fields hsome => ?_⟩
    · rw [hnone]
      refine List.forall_mem_map.2 fun d hd => ?_
      obtain ⟨record, hrecord, heq⟩ := List.mem_map.1 (hfixed ▸ List.mem_map_of_mem hd)
      obtain ⟨-, -, -, houtdated⟩ : d.name = record.name ∧ d.version = record.version ∧
          d.scope = record.scope ∧
          d.outdated = record.outdated := by simpa [fixed, eq_comm] using heq
      exact houtdated.trans (unnoted_of_read hread record hrecord).2
    · rw [hsome]
      exact List.forall_mem_map.2 fun d _ => flagged_notedFlag fields d

/-- Where the package manager answers about vulnerabilities too, or nobody does, an audit that can
look for lock files comes to its end. -/
theorem audit_returns {locked : Bool} (hcounts : AsksTool a.vulnerabilities)
    (hheard : Heard w .vulnerabilities a.vulnerabilities (Route.ofText path))
    (hlocked : hasLockFile w (Route.ofText path) a.lockFiles = .ok locked) :
    ∃ part, (a.audit w path decode).outcome = .ok part := by
  rw [Auditor.audit_eq hlocked (Auditor.listed_of_read (reaches_of_read hread) hread),
    Auditor.enrich_outcome hdecode hcounts (asksTool_of_eq hclient)
    hheard (heard_of_eq hclient hanswer)]
  exact ⟨_, rfl⟩

end Audit

/-- **When an audit flags the outdated dependencies.**  With a report that maps names to objects,
the dependencies of an audit have the flags of the report just when no package in the report has the
name of an error, and nothing is noted about any of them otherwise, nor where the decoder makes
nothing of the report; all this whoever answers about vulnerabilities. -/
theorem audit_flags_iff {decode : String → Except Failure Value}
    (hdecode : Uninterrupted decode) {w : World} {a : Auditor} {path : String} {seconds : Value}
    {records : List DependencyEntry}
    (hread : Manifest.read w ((Route.ofText path).child fileName) decode = .ok records)
    (hne : records ≠ []) (hclient : a.outdated = some (.packageManager seconds))
    {answer : ToolAnswer}
    (hanswer : w.answerTo ⟨Question.outdated.words, (Route.ofText path).text, seconds⟩ = answer)
    (huninterrupted : answer ≠ .interrupted) :
    (∀ part, (a.audit w path decode).outcome = .ok part →
      part.dependencies.map (fun d => (d.name, d.version, d.scope)) =
          records.map (fun d => (d.name, d.version, d.scope)) ∧
        (∀ fields, Decodes decode answer (.obj fields) → MapsNames fields →
          ((∀ d ∈ part.dependencies, Flagged fields d) ↔ "error" ∉ fields.map Prod.fst) ∧
          ((∀ d ∈ part.dependencies, d.outdated = .null) ↔ "error" ∈ fields.map Prod.fst)) ∧
        ((∀ v, ¬ Decodes decode answer v) → ∀ d ∈ part.dependencies, d.outdated = .null)) ∧
    (AsksTool a.vulnerabilities → Heard w .vulnerabilities a.vulnerabilities (Route.ofText path) →
      ∀ locked, hasLockFile w (Route.ofText path) a.lockFiles = .ok locked →
        ∃ part, (a.audit w path decode).outcome = .ok part) := by
  subst hanswer
  refine ⟨fun part haudit => ?_, fun hcounts hheard _ =>
    audit_returns hdecode hread hclient huninterrupted hcounts hheard⟩
  obtain ⟨hsame, hflags⟩ := flags_of_audit hdecode hread hclient huninterrupted hne haudit
  refine ⟨hsame, fun fields hreport hnames => ?_, fun hnothing => ?_⟩
  · obtain ⟨d, hd⟩ : ∃ d, d ∈ part.dependencies := by
      refine List.exists_mem_of_ne_nil _ fun hnil => hne ?_
      rw [hnil] at hsame
      exact List.map_eq_nil_iff.1 hsame.symm
    -- one dependency is enough to tell flags from their absence
    have hexclusive : Flagged fields d → d.outdated ≠ .null := by
      rintro ⟨flag, hflag, -⟩ hd
      cases hflag.symm.trans hd
    have hnull (herror : "error" ∈ fields.map Prod.fst) : ∀ d ∈ part.dependencies,
        d.outdated = .null :=
      (hflags none (answer?_of_error hreport hnames herror _)).1 rfl
    have hflagged (herror : "error" ∉ fields.map Prod.fst) : ∀ d ∈ part.dependencies,
        Flagged fields d :=
      (hflags _ (answer?_of_no_error hreport hnames herror _)).2 fields rfl
    refine ⟨⟨fun hall herror => ?_, hflagged⟩, ⟨fun hall => ?_, hnull⟩⟩
    · exact hexclusive (hall d hd) (hnull herror d hd)
    · by_contra herror
      exact hexclusive (hflagged herror d hd) (hall d hd)
  · exact (hflags none (answer?_of_nothing_decoded hnothing _)).1 rfl

/-- A project with two dependencies, one of which has the name of an error. -/
def twoDependencies : World :=
  Auditor.withManifest
    "\x7b\"dependencies\": \x7b\"error\": \"7.0.0\", \"a\": \"1.0.0\"\x7d\x7d".toUTF8

/-- The same project with a package manager that prints a report about outdated dependencies. -/
def reporting (report : String) : World :=
  { twoDependencies with
    tool :=
      fun words => if words = Question.outdated.words then .done (some report) none 1
      else .missing }

theorem reporting_answerTo (report directory : String) (seconds : Value) :
    (reporting report).answerTo ⟨Question.outdated.words, directory, seconds⟩ ≠ .interrupted :=
  answerTo_ne_interrupted (by simp [reporting])

theorem read_reporting (report : String) :
    Manifest.read (reporting report) ((Route.ofText ".").child fileName) =
      .ok [⟨.str "error", .str "7.0.0", .str "prod", .null, .null⟩,
        ⟨.str "a", .str "1.0.0", .str "prod", .null, .null⟩] := by
  have hread : Manifest.read twoDependencies ((Route.ofText ".").child fileName) =
      .ok [⟨.str "error", .str "7.0.0", .str "prod", .null, .null⟩,
        ⟨.str "a", .str "1.0.0", .str "prod", .null, .null⟩] :=
    toOption_eq_some.1 (by decide +kernel)
  exact hread

/-- An auditor that asks the package manager about outdated dependencies alone. -/
def Auditor.outdatedOnly : Auditor := { silent with outdated := some (.packageManager (.int 60)) }

theorem hasLockFile_reporting (report : String) :
    hasLockFile (reporting report) (Route.ofText ".") Auditor.outdatedOnly.lockFiles =
      .ok true := by
  have hlocked : hasLockFile twoDependencies (Route.ofText ".") lockFiles = .ok true := by
    unfold twoDependencies
    generalize String.toUTF8 _ = data
    rfl
  exact hlocked

theorem decodes_reporting (report : String) {v : Value} (hblank : Text.trimmed report ≠ "")
    (h : (readJson (Text.trimmed report)).toOption = some v) (directory : String)
    (seconds : Value) :
    Decodes readJson ((reporting report).answerTo ⟨Question.outdated.words, directory,
      seconds⟩) v :=
  ⟨Text.trimmed report, rfl, hblank, toOption_eq_some.1 h⟩

theorem audit_flags_one :
    ∃ part, (Auditor.outdatedOnly.audit (reporting "\n\x7b\"a\": \x7b\x7d\x7d\n") ".").outcome =
      .ok part ∧
      part.dependencies.map (fun d => (d.name, d.version, d.scope)) =
        [(.str "error", .str "7.0.0", .str "prod"), (.str "a", .str "1.0.0", .str "prod")] ∧
      ∀ d ∈ part.dependencies, Flagged [("a", .obj [])] d := by
  have hnames : MapsNames [("a", .obj [])] := by simp [MapsNames]
  obtain ⟨hflags, hreturns⟩ := audit_flags_iff (a := Auditor.outdatedOnly) uninterrupted_readJson
    (read_reporting "\n\x7b\"a\": \x7b\x7d\x7d\n") (List.cons_ne_nil _ _) rfl
    rfl (by simp [reporting_answerTo])
  obtain ⟨part, hpart⟩ := hreturns (by simp [AsksTool, Auditor.outdatedOnly, Auditor.silent])
    (by simp [Heard, Auditor.outdatedOnly, Auditor.silent]) true (hasLockFile_reporting _)
  obtain ⟨hsame, hflagged, -⟩ := hflags part hpart
  have hreport :=
    decodes_reporting "\n\x7b\"a\": \x7b\x7d\x7d\n" (v := .obj [("a", .obj [])]) (by decide)
    (by decide +kernel)
  exact ⟨part, hpart, hsame, (hflagged _ (hreport _ _) hnames).1.2 (by decide)⟩

/-- A report in which a package has the name of an error leaves no flag at any dependency, though it
maps names to objects and has the name of a dependency. -/
theorem audit_flags_none :
    MapsNames [("error", .obj [])] ∧
      Decodes readJson ((reporting "\x7b\"error\": \x7b\x7d\x7d").tool Question.outdated.words)
        (.obj [("error", .obj [])]) ∧
      ∃ part, (Auditor.outdatedOnly.audit (reporting "\x7b\"error\": \x7b\x7d\x7d") ".").outcome =
        .ok part ∧
        part.dependencies.map (·.name) = [.str "error", .str "a"] ∧
        ∀ d ∈ part.dependencies, d.outdated = .null ∧ ¬ Flagged [("error", .obj [])] d := by
  have hnames : MapsNames [("error", .obj [])] := by simp [MapsNames]
  have hreport := decodes_reporting "\x7b\"error\": \x7b\x7d\x7d" (v := .obj [("error", .obj [])])
    (by decide) (by decide +kernel)
  have hread := read_reporting "\x7b\"error\": \x7b\x7d\x7d"
  have hheard := reporting_answerTo "\x7b\"error\": \x7b\x7d\x7d"
  obtain ⟨part, hpart⟩ :=
    audit_returns (a := Auditor.outdatedOnly) uninterrupted_readJson hread rfl (hheard _ _)
    (by simp [AsksTool, Auditor.outdatedOnly, Auditor.silent])
    (by simp [Heard, Auditor.outdatedOnly, Auditor.silent]) (hasLockFile_reporting _)
  obtain ⟨hsame, hflags⟩ :=
    flags_of_audit uninterrupted_readJson hread rfl (hheard _ _) (List.cons_ne_nil _ _) hpart
  have hnull := (hflags none (answer?_of_error (hreport _ _) hnames (by decide) _)).1 rfl
  refine ⟨hnames, hreport "" .null, part, hpart, ?_, fun d hd => ?_⟩
  · have hfirst := congrArg (List.map Prod.fst) hsame
    rwa [List.map_map] at hfirst
  · refine ⟨hnull d hd, ?_⟩
    rintro ⟨flag, hflag, -⟩
    cases hflag.symm.trans (hnull d hd)

end SourceSurvey
