import SourceSurvey.Proofs.Audit.Outcome
import SourceSurvey.Proofs.Tree.Place

/-!
# Annotated dependencies

An audit reports the dependencies of the manifest in order, each with the number of its
vulnerabilities and with whether it is outdated, or with nothing at all about one of the two
(`audit_annotates`).

* `Unaudited`: the reasons for which nothing is known about vulnerabilities, and `unaudited_iff`,
  that there are no others;
* `Listed`: the dependencies with a vulnerability, and `listed_iff`;
* `Annotated`: the reported dependencies.
-/

namespace SourceSurvey

namespace Audit

section Decode

variable (decode : String → Except Failure Value)

/-- The output of a run is not blank, and the decoder makes a value of it. -/
def Decodes (answer : ToolAnswer) (v : Value) : Prop :=
  ∃ text, printed answer = some text ∧ text ≠ "" ∧ decode text = .ok v

/-- The report in an answer has something about a dependency in its table of vulnerabilities. -/
def Listed (answer : ToolAnswer) (name : String) : Prop :=
  ∃ fields table entry, Decodes decode answer (.obj fields) ∧
    fields.lookup "vulnerabilities" = some (.obj table) ∧ table.lookup name = some entry ∧
    entry.truthy = true

/-- Why nothing is known about the vulnerabilities of dependencies. -/
inductive Unaudited (enabled : Bool) (answer : ToolAnswer) (names : List String) : Prop where
  | disabled (h : enabled = false)
  | failed (h : printed answer = none)
  | blank (h : printed answer = some "")
  | rejected {text : String} {f : Failure} (htext : printed answer = some text)
    (h : decode text = .error f)
  | notObject {v : Value} (hv : Decodes decode answer v) (h : v.kind ≠ .obj)
  | errorReport {fields error : List (String × Value)} (hv : Decodes decode answer (.obj fields))
      (h : fields.lookup "error" = some (.obj error))
  | badTable {fields : List (String × Value)} {table : Value}
    (hv : Decodes decode answer (.obj fields))
      (htable : fields.lookup "vulnerabilities" = some table) (htruthy : table.truthy = true)
      (h : table.kind ≠ .obj)
  | uncountable {fields table entry : List (String × Value)} {name : String} {via : Value}
      (hv : Decodes decode answer (.obj fields))
      (htable : fields.lookup "vulnerabilities" = some (.obj table))
      (hname : name ∈ names) (hentry : table.lookup name = some (.obj entry))
      (hvia : entry.lookup "via" = some via) (htruthy : via.truthy = true)
      (h : ∀ n, via.size ≠ .ok n)

end Decode

variable {decode : String → Except Failure Value}

section Reports

variable {answer : ToolAnswer} {fields : List (String × Value)}

@[simp] theorem decoded?_eq_some {v : Value} :
    decoded? decode answer = some v ↔ Decodes decode answer v := by
  simp only [decoded?, Option.bind_eq_some_iff, Decodes]
  refine exists_congr fun text => and_congr_right fun _ => ?_
  by_cases hempty : text = ""
  · simp [hempty]
  · rw [if_neg (by simpa using hempty), toOption_eq_some]
    exact (and_iff_right hempty).symm

theorem Decodes.unique {v v' : Value} (h : Decodes decode answer v)
    (h' : Decodes decode answer v') : v = v' := by
  obtain ⟨text, htext, -, hv⟩ := h
  obtain ⟨text', htext', -, hv'⟩ := h'
  obtain rfl := Option.some.inj (htext.symm.trans htext')
  exact Except.ok.inj (hv.symm.trans hv')

theorem reportedError?_obj :
    reportedError? (.obj fields) = none ↔ ∀ error, fields.lookup "error" ≠ some (.obj error) := by
  simp only [reportedError?]
  cases fields.lookup "error" with
  | none => simp
  | some v => cases v <;> simp

/-- A report is a decoded object without an error of its own. -/
theorem report?_eq_some :
    report? decode answer = some fields ↔
      Decodes decode answer (.obj fields) ∧ ∀ error, fields.lookup "error" ≠ some (.obj error) := by
  rw [← reportedError?_obj]
  simp only [report?, document?, Option.bind_eq_some_iff, Option.filter_eq_some_iff,
    decoded?_eq_some, Value.fields?_eq_some, Option.isNone_iff_eq_none]
  constructor
  · rintro ⟨v, hv, rfl⟩
    exact hv
  · exact fun hv => ⟨_, hv, rfl⟩

/-! ### The table of a report -/

theorem table?_of_obj {table : List (String × Value)}
    (h : fields.lookup "vulnerabilities" = some (.obj table)) : table? fields = some table := by
  rw [table?, h]
  cases table <;> rfl

theorem table?_eq_none :
    table? fields = none ↔
      ∃ v, fields.lookup "vulnerabilities" = some v ∧ v.truthy = true ∧ v.kind ≠ .obj := by
  simp only [table?, ← Value.fields?_eq_none]
  cases fields.lookup "vulnerabilities" with
  | none => simp [Value.truthy]
  | some v =>
    by_cases htruthy : v.truthy = true
    · simp [htruthy]
    · simp [htruthy]

/-- A table with an entry is the object in the report. -/
theorem lookup_of_table? {table : List (String × Value)} (h : table? fields = some table)
    (hne : table ≠ []) :
    fields.lookup "vulnerabilities" = some (.obj table) := by
  simp only [table?] at h
  cases hlookup : fields.lookup "vulnerabilities" with
  | none =>
    rw [hlookup] at h
    exact absurd (Option.some.inj h).symm hne
  | some v =>
    rw [hlookup, Option.getD_some] at h
    by_cases htruthy : v.truthy = true
    · rw [if_pos htruthy] at h
      rw [Value.fields?_eq_some.1 h]
    · rw [if_neg htruthy] at h
      exact absurd (Option.some.inj h).symm hne

theorem ne_nil_of_lookup {table : List (String × Value)} {name : String} {entry : Value}
    (h : table.lookup name = some entry) : table ≠ [] := by
  rintro rfl
  cases h

theorem lookup_of_entryIn {table entry : List (String × Value)} {name : String}
    (h : entryIn table name = .obj entry) : table.lookup name = some (.obj entry) := by
  rw [entryIn] at h
  cases hlookup : table.lookup name with
  | none =>
    rw [hlookup] at h
    cases h
  | some v =>
    rw [hlookup] at h
    exact congrArg some h

/-- The dependencies with a vulnerability are those with an entry in the table. -/
theorem listed_iff {table : List (String × Value)} (hfields : Decodes decode answer (.obj fields))
    (htable : table? fields = some table) (name : String) :
    Listed decode answer name ↔ (entryIn table name).truthy = true := by
  constructor
  · rintro ⟨fields', table', entry, hfields', htable', hentry, htruthy⟩
    obtain rfl : fields' = fields := Value.obj.inj (hfields'.unique hfields)
    obtain rfl := Option.some.inj ((table?_of_obj htable').symm.trans htable)
    rwa [entryIn, hentry]
  · intro htruthy
    rw [entryIn] at htruthy
    cases hentry : table.lookup name with
    | none =>
      rw [hentry] at htruthy
      cases htruthy
    | some entry =>
      rw [hentry] at htruthy
      exact ⟨fields, table, entry, hfields, lookup_of_table? htable (ne_nil_of_lookup hentry),
        hentry, htruthy⟩

end Reports

/-! ### Known and unknown vulnerabilities -/

/-- What an answer about vulnerabilities is made of. -/
structure Counted (decode : String → Except Failure Value) (answer : ToolAnswer)
    (names : List String) (fields table counts : List (String × Value)) : Prop where
  decodes : Decodes decode answer (.obj fields)
  noError : ∀ error, fields.lookup "error" ≠ some (.obj error)
  hasTable : table? fields = some table
  countable : ∀ name ∈ names, ¬ Uncountable (entryIn table name)
  counts : ∀ name ∈ names, ∃ n : ℕ, counts.lookup name = some (.ofNat n) ∧
    (0 < n ↔ Listed decode answer name)

section Unaudited

variable {answer : ToolAnswer} {names : List String}

theorem answer?_eq_some (hnames : names ≠ []) {v : Value}
    (h : answer? decode .vulnerabilities answer names = some v) :
    ∃ fields table counts, v = .obj counts ∧ Counted decode answer names fields table counts := by
  rw [answer?_vulnerabilities decode answer hnames] at h
  obtain ⟨table, htable, h⟩ := Option.bind_eq_some_iff.1 h
  obtain ⟨fields, hfields, htable⟩ := Option.bind_eq_some_iff.1 htable
  obtain ⟨counts, hcounts, rfl⟩ := Option.map_eq_some_iff.1 h
  obtain ⟨hdecodes, herror⟩ := report?_eq_some.1 hfields
  rw [toOption_eq_some] at hcounts
  rcases countsOf_spec table names [] with ⟨-, m, hm⟩ | ⟨hcountable, counts', hm, hin, -⟩
  · rw [hcounts] at hm
    cases hm
  · obtain rfl := Except.ok.inj (hcounts.symm.trans hm)
    refine ⟨fields, table, counts, rfl, hdecodes, herror, htable, hcountable, ?_⟩
    intro name hname
    obtain ⟨n, hn, hpos⟩ := hin name hname
    exact ⟨n, hn, hpos.trans (listed_iff hdecodes htable name).symm⟩

theorem Counted.not_unaudited {fields table counts : List (String × Value)}
    (h : Counted decode answer names fields table counts) :
    ¬ Unaudited decode true answer names := by
  obtain ⟨text, htext, hblank, hjson⟩ := h.decodes
  have huniq : ∀ {v}, Decodes decode answer v → v = .obj fields := fun hv => hv.unique h.decodes
  intro hunaudited
  cases hunaudited with
  | disabled h' => cases h'
  | failed h' => cases htext.symm.trans h'
  | blank h' =>
    exact hblank (Option.some.inj (htext.symm.trans h'))
  | rejected htext' h' =>
    obtain rfl := Option.some.inj (htext.symm.trans htext')
    cases hjson.symm.trans h'
  | notObject hv h' =>
    rw [huniq hv] at h'
    exact h' rfl
  | errorReport hv h' =>
    obtain rfl := Value.obj.inj (huniq hv)
    exact h.noError _ h'
  | badTable hv htable htruthy h' =>
    obtain rfl := Value.obj.inj (huniq hv)
    cases h.hasTable.symm.trans (table?_eq_none.2 ⟨_, htable, htruthy, h'⟩)
  | uncountable hv htable hname hentry hvia htruthy h' =>
    obtain rfl := Value.obj.inj (huniq hv)
    obtain rfl := Option.some.inj (h.hasTable.symm.trans (table?_of_obj htable))
    exact h.countable _ hname ⟨_, _, by rw [entryIn, hentry, Option.getD_some], hvia, htruthy, h'⟩

theorem unaudited_of_report {fields : List (String × Value)} (hnames : names ≠ [])
    (hv : Decodes decode answer (.obj fields))
    (h : answer? decode .vulnerabilities answer names = none) (enabled : Bool) :
    Unaudited decode enabled answer names := by
  by_cases herror : ∃ error, fields.lookup "error" = some (.obj error)
  · obtain ⟨error, herror⟩ := herror
    exact .errorReport hv herror
  · rw [answer?_vulnerabilities decode answer hnames, report?_eq_some.2 ⟨hv, not_exists.1 herror⟩,
      Option.bind_some] at h
    cases htable : table? fields with
    | none =>
      obtain ⟨table, hlookup, htruthy, hkind⟩ := table?_eq_none.1 htable
      exact .badTable hv hlookup htruthy hkind
    | some table =>
      rw [htable, Option.bind_some] at h
      rcases countsOf_spec table names [] with ⟨⟨name, hname, hbad⟩, -⟩ | ⟨-, counts, hm, -⟩
      · obtain ⟨entry, via, hentry, hvia, htruthy, hsize⟩ := hbad
        have hlookup := lookup_of_entryIn hentry
        exact .uncountable hv (lookup_of_table? htable (ne_nil_of_lookup hlookup)) hname hlookup
          hvia htruthy hsize
      · rw [hm] at h
        cases h

theorem unaudited_of_no_answer (hnames : names ≠ [])
    (h : answer? decode .vulnerabilities answer names = none)
    (enabled : Bool) : Unaudited decode enabled answer names := by
  cases hprinted : printed answer with
  | none => exact .failed hprinted
  | some text =>
    by_cases hblank : text = ""
    · exact .blank (hblank ▸ hprinted)
    cases hjson : decode text with
    | error f => exact .rejected hprinted hjson
    | ok v =>
      have hv : Decodes decode answer v := ⟨text, hprinted, hblank, hjson⟩
      cases hfields : v.fields? with
      | none => exact .notObject hv (Value.fields?_eq_none.1 hfields)
      | some fields =>
        obtain rfl := Value.fields?_eq_some.1 hfields
        exact unaudited_of_report hnames hv h enabled

/-- **There are no other reasons**: nothing is known just when the audit is not wanted or has no
answer. -/
theorem unaudited_iff (hnames : names ≠ []) (enabled : Bool) :
    Unaudited decode enabled answer names ↔ enabled = false ∨
    answer? decode .vulnerabilities answer names = none := by
  constructor
  · intro h
    cases enabled with
    | false => exact .inl rfl
    | true =>
      refine .inr (Option.eq_none_iff_forall_ne_some.2 fun v hv => ?_)
      obtain ⟨fields, table, counts, -, hcounted⟩ := answer?_eq_some hnames hv
      exact hcounted.not_unaudited h
  · rintro (h | h)
    · exact .disabled h
    · exact unaudited_of_no_answer hnames h enabled

end Unaudited

/-- The dependencies that an audit reports for the dependencies of a manifest. -/
structure Annotated (decode : String → Except Failure Value) (enabled : Bool) (answer : ToolAnswer)
    (records annotated : List DependencyEntry) : Prop where
  same : annotated.map (fun d => (d.name, d.version, d.scope)) =
    records.map fun d => (d.name, d.version, d.scope)
  unknown : (∀ d ∈ annotated, d.vulnerabilities = .null) ↔
    Unaudited decode enabled answer (records.map (·.name.text))
  known : ¬ Unaudited decode enabled answer (records.map (·.name.text)) →
    ∀ d ∈ annotated, ∃ n : ℕ, d.vulnerabilities = .ofNat n ∧
    (0 < n ↔ Listed decode answer d.name.text)
  flagged : (∀ d ∈ annotated, d.outdated = .null) ∨ ∀ d ∈ annotated, ∃ flag, d.outdated = .bool flag

/-- The answer of a client, if there is one. -/
def wanted (enabled : Bool) (answer : Option Value) : Option Value :=
  if enabled then answer else none

section Annotated

variable {enabled : Bool} {answer : ToolAnswer} {records : List DependencyEntry}

theorem unaudited_iff_wanted {names : List String} (hnames : names ≠ []) :
    Unaudited decode enabled answer names ↔
    wanted enabled (answer? decode .vulnerabilities answer names) = none := by
  rw [unaudited_iff hnames, wanted]
  cases enabled <;> simp

/-- Each dependency has its number of vulnerabilities where the numbers are known. -/
theorem notedCount_of_audited (hne : records ≠ [])
    (h : ¬ Unaudited decode enabled answer (records.map (·.name.text))) {d : DependencyEntry}
    (hd : d ∈ records) :
    ∃ n : ℕ,
      notedCount
        (wanted enabled (answer? decode .vulnerabilities answer (records.map (·.name.text)))) d =
          .ofNat n ∧
      (0 < n ↔ Listed decode answer d.name.text) := by
  have hnames : records.map (·.name.text) ≠ [] := by simpa using hne
  rw [unaudited_iff hnames, not_or, Bool.not_eq_false] at h
  obtain ⟨henabled, hanswer⟩ := h
  obtain ⟨v, hv⟩ := Option.ne_none_iff_exists'.1 hanswer
  obtain ⟨fields, table, counts, rfl, hcounted⟩ := answer?_eq_some hnames hv
  obtain ⟨n, hn, hlisted⟩ := hcounted.counts _ (List.mem_map_of_mem hd)
  refine ⟨n, ?_, hlisted⟩
  rw [wanted, if_pos henabled, hv, notedCount, hn]
  rfl

theorem notedFlag_all_or_none (enabled : Bool) (answer : ToolAnswer) (names : List String)
    (h : ∀ d ∈ records, Manifest.Unnoted d) :
    (∀ d ∈ records, notedFlag (wanted enabled (answer? decode .outdated answer names)) d = .null) ∨
      ∀ d ∈ records, ∃ flag, notedFlag (wanted enabled (answer? decode .outdated answer names)) d =
        .bool flag := by
  rw [wanted, answer?_outdated]
  cases enabled with
  | false => exact .inl fun d hd => (h d hd).2
  | true =>
    cases report? decode answer with
    | none => exact .inl fun d hd => (h d hd).2
    | some fields => exact .inr fun d _ => ⟨_, rfl⟩

theorem annotated_annotate (hne : records ≠ []) (h : ∀ d ∈ records, Manifest.Unnoted d)
    (enabled enabled' : Bool) (answer answer' : ToolAnswer) :
    Annotated decode enabled answer records (annotate
      (wanted enabled (answer? decode .vulnerabilities answer (records.map (·.name.text))))
      (wanted enabled' (answer? decode .outdated answer' (records.map (·.name.text))))
      records) := by
  have hnames : records.map (·.name.text) ≠ [] := by simpa using hne
  constructor
  · simp [annotate]
  · constructor
    · intro hnull
      by_contra haudited
      obtain ⟨d, hd⟩ := List.exists_mem_of_ne_nil _ hne
      obtain ⟨n, hn, -⟩ := notedCount_of_audited hne haudited hd
      have hvalue := hnull _ (List.mem_map_of_mem hd)
      cases hn.symm.trans hvalue
    · intro hunaudited
      rw [(unaudited_iff_wanted hnames).1 hunaudited]
      exact List.forall_mem_map.2 fun d hd => (h d hd).1
  · intro haudited
    exact List.forall_mem_map.2 fun d hd => notedCount_of_audited hne haudited hd
  · exact (notedFlag_all_or_none enabled' answer' _ h).imp
      (fun hall => List.forall_mem_map.2 hall) (fun hall => List.forall_mem_map.2 hall)

end Annotated

end Audit

open Audit Manifest

theorem asksTool_client (enabled timeout : Value) :
    AsksTool (if enabled.truthy then some (.packageManager timeout) else none) := by
  intro c hc
  split_ifs at hc
  · cases hc
    exact ⟨timeout, rfl⟩
  · cases hc

/-- Whether the settings want a question to be put. -/
def Settings.wants (s : Settings) : Question → Bool
  | .vulnerabilities => s.auditEnabled.truthy
  | .outdated => s.outdatedEnabled.truthy

/-- The call by which the settings put a question about a project. -/
def Settings.callFor (s : Settings) (project : Route) (q : Question) : ToolCall :=
  ⟨q.words, project.text, match q with
    | .vulnerabilities => s.auditTimeout
    | .outdated => s.outdatedTimeout⟩

theorem answerOf_client (decode : String → Except Failure Value) (w : World) (q : Question)
    (enabled : Bool) (seconds : Value) (project : Route) (names : List String) :
    answerOf decode w q (if enabled then some (.packageManager seconds) else none) project names =
      wanted enabled (answer? decode q (w.answerTo ⟨q.words, project.text, seconds⟩) names) := by
  cases enabled <;> rfl

/-- The audit that the settings ask for, where the manifest lists dependencies and lock files can be
looked for. -/
theorem audit_ofSettings {decode : String → Except Failure Value}
    (hdecode : Uninterrupted decode) {w : World} {path : String} {records : List DependencyEntry}
    {locked : Bool} (s : Settings)
    (hread : Manifest.read w ((Route.ofText path).child fileName) decode = .ok records)
    (hlocked : hasLockFile w (Route.ofText path) lockFiles = .ok locked)
    (htool : ∀ q : Question, w.tool q.words ≠ .interrupted) :
    let answer (q : Question) : Option Value := wanted (s.wants q)
      (answer? decode q (w.answerTo (s.callFor (Route.ofText path) q)) (records.map (·.name.text)))
    ((Auditor.ofSettings s).audit w path decode).outcome =
      .ok ⟨annotate (answer .vulnerabilities) (answer .outdated) records, .bool locked⟩ := by
  intro answer
  have hlisted := Auditor.listed_of_read (reaches_of_read hread) hread
  have hheard : ∀ q client, Heard w q client (Route.ofText path) :=
    fun q client => heard_of_tool (htool q) client _
  have henrich :=
    Auditor.enrich_outcome hdecode (a := .ofSettings s) (asksTool_client _ _) (asksTool_client _ _)
    (hheard _ _) (hheard _ _) records
  rw [Auditor.audit_eq hlocked hlisted, henrich]
  simp only [Auditor.ofSettings, answerOf_client]
  rfl

/-- **Annotations come for all dependencies or for none.**  Where lock files can be looked for, an
audit reports the dependencies of the manifest in order, with their vulnerabilities or without any,
and with both kinds of notes independent of each other, whatever the package manager answers,
whatever breaks its calls and however its outputs are decoded.  Where they cannot, the audit fails
as the search for them does. -/
theorem audit_annotates {decode : String → Except Failure Value}
    (hdecode : Uninterrupted decode) {w : World} {path : String} {records : List DependencyEntry}
    (hread : Manifest.read w ((Route.ofText path).child fileName) decode = .ok records)
    (hne : records ≠ []) (s : Settings) :
    ∃ counts flags : ToolAnswer → List Value,
      ∀ (tool : List String → ToolAnswer) (mishap : ToolCall → Option (String × String)),
        (∀ q : Question, tool q.words ≠ .interrupted) →
        let world : World := { w with tool := tool, mishap := mishap }
        let answer (q : Question) : ToolAnswer := world.answerTo (s.callFor (Route.ofText path) q)
        let outcome := ((Auditor.ofSettings s).audit world path decode).outcome
        (∀ f, hasLockFile w (Route.ofText path) lockFiles = .error f → outcome = .error f) ∧
        ∀ locked, hasLockFile w (Route.ofText path) lockFiles = .ok locked →
          ∃ annotated, outcome = .ok ⟨annotated, .bool locked⟩ ∧
            Annotated decode s.auditEnabled.truthy (answer .vulnerabilities) records annotated ∧
            annotated.map (·.vulnerabilities) = counts (answer .vulnerabilities) ∧
            annotated.map (·.outdated) = flags (answer .outdated) := by
  refine ⟨fun answer => records.map (notedCount (wanted s.auditEnabled.truthy
      (answer? decode .vulnerabilities answer (records.map (·.name.text))))),
    fun answer => records.map (notedFlag (wanted s.outdatedEnabled.truthy
      (answer? decode .outdated answer (records.map (·.name.text))))), ?_⟩
  intro tool mishap htool world answer outcome
  -- the manifest and the lock files do not depend on the package manager
  refine ⟨fun f hf => Auditor.audit_of_unlocked (w := world) hf, fun locked hlocked => ?_⟩
  refine ⟨_, audit_ofSettings (w := world) hdecode s hread hlocked htool,
    annotated_annotate hne (unnoted_of_read hread) _ _ _ _, ?_, ?_⟩
  · rw [annotate, List.map_map]
    rfl
  · rw [annotate, List.map_map]
    rfl

/-- A project with one dependency. -/
def oneDependency : World :=
  Auditor.withManifest "\x7b\"dependencies\": \x7b\"a\": \"1.0\"\x7d\x7d".toUTF8

theorem read_oneDependency :
    Manifest.read oneDependency ((Route.ofText ".").child fileName) =
      .ok [⟨.str "a", .str "1.0", .str "prod", .null, .null⟩] :=
  toOption_eq_some.1 (by decide +kernel)

theorem audit_annotates_oneDependency :
    ∃ d, Manifest.read oneDependency ((Route.ofText ".").child fileName) = .ok [d] ∧
    d.name = .str "a" ∧
      ∀ (tool : List String → ToolAnswer) (mishap : ToolCall → Option (String × String)),
        (∀ q : Question, tool q.words ≠ .interrupted) → ∃ annotated,
          let world : World := { oneDependency with tool := tool, mishap := mishap }
          ((Auditor.ofSettings .default).audit world ".").outcome = .ok ⟨annotated, .bool true⟩ ∧
          Annotated readJson true (world.answerTo
            (Settings.default.callFor (Route.ofText ".") .vulnerabilities))
            [d] annotated := by
  obtain ⟨counts, flags, h⟩ :=
    audit_annotates uninterrupted_readJson read_oneDependency (List.cons_ne_nil _ _) .default
  refine ⟨_, read_oneDependency, rfl, fun tool mishap htool => ?_⟩
  obtain ⟨annotated, houtcome, hannotated, -, -⟩ := (h tool mishap htool).2 true rfl
  exact ⟨annotated, houtcome, hannotated⟩

/-- The same project, where the first lock file that is looked for is a link to too long a name. -/
def strayLink : World :=
  { oneDependency with
    top := .directory [("p", .directory [
      (fileName, .file "\x7b\"dependencies\": \x7b\"a\": \"1.0\"\x7d\x7d".toUTF8),
      ("package-lock.json", .link (String.ofList (List.replicate 300 'n')))])] }

/-- A link to too long a name among the lock files stops an audit, where its report should have been
the dependency of the manifest. -/
theorem audit_fails_strayLink :
    Manifest.read strayLink ((Route.ofText ".").child fileName) =
        .ok [⟨.str "a", .str "1.0", .str "prod", .null, .null⟩] ∧
      ((Auditor.ofSettings .default).audit strayLink ".").outcome =
        .error (.unreachable .nameTooLong "package-lock.json") := by
  have hlong : strayLink.reaches ⟨"", ["package-lock.json"]⟩ =
      .error (.unreachable .nameTooLong "package-lock.json") := by
    refine World.reaches_of_long_target rfl (by decide) rfl ?_ ?_
    · rw [String.toList_ofList, List.mem_replicate]
      decide
    · rw [String.utf8ByteSize_ofList]
      decide +kernel
  refine ⟨read_oneDependency, Auditor.audit_of_unlocked ?_⟩
  exact bind_eq_error.2 (.inl hlong)

end SourceSurvey
