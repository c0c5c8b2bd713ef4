import SourceSurvey.Audit.Basic
import SourceSurvey.Proofs.Trace
import SourceSurvey.Proofs.Value.Fields

/-!
# Answers of the package manager

What an audit makes of the answers of the package manager.  An answer holds a document
(`document?`), which may be a report (`report?`), which may settle a question about some
dependencies (`answer?`).  Whatever goes wrong on the way, but for an interrupt, leaves the question
open and nothing else (`lookUp_outcome`), so that `Auditor.enrich` always succeeds and notes the two
answers at each dependency (`enrich_outcome`).

* `Settles`: a computation that gives a result, or fails without an interrupt where there is none;
* `countSpec`, `countsOf_spec`: the number of vulnerabilities of each dependency.
-/

namespace SourceSurvey

namespace Audit

/-! ## Settled computations -/

/-- A computation gives a result, or fails for another reason than an interrupt when there is
none. -/
inductive Settles {α : Type} : Except Failure α → Option α → Prop where
  | ok (a : α) : Settles (.ok a) (some a)
  | error {f : Failure} (h : f ≠ .interrupt) : Settles (.error f) none

section Settles

variable {α β : Type}

theorem Settles.bind {x : Except Failure α} {r : Option α} {f : α → Except Failure β}
    {g : α → Option β} (hx : Settles x r) (hf : ∀ a, Settles (f a) (g a)) :
    Settles (x >>= f) (r.bind g) := by
  cases hx with
  | ok a => exact hf a
  | error h => exact .error h

theorem settles_orFail (x : Except Misuse α) : Settles (orFail x) x.toOption := by
  cases x with
  | ok a => exact .ok a
  | error m => exact .error (by simp)

end Settles

/-- A decoder is never interrupted. -/
def Uninterrupted (decode : String → Except Failure Value) : Prop :=
  ∀ text, decode text ≠ .error .interrupt

theorem uninterrupted_readJson : Uninterrupted readJson := by
  intro text
  unfold readJson
  cases Json.read text.toList with
  | ok v => simp
  | error fault => cases fault <;> simp

theorem unanswered_ne_interrupt (tool reason : String) : unanswered tool reason ≠ .interrupt := by
  simp [unanswered]

/-! ## Documents and reports -/

/-- What a run printed, without the blanks around it; none when there was no run. -/
def printed : ToolAnswer → Option String
  | .done output _ _ => some (Text.trimmed (output.getD ""))
  | _ => none

section Decode

variable (decode : String → Except Failure Value)

/-- The value in an answer; a blank output is not decoded. -/
def decoded? (answer : ToolAnswer) : Option Value :=
  (printed answer).bind fun text => if text.isEmpty then none else (decode text).toOption

/-- The document in an answer, if it is none in which the package manager reports an error of its
own. -/
def document? (answer : ToolAnswer) : Option Value :=
  (decoded? decode answer).filter fun v => (reportedError? v).isNone

/-- The report in an answer. -/
def report? (answer : ToolAnswer) : Option (List (String × Value)) :=
  (document? decode answer).bind Value.fields?

/-- The answer to a question about dependencies in an answer of the package manager. -/
def answer? (q : Question) (answer : ToolAnswer) (names : List String) : Option Value :=
  (report? decode answer).bind fun fields => (answerIn fields names q).toOption

end Decode

section Settled

variable {decode : String → Except Failure Value} (hdecode : Uninterrupted decode)

include hdecode

theorem settles_documentOf (tool : String) (output errors : Option String) (code : ℤ) :
    Settles (documentOf tool output errors code decode)
    (document? decode (.done output errors code)) := by
  simp only [documentOf, document?, decoded?, printed, Option.bind_some]
  generalize Text.trimmed (output.getD "") = text
  by_cases hempty : text.isEmpty = true
  · rw [if_pos hempty, if_pos hempty]
    exact .error (unanswered_ne_interrupt _ _)
  · rw [if_neg hempty, if_neg hempty]
    cases hjson : decode text with
    | error f =>
      cases f with
      | interrupt => exact absurd hjson (hdecode text)
      | notJson document what left => exact .error (unanswered_ne_interrupt _ _)
      | _ => exact .error (by simp)
    | ok document =>
      simp only [Except.toOption]
      cases herror : reportedError? document with
      | some reason =>
        rw [Option.filter_some_neg (by simp [herror])]
        exact .error (unanswered_ne_interrupt _ _)
      | none =>
        rw [Option.filter_some_pos (by simp [herror])]
        exact .ok document

theorem settles_runTool {w : World} {words : List String} {project : Route} {timeout : Value}
    (h : w.answerTo ⟨words, project.text, timeout⟩ ≠ .interrupted) :
    Settles (runTool w words project timeout decode).outcome
      (document? decode (w.answerTo ⟨words, project.text, timeout⟩)) := by
  cases hanswer : w.answerTo ⟨words, project.text, timeout⟩ with
  | interrupted => exact absurd hanswer h
  | done output errors code =>
    have hrun : (runTool w words project timeout decode).outcome =
        documentOf (String.intercalate " " words) output errors code decode := by
      simp only [runTool, hanswer, Traced.outcome_note_bind, Traced.outcome_liftM]
    rw [hrun]
    exact settles_documentOf hdecode _ output errors code
  | broken label message =>
    simp only [runTool, hanswer]
    exact .error (by simp)
  | _ =>
    simp only [runTool, hanswer]
    exact .error (unanswered_ne_interrupt _ _)

theorem settles_runForObject {w : World} {words : List String} {project : Route} {timeout : Value}
    (h : w.answerTo ⟨words, project.text, timeout⟩ ≠ .interrupted) :
    Settles (runForObject w words project timeout decode).outcome
      (report? decode (w.answerTo ⟨words, project.text, timeout⟩)) := by
  rw [runForObject, Traced.outcome_bind]
  refine (settles_runTool hdecode h).bind fun document => ?_
  cases document with
  | obj fields => exact .ok fields
  | _ => exact .error (unanswered_ne_interrupt _ _)

theorem settles_ask {w : World} {q : Question} {project : Route} {timeout : Value}
    (h : w.answerTo ⟨q.words, project.text, timeout⟩ ≠ .interrupted) (names : List String) :
    Settles (ask w q timeout project names decode).outcome
      (answer? decode q (w.answerTo ⟨q.words, project.text, timeout⟩) names) := by
  rw [ask, Traced.outcome_bind]
  exact (settles_runForObject hdecode h).bind fun fields => settles_orFail _

end Settled

/-! ## Questions without an answer -/

/-- Every failure but an interrupt becomes a fault of the audit. -/
theorem blamed_eq_audit {f : Failure} (h : f ≠ .interrupt) (q : Question) (timeout : Option Value) :
    ∃ tool reason, blamed q timeout f = .fault (.audit tool reason) := by
  cases f with
  | interrupt => exact absurd rfl h
  | fault cause => cases cause <;> exact ⟨_, _, rfl⟩
  | outside label message =>
    simp only [blamed]
    split <;> exact ⟨_, _, rfl⟩
  | _ => exact ⟨_, _, rfl⟩

/-- A client that is the package manager, if there is a client. -/
def AsksTool (client : Option Client) : Prop := ∀ c ∈ client, ∃ timeout, c = .packageManager timeout

/-- The call by which a client puts a question, if it is the package manager. -/
def callOf (q : Question) (project : Route) : Client → Option ToolCall
  | .packageManager seconds => some ⟨q.words, project.text, seconds⟩
  | _ => none

/-- What the package manager answers to a client. -/
def answerOf (decode : String → Except Failure Value) (w : World) (q : Question)
    (client : Option Client) (project : Route) (names : List String) : Option Value :=
  (client.bind (callOf q project)).bind fun call => answer? decode q (w.answerTo call) names

/-- No interrupt comes while the package manager answers a client. -/
def Heard (w : World) (q : Question) (client : Option Client) (project : Route) : Prop :=
  ∀ call ∈ client.bind (callOf q project), w.answerTo call ≠ .interrupted

/-- A mishap is no interrupt. -/
theorem answerTo_ne_interrupted {w : World} {call : ToolCall}
    (h : w.tool call.words ≠ .interrupted) :
    w.answerTo call ≠ .interrupted := by
  unfold World.answerTo
  cases w.mishap call with
  | none => exact h
  | some mishap => simp

theorem heard_of_tool {w : World} {q : Question} (h : w.tool q.words ≠ .interrupted)
    (client : Option Client) (project : Route) : Heard w q client project := by
  intro call hcall
  obtain ⟨c, -, hc⟩ := Option.bind_eq_some_iff.1 hcall
  cases c with
  | packageManager seconds =>
    obtain rfl := Option.some.inj hc
    exact answerTo_ne_interrupted h
  | _ => cases hc

/-- **A question never stops an audit**: it has the answer of the package manager, or none. -/
theorem lookUp_outcome {decode : String → Except Failure Value}
    (hdecode : Uninterrupted decode) {w : World} {q : Question} {client : Option Client}
    (hclient : AsksTool client) {project : Route} (h : Heard w q client project)
    (timeout : Option Value) (names : List String) :
    (lookUp w q timeout client project names decode).outcome =
      .ok (answerOf decode w q client project names) := by
  cases client with
  | none => rfl
  | some c =>
    obtain ⟨seconds, rfl⟩ := hclient c rfl
    simp only [lookUp, put, answerOf, callOf, Option.bind_some]
    have hask := settles_ask hdecode (h _ rfl) names
    generalize ask w q seconds project names decode = asked at hask ⊢
    generalize answer? decode q _ names = answer at hask ⊢
    obtain ⟨trail, outcome⟩ := asked
    cases hask with
    | ok v => rfl
    | error hf =>
      obtain ⟨tool, reason, hblamed⟩ := blamed_eq_audit hf q timeout
      simp only [Traced.rescue, hblamed]
      rfl

/-! ## Counts -/

/-- An entry names its causes by something that has no length. -/
def Uncountable (entry : Value) : Prop :=
  ∃ fields via, entry = .obj fields ∧ fields.lookup "via" = some via ∧ via.truthy = true ∧
    ∀ n, via.size ≠ .ok n

theorem size_pos {v : Value} {n : ℕ} (h : v.size = .ok n) (htruthy : v.truthy = true) : 0 < n := by
  cases v with
  | list items =>
    obtain rfl := Except.ok.inj h
    simpa [Value.truthy, List.length_pos_iff] using htruthy
  | str s =>
    obtain rfl := Except.ok.inj h
    have hne : s ≠ "" := by simpa [Value.truthy] using htruthy
    exact Nat.pos_of_ne_zero fun hzero => hne (String.length_eq_zero_iff.1 hzero)
  | obj fields =>
    obtain rfl := Except.ok.inj h
    simpa [Value.truthy, List.length_pos_iff] using htruthy
  | _ => exact absurd h (by simp [Value.size])

/-- An entry is counted unless its causes cannot be, and a count is positive just when the entry is
there. -/
def CountSpec (entry : Value) : Prop :=
  (Uncountable entry ∧ ∃ m, countOf entry = .error m) ∨
    (¬ Uncountable entry ∧ ∃ n, countOf entry = .ok n ∧ (0 < n ↔ entry.truthy = true))

theorem countOf_obj {fields : List (String × Value)} (h : (Value.obj fields).truthy = true) :
    countOf (.obj fields) =
      match fields.lookup "via" with
      | some via => if via.truthy then via.size else .ok fields.length
      | none => .ok fields.length := by
  rw [countOf, h]
  rfl

/-- An object is counted by the causes that it names, or else by its fields. -/
theorem countSpec_obj {fields : List (String × Value)} (h : (Value.obj fields).truthy = true) :
    CountSpec (.obj fields) := by
  have hfields : 0 < fields.length ↔ (Value.obj fields).truthy = true := by
    simp [Value.truthy, List.length_pos_iff]
  have huncountable : ∀ {via}, fields.lookup "via" = some via →
      (Uncountable (.obj fields) ↔ via.truthy = true ∧ ∀ n, via.size ≠ .ok n) := by
    intro via hvia
    constructor
    · rintro ⟨_, _, ⟨⟩, hsome, hspec⟩
      obtain rfl := Option.some.inj (hvia.symm.trans hsome)
      exact hspec
    · exact fun hspec => ⟨fields, via, rfl, hvia, hspec⟩
  unfold CountSpec
  rw [countOf_obj h]
  cases hvia : fields.lookup "via" with
  | none =>
    refine .inr ⟨?_, fields.length, rfl, hfields⟩
    rintro ⟨_, _, ⟨⟩, hsome, -⟩
    exact absurd (hvia.symm.trans hsome) (by simp)
  | some via =>
    rw [huncountable hvia]
    by_cases hcauses : via.truthy = true
    · simp only [hcauses, if_true, true_and]
      cases hsize : via.size with
      | error m => exact .inl ⟨by simp, m, rfl⟩
      | ok n => exact .inr ⟨by simp, n, rfl, iff_of_true (size_pos hsize hcauses) h⟩
    · simp only [hcauses, Bool.false_eq_true, if_false, false_and, not_false_eq_true, true_and]
      exact .inr ⟨fields.length, rfl, hfields⟩

theorem not_uncountable {entry : Value} (h : entry.fields? = none ∨ entry.truthy = false) :
    ¬ Uncountable entry := by
  rintro ⟨fields, via, rfl, hvia, -⟩
  rcases h with h | h
  · cases h
  · obtain rfl : fields = [] := by simpa [Value.truthy] using h
    exact absurd hvia (by simp)

theorem countSpec (entry : Value) : CountSpec entry := by
  by_cases htruthy : entry.truthy = true
  · have hcount : ∀ n, countOf entry = .ok n → 0 < n → entry.fields? = none → CountSpec entry :=
      fun n hn hpos hfields => .inr ⟨not_uncountable (.inl hfields), n, hn,
        iff_of_true hpos htruthy⟩
    cases entry with
    | obj fields => exact countSpec_obj htruthy
    | list items =>
      have hitems : 0 < items.length := by simpa [Value.truthy, List.length_pos_iff] using htruthy
      exact hcount items.length (by simp [countOf, htruthy]) hitems rfl
    | _ => exact hcount 1 (by simp [countOf, htruthy]) Nat.one_pos rfl
  · rw [Bool.not_eq_true] at htruthy
    exact .inr ⟨not_uncountable (.inr htruthy), 0, by simp [countOf, htruthy], by simp [htruthy]⟩

/-- The entry for a dependency in a table of vulnerabilities; one that is not there counts as
nothing. -/
def entryIn (table : List (String × Value)) (name : String) : Value :=
  (table.lookup name).getD .null

/-- **The counts of all dependencies**: each has one if none has causes that cannot be counted, and
a count is positive just when the table has an entry. -/
theorem countsOf_spec (table : List (String × Value)) (names : List String)
    (done : List (String × Value)) :
    ((∃ name ∈ names, Uncountable (entryIn table name)) ∧
      ∃ m, countsOf (.obj table) names done = .error m) ∨
      ((∀ name ∈ names, ¬ Uncountable (entryIn table name)) ∧
        ∃ counts, countsOf (.obj table) names done = .ok counts ∧
          (∀ name ∈ names, ∃ n : ℕ, counts.lookup name = some (.ofNat n) ∧
            (0 < n ↔ (entryIn table name).truthy = true)) ∧
          ∀ name ∉ names, counts.lookup name = done.lookup name) := by
  induction names generalizing done with
  | nil => exact .inr ⟨by simp, done, rfl, by simp, fun _ _ => rfl⟩
  | cons name rest ih =>
    have hstep : countsOf (.obj table) (name :: rest) done =
        (countOf (entryIn table name) >>= fun n =>
        countsOf (.obj table) rest (Value.putField name (.ofNat n) done)) := rfl
    rw [hstep]
    rcases countSpec (entryIn table name) with ⟨hbad, m, hcount⟩ | ⟨hgood, n, hcount, hpos⟩
    · exact .inl ⟨⟨name, List.mem_cons_self, hbad⟩, m, by rw [hcount]; rfl⟩
    · have hrest := ih (Value.putField name (.ofNat n) done)
      rw [hcount]
      rcases hrest with ⟨⟨other, hother, hbad⟩, hfail⟩ | ⟨hall, counts, hcounts, hin, hout⟩
      · exact .inl ⟨⟨other, List.mem_cons_of_mem _ hother, hbad⟩, hfail⟩
      · refine .inr ⟨?_, counts, hcounts, ?_, ?_⟩
        · exact List.forall_mem_cons.2 ⟨hgood, hall⟩
        · refine List.forall_mem_cons.2 ⟨?_, hin⟩
          -- a name that comes again is counted again, with the same entry
          by_cases hagain : name ∈ rest
          · exact hin name hagain
          · exact ⟨n, by rw [hout name hagain, Value.lookup_putField, if_pos rfl], hpos⟩
        · intro other hother
          rw [List.mem_cons, not_or] at hother
          rw [hout other hother.2, Value.lookup_putField, if_neg hother.1]

/-- The table of vulnerabilities in a report; one that is missing or empty has no entries. -/
def table? (fields : List (String × Value)) : Option (List (String × Value)) :=
  let entries := (fields.lookup "vulnerabilities").getD .null
  if entries.truthy then entries.fields? else some []

theorem countsOf_of_not_obj {entries : Value} (h : entries.kind ≠ .obj) {names : List String}
    (hnames : names ≠ []) (done : List (String × Value)) :
    ∃ m, countsOf entries names done = .error m := by
  cases names with
  | nil => exact absurd rfl hnames
  | cons name rest =>
    cases entries with
    | obj fields => exact absurd rfl h
    | _ => exact ⟨_, rfl⟩

/-- The answer about vulnerabilities is made of the counts in the table of the report. -/
theorem answer?_vulnerabilities (decode : String → Except Failure Value) (answer : ToolAnswer)
    {names : List String} (hnames : names ≠ []) :
    answer? decode .vulnerabilities answer names =
      ((report? decode answer).bind table?).bind fun table =>
      (countsOf (.obj table) names []).toOption.map .obj := by
  rw [answer?, Option.bind_assoc]
  congr 1
  funext fields
  have hcounts : ∀ entries : Value,
      ((do return .obj (← countsOf entries names [])) : Except Misuse Value).toOption =
        (countsOf entries names []).toOption.map Value.obj := by
    intro entries
    cases countsOf entries names [] <;> rfl
  change ((do return .obj (← countsOf _ names [])) : Except Misuse Value).toOption = _
  rw [hcounts, table?]
  generalize (fields.lookup "vulnerabilities").getD .null = entries
  by_cases htruthy : entries.truthy = true
  · rw [if_pos htruthy, if_pos htruthy]
    cases hfields : entries.fields? with
    | some table =>
      rw [Value.fields?_eq_some.1 hfields]
      rfl
    | none =>
      obtain ⟨m, hm⟩ := countsOf_of_not_obj (Value.fields?_eq_none.1 hfields) hnames []
      rw [hm]
      rfl
  · rw [if_neg htruthy, if_neg htruthy]
    rfl

/-- The answer about outdated dependencies is the list of the names in the report. -/
@[simp] theorem answer?_outdated (decode : String → Except Failure Value) (answer : ToolAnswer)
    (names : List String) :
    answer? decode .outdated answer names =
      (report? decode answer).map fun fields => .ofTexts (fields.map (·.1)) := by
  rw [answer?]
  cases report? decode answer <;> rfl

/-! ## Notes -/

/-- The number of vulnerabilities at a dependency after an answer. -/
def notedCount (answer : Option Value) (d : DependencyEntry) : Value :=
  match answer with
  | some (.obj counts) => (counts.lookup d.name.text).getD .null
  | _ => d.vulnerabilities

/-- Whether a dependency is outdated after an answer. -/
def notedFlag (answer : Option Value) (d : DependencyEntry) : Value :=
  match answer with
  | some (.list names) => .bool (names.any (·.isText d.name.text))
  | _ => d.outdated

theorem noteCount_eq {counts : List (String × Value)} {d : DependencyEntry} {n : ℕ}
    (h : counts.lookup d.name.text = some (.ofNat n)) :
    noteCount (.obj counts) d = .ok { d with vulnerabilities := .ofNat n } := by
  have hholds : (Value.obj counts).holdsText d.name.text = .ok true := by
    obtain ⟨before, after, rfl, -⟩ := List.lookup_eq_some_iff.1 h
    simp [Value.holdsText]
  have hfield : (Value.obj counts).field d.name.text = .ok (.ofNat n) := by
    simp only [Value.field, h]
  rw [noteCount, hholds]
  change ((Value.obj counts).field d.name.text >>= fun v => v.toInteger >>= _) = _
  rw [hfield]
  rfl

/-- An answer about vulnerabilities is noted at every dependency. -/
theorem noteAll_noteCount {decode : String → Except Failure Value}
    (dependencies : List DependencyEntry) {counts : Option Value}
    (h : ∀ v ∈ counts, ∃ answer,
      answer? decode .vulnerabilities answer (dependencies.map (·.name.text)) = some v) :
    noteAll noteCount counts dependencies =
      .ok (dependencies.map fun d => { d with vulnerabilities := notedCount counts d }) := by
  cases counts with
  | none => simp [noteAll, notedCount]
  | some v =>
    refine mapM_eq_ok_map fun d hd => ?_
    have hne : dependencies.map (·.name.text) ≠ [] := by simpa using List.ne_nil_of_mem hd
    obtain ⟨answer, hanswer⟩ := h v rfl
    rw [answer?_vulnerabilities decode answer hne] at hanswer
    obtain ⟨table, -, hcounts⟩ := Option.bind_eq_some_iff.1 hanswer
    obtain ⟨found, hfound, rfl⟩ := Option.map_eq_some_iff.1 hcounts
    rw [toOption_eq_some] at hfound
    rcases countsOf_spec table (dependencies.map (·.name.text)) [] with ⟨-, m, hm⟩ |
      ⟨-, found', hm, hin, -⟩
    · rw [hfound] at hm
      cases hm
    · obtain rfl := Except.ok.inj (hfound.symm.trans hm)
      obtain ⟨n, hn, -⟩ := hin _ (List.mem_map_of_mem hd)
      rw [noteCount_eq hn, notedCount, hn]
      rfl

theorem noteAll_noteOutdated {decode : String → Except Failure Value} (names : List String)
    (dependencies : List DependencyEntry) {outdated : Option Value}
    (h : ∀ v ∈ outdated, ∃ answer, answer? decode .outdated answer names = some v) :
    noteAll noteOutdated outdated dependencies =
      .ok (dependencies.map fun d => { d with outdated := notedFlag outdated d }) := by
  cases outdated with
  | none => simp [noteAll, notedFlag]
  | some v =>
    refine mapM_eq_ok_map fun d _ => ?_
    obtain ⟨answer, hanswer⟩ := h v rfl
    rw [answer?_outdated] at hanswer
    obtain ⟨fields, -, rfl⟩ := Option.map_eq_some_iff.1 hanswer
    rfl

end Audit

open Audit

/-- An answer to a client is one of the package manager. -/
theorem exists_of_answerOf {decode : String → Except Failure Value} {w : World} {q : Question}
    {client : Option Client} {project : Route} {names : List String} :
    ∀ v ∈ answerOf decode w q client project names, ∃ answer,
    answer? decode q answer names = some v := by
  intro v hv
  obtain ⟨call, -, hanswer⟩ := Option.bind_eq_some_iff.1 hv
  exact ⟨_, hanswer⟩

/-- The dependencies of a manifest, with both answers noted at each of them. -/
def annotate (counts flags : Option Value) (records : List DependencyEntry) :
    List DependencyEntry :=
  records.map fun d =>
    { d with vulnerabilities := notedCount counts d, outdated := notedFlag flags d }

/-- **An audit that asks the package manager always succeeds**, and notes the two answers at each
dependency. -/
theorem Auditor.enrich_outcome {decode : String → Except Failure Value}
    (hdecode : Uninterrupted decode) {w : World} {a : Auditor}
    (hcounts : AsksTool a.vulnerabilities) (houtdated : AsksTool a.outdated) {project : Route}
    (hcountsCall : Heard w .vulnerabilities a.vulnerabilities project)
    (houtdatedCall : Heard w .outdated a.outdated project) (dependencies : List DependencyEntry) :
    let names := dependencies.map (·.name.text)
    (a.enrich w project dependencies decode).outcome =
      .ok (annotate (answerOf decode w .vulnerabilities a.vulnerabilities project names)
        (answerOf decode w .outdated a.outdated project names) dependencies) := by
  intro names
  have hlookCounts := lookUp_outcome hdecode hcounts hcountsCall a.timeout names
  have hlookFlags := lookUp_outcome hdecode houtdated houtdatedCall a.timeout names
  generalize hcountsAnswer : answerOf decode w .vulnerabilities _ project names =
    counts at hlookCounts ⊢
  generalize hflagsAnswer : answerOf decode w .outdated _ project names = flags at hlookFlags ⊢
  have hnotes := noteAll_noteCount dependencies (hcountsAnswer ▸ exists_of_answerOf)
  have hflags := noteAll_noteOutdated names
    (dependencies.map fun d => { d with vulnerabilities := notedCount counts d })
    (hflagsAnswer ▸ exists_of_answerOf)
  cases dependencies with
  | nil => rfl
  | cons d rest =>
    simp only [Auditor.enrich, List.isEmpty_cons, Bool.false_eq_true, if_false, Traced.outcome_bind,
      Traced.outcome_liftM_misuse]
    rw [hlookCounts]
    change (orFail _ >>= fun counted => _ >>= fun outdated =>
      orFail (noteAll noteOutdated outdated counted)) = _
    rw [hnotes, hlookFlags]
    change orFail _ = _
    rw [hflags, List.map_map]
    rfl

end SourceSurvey
