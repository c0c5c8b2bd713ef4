import SourceSurvey.Proofs.Survey
import SourceSurvey.Proofs.Tree.Place

/-!
# Surveys on a pool of workers

The four analyses of a survey may run on a pool: the caller submits them one after the other,
workers take them from the front of a queue, and the caller waits for the results in the order of
submission.  Which analysis starts and finishes when is up to the schedule.

* `Program`, what the caller does, and `Step`, one step of caller or pool;
* `Ends`: every schedule comes to an end, and always with the same outcome;
* `ends_iff`: that outcome is the one of running the tasks one by one, whatever the number of
  workers;
* `survey_on_pool`: the same for surveys.
-/

namespace SourceSurvey

namespace Pool

/-! ## Pools -/

/-- The tasks of a pool: the four analyses. -/
inductive Task where
  | complexity
  | security
  | duplication
  | dependencies
  deriving DecidableEq

/-- What a task gives. -/
abbrev Task.Result : Task → Type
  | .complexity => List ComplexityEntry
  | .security => List SecurityEntry
  | .duplication => DuplicationPart
  | .dependencies => DependencyPart

/-- The outcome of a task. -/
def outcome (a : Analyses) : (t : Task) → Except Failure t.Result
  | .complexity => a.complexity.outcome
  | .security => a.security.outcome
  | .duplication => a.duplication.outcome
  | .dependencies => a.dependencies.outcome

/-- The tasks in the order in which a survey submits them. -/
def Task.all : List Task := [.complexity, .security, .duplication, .dependencies]

/-- The failure of a task, if it fails. -/
def failure? (a : Analyses) (t : Task) : Option Failure :=
  match outcome a t with
  | .ok _ => none
  | .error e => some e

/-- What the caller of a pool does: it submits tasks, waits for their results, and leaves the pool
with a result of its own. -/
inductive Program (α : Type) where
  | submit (t : Task) (next : Program α)
  | await (t : Task) (next : t.Result → Program α)
  | leave (result : Except Failure α)

/-- A pool at work: what the caller still has to do, the tasks that no worker has taken yet, those
that workers are at, and the outcomes of those that are finished. -/
structure State (α : Type) where
  caller : Program α
  queue : List Task
  running : List Task
  finished : (t : Task) → Option (Except Failure t.Result)

/-- A pool that nothing has been submitted to. -/
def State.initial {α : Type} (caller : Program α) : State α := ⟨caller, [], [], fun _ => none⟩

variable {α : Type} {a : Analyses} {workers : ℕ}

/-- One step of the caller or of a worker.  A free worker takes the first task of the queue; any
task that is running may be the next to finish, and leaves its own outcome.  A caller whose task has
failed leaves at once. -/
inductive Step (a : Analyses) (workers : ℕ) : State α → State α → Prop where
  | submit {t next queue running finished} :
    Step a workers ⟨.submit t next, queue, running, finished⟩
      ⟨next, queue ++ [t], running, finished⟩
  | start {caller t queue running finished} (free : running.length < workers) :
    Step a workers ⟨caller, t :: queue, running, finished⟩ ⟨caller, queue, running ++ [t], finished⟩
  | finish {caller t queue running finished} (taken : t ∈ running) :
    Step a workers ⟨caller, queue, running, finished⟩
      ⟨caller, queue, running.erase t, Function.update finished t (some (outcome a t))⟩
  | collect {t next queue running finished} {r : t.Result} (ready : finished t = some (.ok r)) :
    Step a workers ⟨.await t next, queue, running, finished⟩ ⟨next r, queue, running, finished⟩
  | fail {t next queue running finished e} (ready : finished t = some (.error e)) :
    Step a workers ⟨.await t next, queue, running, finished⟩
      ⟨.leave (.error e), queue, running, finished⟩

/-- The caller has left, which it does not do before the pool is idle. -/
structure State.Final (s : State α) (result : Except Failure α) : Prop where
  caller : s.caller = .leave result
  queue : s.queue = []
  running : s.running = []

/-- However the steps are scheduled, they come to an end, and the caller leaves with the given
result. -/
inductive Ends (a : Analyses) (workers : ℕ) : State α → Except Failure α → Prop where
  | done {s result} (final : s.Final result) : Ends a workers s result
  | step {s result} (next : ∃ s', Step a workers s s')
    (rest : ∀ s', Step a workers s s' → Ends a workers s' result) :
    Ends a workers s result

theorem State.Final.no_step {s s' : State α} {result : Except Failure α} (h : s.Final result) :
    ¬ Step a workers s s' := by
  obtain ⟨hcaller, hqueue, hrunning⟩ := h
  intro hstep
  cases hstep with
  | submit => cases hcaller
  | start => cases hqueue
  | finish taken => exact List.ne_nil_of_mem taken hrunning
  | collect => cases hcaller
  | fail => cases hcaller

theorem Ends.unique {s : State α} {result result' : Except Failure α} (h : Ends a workers s result)
    (h' : Ends a workers s result') : result = result' := by
  induction h with
  | done final =>
    cases h' with
    | done final' => exact Program.leave.inj (final.caller.symm.trans final'.caller)
    | step next rest => exact absurd next.choose_spec final.no_step
  | step next rest ih =>
    obtain ⟨s', hstep⟩ := next
    cases h' with
    | done final' => exact absurd hstep final'.no_step
    | step next' rest' => exact ih s' hstep (rest' s' hstep)

/-! ## One by one -/

/-- The result of a caller when each task is run at the moment in which it is waited for. -/
def Program.oneByOne (a : Analyses) : Program α → Except Failure α
  | .submit _ next => next.oneByOne a
  | .await t next => outcome a t >>= fun r => (next r).oneByOne a
  | .leave result => result

/-- A caller waits only for tasks that it has submitted or that are known to the pool. -/
def Program.Covered : Program α → (Task → Prop) → Prop
  | .submit t next, known => next.Covered fun u => u = t ∨ known u
  | .await t next, known => known t ∧ ∀ r, (next r).Covered known
  | .leave _, _ => True

theorem Program.Covered.mono {p : Program α} {known known' : Task → Prop} (h : p.Covered known)
    (hmono : ∀ t, known t → known' t) : p.Covered known' := by
  induction p generalizing known known' with
  | submit t next ih => exact ih h fun u => Or.imp_right (hmono u)
  | await t next ih => exact ⟨hmono t h.1, fun r => ih r (h.2 r) hmono⟩
  | leave result => exact trivial

/-- The tasks that have been submitted to a pool. -/
def State.Known (s : State α) (t : Task) : Prop := t ∈ s.queue ∨ t ∈ s.running ∨
  (s.finished t).isSome

/-- A pool in which every task has its own outcome, and whose caller waits for nothing that cannot
come. -/
structure State.Sound (a : Analyses) (s : State α) : Prop where
  own : ∀ t r, s.finished t = some r → r = outcome a t
  covered : s.caller.Covered s.Known

theorem State.sound_initial {p : Program α} (h : p.Covered fun _ => False) :
    (State.initial p).Sound a where
  own _ _ hnone := nomatch hnone
  covered := h.mono fun _ => False.elim

section Finish

variable {finished : (t : Task) → Option (Except Failure t.Result)} {t u : Task}

theorem own_update (hown : ∀ u r, finished u = some r → r = outcome a u)
    {r : Except Failure u.Result} (h : Function.update finished t (some (outcome a t)) u = some r) :
    r = outcome a u := by
  by_cases hut : u = t
  · subst hut
    rw [Function.update_self] at h
    exact (Option.some.inj h).symm
  · rw [Function.update_of_ne hut] at h
    exact hown u r h

theorem isSome_update {r : Except Failure t.Result} (h : u = t ∨ (finished u).isSome) :
    (Function.update finished t (some r) u).isSome := by
  by_cases hut : u = t
  · subst hut
    rw [Function.update_self]
    rfl
  · rw [Function.update_of_ne hut]
    exact h.resolve_left hut

end Finish

/-- What is known to a pool stays known. -/
theorem Step.known {s s' : State α} (h : Step a workers s s') {u : Task}
    (hu : s.Known u) : s'.Known u := by
  cases h with
  | submit => exact hu.imp_left (List.mem_append_left _)
  | start free =>
    rcases hu with hqueue | hrunning | hfinished
    · rcases List.mem_cons.1 hqueue with rfl | hqueue
      · exact .inr (.inl (List.mem_append_right _ (List.mem_singleton_self u)))
      · exact .inl hqueue
    · exact .inr (.inl (List.mem_append_left _ hrunning))
    · exact .inr (.inr hfinished)
  | @finish caller t queue running finished taken =>
    rcases hu with hqueue | hrunning | hfinished
    · exact .inl hqueue
    · by_cases hut : u = t
      · exact .inr (.inr (isSome_update (.inl hut)))
      · exact .inr (.inl ((List.mem_erase_of_ne hut).2 hrunning))
    · exact .inr (.inr (isSome_update (.inr hfinished)))
  | collect ready => exact hu
  | fail ready => exact hu

/-- **A step** keeps a pool sound and does not change what the caller would get one by one. -/
theorem Step.preserves {s s' : State α} (h : Step a workers s s') (hs : s.Sound a) :
    s'.Sound a ∧ s'.caller.oneByOne a = s.caller.oneByOne a := by
  have hknown : ∀ u, s.Known u → s'.Known u := fun _ => h.known
  obtain ⟨hown, hcovered⟩ := hs
  cases h with
  | @submit t next queue running finished =>
    have hnext : next.Covered fun u => u = t ∨
        State.Known ⟨.submit t next, queue, running, finished⟩ u := hcovered
    refine ⟨⟨hown, hnext.mono ?_⟩, rfl⟩
    rintro u (rfl | hu)
    · exact .inl (List.mem_append_right _ (List.mem_singleton_self u))
    · exact hknown u hu
  | start free => exact ⟨⟨hown, hcovered.mono hknown⟩, rfl⟩
  | finish taken => exact ⟨⟨fun _ _ => own_update hown, hcovered.mono hknown⟩, rfl⟩
  | collect ready =>
    refine ⟨⟨hown, hcovered.2 _⟩, ?_⟩
    rw [Program.oneByOne, ← hown _ _ ready]
    rfl
  | fail ready =>
    refine ⟨⟨hown, trivial⟩, ?_⟩
    rw [Program.oneByOne, Program.oneByOne, ← hown _ _ ready]
    rfl

/-- **Progress**: as long as there is a worker, a pool at work has a next step. -/
theorem State.Sound.progress {s : State α} (hs : s.Sound a) (hworkers : 1 ≤ workers) :
    (∃ result, s.Final result) ∨ ∃ s', Step a workers s s' := by
  obtain ⟨caller, queue, running, finished⟩ := s
  cases running with
  | cons t running => exact .inr ⟨_, .finish List.mem_cons_self⟩
  | nil =>
    cases queue with
    | cons t queue => exact .inr ⟨_, .start hworkers⟩
    | nil =>
      cases caller with
      | submit t next => exact .inr ⟨_, .submit⟩
      | leave result => exact .inl ⟨result, rfl, rfl, rfl⟩
      | await t next =>
        -- the pool is idle, so a task that is known to it is finished
        rcases hs.covered.1 with hqueue | hrunning | hfinished
        · cases hqueue
        · cases hrunning
        · obtain ⟨r, hr⟩ := Option.isSome_iff_exists.1 hfinished
          cases r with
          | ok r => exact .inr ⟨_, .collect hr⟩
          | error e => exact .inr ⟨_, .fail hr⟩

/-! ## Every schedule ends -/

/-- What a caller goes on with. -/
inductive Program.Next : Program α → Program α → Prop where
  | submit {t next} : Next next (.submit t next)
  | collect {t next} (r : t.Result) : Next (next r) (.await t next)
  | fail {t next} (e : Failure) : Next (.leave (.error e)) (.await t next)

theorem Program.next_wf : WellFounded (@Program.Next α) := by
  have hleave (result : Except Failure α) : Acc Program.Next (.leave result) :=
    ⟨_, fun _ h => nomatch h⟩
  refine ⟨fun p => ?_⟩
  induction p with
  | leave result => exact hleave result
  | submit t next ih =>
    refine ⟨_, fun p h => ?_⟩
    cases h
    exact ih
  | await t next ih =>
    refine ⟨_, fun p h => ?_⟩
    cases h with
    | collect r => exact ih r
    | fail e => exact hleave _

/-- The steps that the workers still have to take. -/
def State.load (s : State α) : ℕ := 2 * s.queue.length + s.running.length

/-- A step of the caller leads on, and a step of a worker leaves less to do. -/
theorem Step.descends {s s' : State α} (h : Step a workers s s') :
    s'.caller.Next s.caller ∨ s'.caller = s.caller ∧ s'.load < s.load := by
  cases h with
  | submit => exact .inl .submit
  | start free =>
    refine .inr ⟨rfl, ?_⟩
    simp only [State.load, List.length_cons, List.length_append, List.length_nil]
    omega
  | finish taken =>
    refine .inr ⟨rfl, ?_⟩
    have hpos := List.length_pos_of_mem taken
    simp only [State.load, List.length_erase_of_mem taken]
    omega
  | collect ready => exact .inl (.collect _)
  | fail ready => exact .inl (.fail _)

theorem step_wf : WellFounded fun s' s : State α => Step a workers s s' := by
  refine Subrelation.wf ?_ (InvImage.wf (fun s : State α => (s.caller, s.load))
    (Prod.lex ⟨Program.Next, Program.next_wf⟩ ⟨(· < ·), Nat.lt_wfRel.wf⟩).wf)
  intro s' s h
  rcases h.descends with hnext | ⟨hsame, hless⟩
  · exact .left _ _ hnext
  · change Prod.Lex Program.Next (· < ·) (s'.caller, s'.load) (s.caller, s.load)
    rw [hsame]
    exact .right _ hless

/-- **Every schedule** of a sound pool with a worker ends with the result that the caller has one by
one. -/
theorem State.Sound.ends {s : State α} (hs : s.Sound a) (hworkers : 1 ≤ workers) :
    Ends a workers s (s.caller.oneByOne a) := by
  induction s using (@step_wf α a workers).induction with
  | _ s ih =>
    rcases hs.progress hworkers with ⟨result, hfinal⟩ | hstep
    · rw [hfinal.caller]
      exact .done hfinal
    · refine .step hstep fun s' hs' => ?_
      obtain ⟨hsound, hsame⟩ := hs'.preserves hs
      rw [← hsame]
      exact ih s' hs' hsound

theorem ends_iff {p : Program α} (hworkers : 1 ≤ workers) (hp : p.Covered fun _ => False)
    {result : Except Failure α} : Ends a workers (.initial p) result ↔ result = p.oneByOne a := by
  have hends : Ends a workers (.initial p) (p.oneByOne a) := (State.sound_initial hp).ends hworkers
  exact ⟨fun h => h.unique hends, fun h => h ▸ hends⟩

end Pool

/-! ## Surveys -/

/-- A caller that submits all four analyses before it waits for the first result. -/
def Pool.surveyor {α : Type} (conclude : Results → Except Failure α) : Pool.Program α :=
  .submit .complexity <| .submit .security <| .submit .duplication <| .submit .dependencies <|
    .await .complexity fun complexity => .await .security fun security =>
      .await .duplication fun duplication => .await .dependencies fun dependencies =>
        .leave (conclude ⟨complexity, security, duplication, dependencies⟩)

section Surveys

variable (w : World) (settings : Settings) (corpus : String → Traced (List SourceFile))
  (auditor : Auditor) (path : String)

/-- However the analyses are scheduled on a pool, the survey ends with the given outcome.  A corpus
that fails ends it before there is a pool. -/
def SurveyEnds (workers : ℕ) (result : Except Failure Report) : Prop :=
  match (corpus path).outcome with
  | .error f => result = .error f
  | .ok files =>
    Pool.Ends (Analyses.ofFiles w settings auditor path files) workers
      (.initial (Pool.surveyor fun results => (results.conclude w settings path).outcome)) result

/-- The survey in which each analysis starts when the one before has succeeded. -/
def surveyOneByOne : Traced Report := do
  Traced.log .info s!"Analyzing project {path}"
  let files ← corpus path
  let analyses := Analyses.ofFiles w settings auditor path files
  let complexity ← analyses.complexity
  let security ← analyses.security
  let duplication ← analyses.duplication
  let dependencies ← analyses.dependencies
  Results.conclude w settings path ⟨complexity, security, duplication, dependencies⟩

end Surveys

theorem Pool.covered_surveyor {α : Type} (conclude : Results → Except Failure α) :
    (Pool.surveyor conclude).Covered fun _ => False := by
  simp [Pool.surveyor, Pool.Program.Covered]

/-- The outcome of all analyses together, followed by a conclusion. -/
theorem Analyses.outcome_all_bind {α : Type} (a : Analyses)
    (conclude : Results → Except Failure α) :
    a.all.outcome >>= conclude = (Pool.surveyor conclude).oneByOne a := by
  change _ = a.complexity.outcome >>= fun complexity => a.security.outcome >>= fun security =>
    a.duplication.outcome >>= fun duplication => a.dependencies.outcome >>= fun dependencies =>
      conclude ⟨complexity, security, duplication, dependencies⟩
  rw [Analyses.all, Traced.outcome_bind]
  simp only [Traced.both]
  cases a.complexity.outcome with
  | error e => rfl
  | ok complexity =>
    cases a.security.outcome with
    | error e => rfl
    | ok security =>
      cases a.duplication.outcome with
      | error e => rfl
      | ok duplication => cases a.dependencies.outcome <;> rfl

theorem Pool.isSome_failure? {a : Analyses} {t : Pool.Task} {e : Failure}
    (h : Pool.outcome a t = .error e) :
    (Pool.failure? a t).isSome = true := by
  rw [Pool.failure?, h]
  rfl

theorem Pool.failure?_eq_none {a : Analyses} {t : Pool.Task} (h : Pool.failure? a t = none) :
    ∃ r, Pool.outcome a t = .ok r := by
  unfold Pool.failure? at h
  cases houtcome : Pool.outcome a t with
  | ok r => exact ⟨r, rfl⟩
  | error e =>
    rw [houtcome] at h
    cases h

theorem Pool.failure?_eq_some {a : Analyses} {t : Pool.Task} {e : Failure}
    (h : Pool.failure? a t = some e) :
    Pool.outcome a t = .error e := by
  unfold Pool.failure? at h
  cases houtcome : Pool.outcome a t with
  | ok r =>
    rw [houtcome] at h
    cases h
  | error e' =>
    rw [houtcome] at h
    rw [Option.some.inj h]

/-- A task fails with the first failure of the tasks from it on, or succeeds and passes it on. -/
theorem Pool.bind_eq_error_of_failure {α : Type} {a : Analyses} {e : Failure} {t : Pool.Task}
    {rest : List Pool.Task} {next : t.Result → Except Failure α}
    (h : (t :: rest).findSome? (Pool.failure? a) = some e)
    (hnext : ∀ r, rest.findSome? (Pool.failure? a) = some e → next r = .error e) :
    Pool.outcome a t >>= next = .error e := by
  rw [List.findSome?_cons] at h
  cases hfailure : Pool.failure? a t with
  | some e' =>
    rw [hfailure] at h
    rw [Pool.failure?_eq_some hfailure, ← Option.some.inj h]
    rfl
  | none =>
    rw [hfailure] at h
    obtain ⟨r, hr⟩ := Pool.failure?_eq_none hfailure
    rw [hr]
    exact hnext r h

/-- Of several failures the first in the order of the analyses counts. -/
theorem Pool.oneByOne_of_failure {α : Type} {a : Analyses} {e : Failure}
    (h : Pool.Task.all.findSome? (Pool.failure? a) = some e)
    (conclude : Results → Except Failure α) :
    (Pool.surveyor conclude).oneByOne a = .error e := by
  simp only [Pool.surveyor, Pool.Program.oneByOne]
  refine Pool.bind_eq_error_of_failure h fun _ h => ?_
  refine Pool.bind_eq_error_of_failure h fun _ h => ?_
  refine Pool.bind_eq_error_of_failure h fun _ h => ?_
  refine Pool.bind_eq_error_of_failure h fun _ h => ?_
  cases h

section Surveys

variable (w : World) (settings : Settings) (corpus : String → Traced (List SourceFile))
  (auditor : Auditor) (path : String)

theorem outcome_surveyOneByOne :
    (surveyOneByOne w settings corpus auditor path).outcome = (corpus path).outcome >>= fun files =>
      (Pool.surveyor fun results => (results.conclude w settings path).outcome).oneByOne
        (Analyses.ofFiles w settings auditor path files) := by
  simp only [surveyOneByOne, Traced.outcome_bind]
  rfl

theorem outcome_survey_eq_oneByOne :
    (survey w settings corpus auditor path).outcome =
      (surveyOneByOne w settings corpus auditor path).outcome := by
  rw [outcome_surveyOneByOne, outcome_survey]
  exact bind_congr fun files => Analyses.outcome_all_bind _ _

/-- **A survey on a pool** with at least one worker ends under every schedule, and ends as if the
analyses were run one by one: with the same report, or with the failure of the first analysis that
fails. -/
theorem survey_on_pool {workers : ℕ} (hworkers : 1 ≤ workers) :
    (∀ result, SurveyEnds w settings corpus auditor path workers result ↔
      result = (surveyOneByOne w settings corpus auditor path).outcome) ∧
    (survey w settings corpus auditor path).outcome =
      (surveyOneByOne w settings corpus auditor path).outcome ∧
    ∀ files e, (corpus path).outcome = .ok files →
      Pool.Task.all.findSome? (Pool.failure? (Analyses.ofFiles w settings auditor path files)) =
        some e →
        (surveyOneByOne w settings corpus auditor path).outcome = .error e := by
  refine ⟨fun result => ?_, outcome_survey_eq_oneByOne w settings corpus auditor path,
    fun files e hfiles he => ?_⟩
  · rw [SurveyEnds, outcome_surveyOneByOne]
    cases (corpus path).outcome with
    | error f => exact Iff.rfl
    | ok files => exact Pool.ends_iff hworkers (Pool.covered_surveyor _)
  · rw [outcome_surveyOneByOne, bind_eq_error]
    exact .inr ⟨files, hfiles, Pool.oneByOne_of_failure he _⟩

end Surveys

/-- Settings under which the search for clones fails as soon as there are two files. -/
def fractionalSettings : Settings :=
  { Settings.default with thresholds := { Thresholds.default with minSize := .float (.ofNat 2) } }

/-- An auditor that looks for a lock file whose name is too long. -/
def overlongAuditor : Auditor :=
  { Auditor.silent with lockFiles := [String.ofList (List.replicate 256 'n')] }

theorem outcome_dependencies (w : World) (settings : Settings) (auditor : Auditor) (path : String)
    (files : List SourceFile) :
    Pool.outcome (Analyses.ofFiles w settings auditor path files) .dependencies =
      (auditor.audit w path).outcome := rfl

theorem audit_of_long_name {a : Auditor} {name : String} {rest : List String}
    (hfiles : a.lockFiles = name :: rest) (hne : name ≠ "" ∧ name ≠ ".")
    (hfree : '/' ∉ name.toList ∧ '\x00' ∉ name.toList)
    (hlong : Tree.nameLimit < name.utf8ByteSize) :
    (a.audit emptyWorld ".").outcome =
      .error (.unreachable .nameTooLong (Route.text ⟨"", [name]⟩)) := by
  have hroute : (Route.ofText ".").join (Route.ofText name) = ⟨"", [name]⟩ := by
    rw [Route.ofText_of_not_mem hne.1 hne.2 hfree.1]
    rfl
  have hreaches : emptyWorld.reaches ⟨"", [name]⟩ =
      .error (.unreachable .nameTooLong (Route.text ⟨"", [name]⟩)) :=
    World.reaches_of_long_name rfl hfree.2 hlong
  have hlock : Manifest.hasLockFile emptyWorld (Route.ofText ".") a.lockFiles =
      .error (.unreachable .nameTooLong (Route.text ⟨"", [name]⟩)) := by
    rw [hfiles, Manifest.hasLockFile, hroute, hreaches]
    rfl
  rw [Auditor.audit, hlock]
  rfl

theorem audit_overlongAuditor : ∃ f, (overlongAuditor.audit emptyWorld ".").outcome = .error f := by
  have hfree (c : Char) (hc : c ≠ 'n') : c ∉ (String.ofList (List.replicate 256 'n')).toList := by
    rw [String.toList_ofList]
    exact fun hmem => hc (List.eq_of_mem_replicate hmem)
  exact ⟨_, audit_of_long_name rfl (by decide +kernel) ⟨hfree _ (by decide),
    hfree _ (by decide)⟩ (by decide +kernel)⟩

/-- Two files without a line in them. -/
def twoFiles : List SourceFile := [⟨"a.js", ""⟩, ⟨"b.js", ""⟩]

/-- Two analyses fail, and the one that is submitted first counts, whichever fails first. -/
theorem survey_on_pool_two_failures :
    Pool.failure? (Analyses.ofFiles emptyWorld fractionalSettings overlongAuditor "." twoFiles)
    .duplication =
        some (.misuse (.notInteger .float)) ∧
      (Pool.failure? (Analyses.ofFiles emptyWorld fractionalSettings overlongAuditor "." twoFiles)
        .dependencies).isSome = true ∧
      SurveyEnds emptyWorld fractionalSettings (fun _ => pure twoFiles) overlongAuditor "." 2
        (.error (.misuse (.notInteger .float))) := by
  have hfirst : Pool.Task.all.findSome? (Pool.failure?
      (Analyses.ofFiles emptyWorld fractionalSettings overlongAuditor "." twoFiles)) =
      some (.misuse (.notInteger .float)) := by decide +kernel
  have htwo : 1 ≤ 2 := by decide
  obtain ⟨hends, -, hfailure⟩ :=
    survey_on_pool emptyWorld fractionalSettings (fun _ => pure twoFiles) overlongAuditor "." htwo
  have houtcome := outcome_dependencies emptyWorld fractionalSettings overlongAuditor "." twoFiles
  obtain ⟨f, hlast⟩ := audit_overlongAuditor
  exact ⟨by decide +kernel, Pool.isSome_failure? (houtcome.trans hlast),
    (hends _).2 (hfailure twoFiles _ rfl hfirst).symm⟩

end SourceSurvey
