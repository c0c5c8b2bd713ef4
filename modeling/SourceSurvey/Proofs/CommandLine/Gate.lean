import SourceSurvey.CommandLine.Basic
import SourceSurvey.Proofs.Survey
import SourceSurvey.Proofs.Value.Fields

/-!
# Failing on findings

With an option to fail on findings the exit code of a run that prints a report is one just when a
rule that counts applies to a line of a source file of the snapshot (`run_failOn`).  The option
changes nothing else: arguments that ask for the same without it print the same text.  That holds
for every front, however it reads arguments and shows reports.

* `Prints`: a run that prints a report, and how it ends;
* `withoutFailOn`: for the usual reader the arguments without the option are arguments that ask for
  the same without it (`Front.read_usual_withoutFailOn`).
-/

namespace SourceSurvey.CommandLine

/-! ## Arguments without the option -/

/-- Whether an argument is about an option. -/
def Partial.isAbout (p : Partial) (name : Name) : Bool :=
  p.waiting = some name || p.given.any fun (n, _) => n = name

/-- The arguments without the option to fail on findings, where the first may be the value of an
option that waits for it. -/
def dropFailOn : Option Name → List String → List String
  | _, [] => []
  | some name, value :: rest =>
    if name = .failOn then dropFailOn none rest else value :: dropFailOn none rest
  | none, argument :: rest =>
    if argument = "--" then argument :: rest
    else
      match readArgument argument with
      | .error _ => argument :: rest
      | .ok p =>
        if p.isAbout .failOn then dropFailOn p.waiting rest
        else argument :: dropFailOn p.waiting rest

/-- The arguments without the option to fail on findings. -/
def withoutFailOn (arguments : List String) : List String := dropFailOn none arguments

/-- The options that are given without the option to fail on findings. -/
def Given.withoutFailOn (given : Given) : Given := given.filter fun (name, _) => name ≠ .failOn

theorem shortNames_ne_failOn {c : Char} {name : Name} (h : Name.shortNames.lookup c = some name) :
    name ≠ .failOn := by
  rintro rfl
  obtain ⟨before, after, hnames, -⟩ := List.lookup_eq_some_iff.1 h
  have hmem : (c, Name.failOn) ∈ Name.shortNames := by simp [hnames]
  simp [Name.shortNames] at hmem

/-- Letters behind a single dash are never about the option. -/
theorem readShort_isAbout {cs : List Char} {p : Partial} (h : readShort cs = .ok p) :
    p.isAbout .failOn = false := by
  induction cs generalizing p with
  | nil =>
    obtain rfl := Except.ok.inj h
    rfl
  | cons c cs ih =>
    rw [readShort] at h
    cases hname : Name.shortNames.lookup c with
    | none => simp [hname] at h
    | some name =>
      have hne : name ≠ .failOn := shortNames_ne_failOn hname
      simp only [hname] at h
      split_ifs at h with hvalue hempty
      · obtain rfl := Except.ok.inj h
        simp [Partial.isAbout, hne]
      · obtain rfl := Except.ok.inj h
        simp [Partial.isAbout, hne]
      · obtain ⟨q, hrest, rfl⟩ := map_eq_ok.1 h
        have hq := ih hrest
        simp only [Partial.isAbout, Bool.or_eq_false_iff] at hq ⊢
        simpa [hne] using hq

/-- An argument behind two dashes is about one option. -/
theorem readLong_isAbout {argument : List Char} {p : Partial} (h : readLong argument = .ok p)
    (habout : p.isAbout .failOn = true) :
    (∃ v, p = ⟨[(.failOn, v)], none⟩) ∨ p = ⟨[], some .failOn⟩ := by
  unfold readLong at h
  dsimp only at h
  split at h
  · exact absurd h (by simp)
  · rename_i name v _ _
    split_ifs at h with hvalue
    obtain rfl := Except.ok.inj h
    obtain rfl : name = .failOn := by simpa [Partial.isAbout] using habout
    exact .inl ⟨_, rfl⟩
  · rename_i name _ _
    obtain rfl := Except.ok.inj h
    split_ifs at habout ⊢ with hvalue
    · obtain rfl : name = .failOn := by simpa [Partial.isAbout] using habout
      exact .inr rfl
    · obtain rfl : name = .failOn := by simpa [Partial.isAbout] using habout
      exact absurd rfl hvalue

/-- An argument about the option is its name, with or without a value. -/
theorem readArgument_isAbout {argument : String} {p : Partial} (h : readArgument argument = .ok p)
    (habout : p.isAbout .failOn = true) :
    (∃ v, p = ⟨[(.failOn, v)], none⟩) ∨ p = ⟨[], some .failOn⟩ := by
  unfold readArgument at h
  split at h
  · exact readLong_isAbout h habout
  · rw [readShort_isAbout h] at habout
    exact absurd habout (by simp)
  · exact absurd h (by simp)

/-- What an argument that is not about the option gives stays. -/
theorem Partial.withoutFailOn_given {p : Partial} (h : p.isAbout .failOn = false) :
    Given.withoutFailOn p.given = p.given := by
  simp only [Partial.isAbout, Bool.or_eq_false_iff, List.any_eq_false, decide_eq_true_eq] at h
  exact List.filter_eq_self.2 fun x hx => by simpa using h.2 x hx

/-- **Reading the arguments without the option** gives the other options.  While the option waits
for its value, which is dropped with it, nothing waits in the arguments that are left. -/
theorem readFrom_dropFailOn {waiting : Option Name} {arguments : List String} {given : Given}
    (h : readFrom waiting arguments = .ok given) :
    readFrom (if waiting = some .failOn then none else waiting) (dropFailOn waiting arguments) =
      .ok given.withoutFailOn := by
  induction arguments generalizing waiting given with
  | nil =>
    cases waiting with
    | none =>
      obtain rfl := Except.ok.inj h
      rfl
    | some name => exact absurd h (by simp [readFrom])
  | cons argument rest ih =>
    cases waiting with
    | some name =>
      rw [readFrom] at h
      obtain ⟨later, hrest, rfl⟩ := map_eq_ok.1 h
      have hlater := ih hrest
      simp only [reduceCtorEq, if_false] at hlater
      by_cases hname : name = .failOn
      · subst hname
        simpa [dropFailOn, Given.withoutFailOn] using hlater
      · simp [dropFailOn, hname, readFrom, hlater, Except.map, Given.withoutFailOn]
    | none =>
      by_cases hend : argument = "--"
      · subst hend
        rw [readFrom, if_pos rfl] at h
        split_ifs at h with hempty
        obtain rfl := Except.ok.inj h
        simp [dropFailOn, readFrom, hempty, Given.withoutFailOn]
      · rw [readFrom, if_neg hend] at h
        cases hread : readArgument argument with
        | error flaw => simp [hread] at h
        | ok p =>
          simp only [hread] at h
          obtain ⟨later, hrest, rfl⟩ := map_eq_ok.1 h
          have hlater := ih hrest
          by_cases habout : p.isAbout .failOn = true
          · -- the argument goes, and so does its value if that is the next one
            rcases readArgument_isAbout hread habout with ⟨v, rfl⟩ | rfl
            · simpa [dropFailOn, hend, hread, habout, Given.withoutFailOn] using hlater
            · simpa [dropFailOn, hend, hread, habout, Given.withoutFailOn] using hlater
          · rw [Bool.not_eq_true] at habout
            have hwaiting : p.waiting ≠ some .failOn := by
              intro hp
              simp [Partial.isAbout, hp] at habout
            have hgiven := Partial.withoutFailOn_given habout
            rw [if_neg hwaiting] at hlater
            have happend : (p.given ++ later).withoutFailOn = p.given ++ later.withoutFailOn :=
              (List.filter_append ..).trans (congrArg (· ++ _) hgiven)
            simp [dropFailOn, hend, hread, habout, readFrom, hlater, Except.map, happend]

/-- What is left of the arguments stands in the same order. -/
theorem dropFailOn_sublist (waiting : Option Name) (arguments : List String) :
    (dropFailOn waiting arguments).Sublist arguments := by
  induction arguments generalizing waiting with
  | nil => cases waiting <;> exact .slnil
  | cons argument rest ih =>
    cases waiting with
    | some name =>
      rw [dropFailOn]
      split_ifs
      · exact (ih none).cons argument
      · exact (ih none).cons_cons argument
    | none =>
      rw [dropFailOn]
      split_ifs
      · exact .refl _
      · cases readArgument argument with
        | error flaw => exact .refl _
        | ok p =>
          dsimp only
          split_ifs
          · exact (ih p.waiting).cons argument
          · exact (ih p.waiting).cons_cons argument

theorem read_withoutFailOn {arguments : List String} {given : Given}
    (h : read arguments = .ok given) :
    read (withoutFailOn arguments) = .ok given.withoutFailOn :=
  readFrom_dropFailOn h

/-! ## Options without the option -/

theorem value?_withoutFailOn {given : Given} {name : Name} (h : name ≠ .failOn) :
    value? given.withoutFailOn name = value? given name := by
  rw [value?, value?, Given.withoutFailOn, ← List.filter_reverse]
  exact Value.lookup_filter (fun _ => decide_eq_true h) _

@[simp] theorem value?_withoutFailOn_failOn (given : Given) :
    value? given.withoutFailOn .failOn = none := by
  rw [value?, List.lookup_eq_none_iff]
  intro x hx
  have hne := (List.mem_filter.1 (List.mem_reverse.1 hx)).2
  exact bne_iff_ne.2 (Ne.symm (of_decide_eq_true hne))

theorem withValue_withoutFailOn {α : Type} {given : Given} {name : Name} (h : name ≠ .failOn)
    (read : String → Except Flaw α) :
    withValue given.withoutFailOn name read = withValue given name read := by
  rw [withValue, withValue, value?_withoutFailOn h]

theorem isGiven_withoutFailOn {given : Given} {name : Name} (h : name ≠ .failOn) :
    isGiven given.withoutFailOn name = isGiven given name := by
  rw [isGiven, isGiven, value?_withoutFailOn h]

/-- **The arguments without the option** ask for the same in everything else. -/
theorem Options.read_withoutFailOn {w : World} {arguments : List String} {o : Options}
    (h : Options.read w arguments = .ok o) :
    Options.read w (withoutFailOn arguments) = .ok { o with failOn := none } := by
  simp only [Options.read, bind_eq_ok] at h ⊢
  obtain ⟨given, hgiven, path, hpath, sections, hsections, failOn, -, config, hconfig, workers,
    hworkers, h⟩ := h
  obtain rfl := Except.ok.inj h
  have hfail : withValue given.withoutFailOn .failOn (choose failChoices) = .ok none := by
    rw [withValue, value?_withoutFailOn_failOn]
  refine ⟨_, CommandLine.read_withoutFailOn hgiven, path, ?_, sections, ?_, none, hfail,
    config, ?_, workers, ?_, ?_⟩
  · rwa [withValue_withoutFailOn (by decide)]
  · rwa [withValue_withoutFailOn (by decide)]
  · rwa [withValue_withoutFailOn (by decide)]
  · rwa [withValue_withoutFailOn (by decide)]
  · simp only [isGiven_withoutFailOn, ne_eq, reduceCtorEq, not_false_eq_true]
    rfl

theorem Front.read_usual {w : World} {arguments : List String} {o : Options}
    (h : Options.read w arguments = .ok o) : Front.usual.read w arguments = .ok o := by
  simp only [Front.usual, h, Except.mapError]

/-- For the usual reader the arguments without the option, which stand in the same order, ask for
the same in everything else. -/
theorem Front.read_usual_withoutFailOn {w : World} {arguments : List String} {o : Options}
    (h : Front.usual.read w arguments = .ok o) :
    (withoutFailOn arguments).Sublist arguments ∧
      Front.usual.read w (withoutFailOn arguments) = .ok { o with failOn := none } := by
  refine ⟨dropFailOn_sublist none arguments, ?_⟩
  cases hoptions : Options.read w arguments with
  | error flaw => simp [Front.usual, hoptions, Except.mapError] at h
  | ok found =>
    obtain rfl : found = o := Except.ok.inj ((Front.read_usual hoptions).symm.trans h)
    exact Front.read_usual (Options.read_withoutFailOn hoptions)

/-! ## The exit code -/

/-- The rules whose findings make a run fail. -/
def FailOn.counts : FailOn → Rule → Bool
  | .critical => Rule.isCritical
  | .any => fun _ => true

/-- The report that a run prints, and its text. -/
structure Prints (front : Front) (w : World) (o : Options) (settings : Settings) (report : Report)
    (text : String) : Prop where
  load : Settings.load w (o.config.map Route.ofText) o.overrides = .ok settings
  survey : (surveyWith w settings (o.project w)).outcome = .ok report
  print : (if o.json then Format.json else .display).print w.width o.sections report
    front.display = .ok text

/-- **A run that prints a report** ends with the answer whether the report makes it fail. -/
theorem Prints.run_eq {front : Front} {w : World} {arguments : List String} {o : Options}
    {settings : Settings} {report : Report} {text : String}
    (h : Prints front w o settings report text) (hread : front.read w arguments = .ok o)
    (hversion : o.showVersion = false) {failing : Bool}
    (hfails : fails o.failOn report = .ok failing) :
    (run w arguments front).outcome = .ok ⟨if failing then 1 else 0, text⟩ := by
  have hsurvey : (o.survey w front).outcome = .ok ⟨if failing then 1 else 0, text⟩ := by
    simp only [Options.survey, Traced.bind_ok, Traced.pure_ok]
    exact ⟨settings, h.load, report, h.survey, text, h.print, failing, orFail_ok.2 hfails, rfl⟩
  simp only [run, hread, hversion, Bool.false_eq_true, if_false, Traced.rescue, hsurvey]

/-- A report makes a run fail just when a rule that counts applies to a line of a source file. -/
theorem fails_surveyWith {w : World} {settings : Settings} {path : String} {report : Report}
    (h : (surveyWith w settings path).outcome = .ok report) (f : FailOn) :
    ∃ files failing, (Corpus.enumerate w (.usual settings) path).outcome = .ok files ∧
      fails (some f) report = .ok failing ∧
      (failing = true ↔
        Flagged f.counts Rule.all (files.filter fun file => isSourceFile file.path)) := by
  obtain ⟨files, hfiles, hissues, hcritical⟩ := SourceSurvey.survey_ok h
  cases f with
  | critical =>
    rw [fails, hcritical, Value.test_ofNat_pos]
    exact ⟨files, _, hfiles, rfl, decide_eq_true_iff.trans countIssues_pos_iff⟩
  | any =>
    rw [fails, hissues, Value.test_ofNat_pos]
    exact ⟨files, _, hfiles, rfl, decide_eq_true_iff.trans issues_pos_iff⟩

/-- **Failing on findings.**  Where a report is printed, the exit code is one if a rule that counts
applies to a line of a source file of the snapshot, and zero otherwise.  Arguments that read as the
same options without the option to fail print the same text, whatever the front. -/
theorem run_failOn {front : Front} {w : World} {arguments plain : List String} {o : Options}
    {f : FailOn} {settings : Settings} {report : Report} {text : String}
    (hread : front.read w arguments = .ok o) (hfail : o.failOn = some f)
    (hplain : front.read w plain = .ok { o with failOn := none }) (hversion : o.showVersion = false)
    (h : Prints front w o settings report text) :
    ∃ files code, (Corpus.enumerate w (.usual settings) (o.project w)).outcome = .ok files ∧
      (run w arguments front).outcome = .ok ⟨code, text⟩ ∧
      (let flagged := Flagged f.counts Rule.all (files.filter fun file => isSourceFile file.path)
       (flagged → code = 1) ∧ (¬ flagged → code = 0)) ∧
      (run w plain front).outcome = .ok ⟨0, text⟩ := by
  obtain ⟨files, failing, hfiles, hfails, hflagged⟩ := fails_surveyWith h.survey f
  have hprints : Prints front w { o with failOn := none } settings report text :=
    ⟨h.load, h.survey, h.print⟩
  refine ⟨files, _, hfiles, h.run_eq hread hversion (hfail ▸ hfails), ⟨?_, ?_⟩,
    hprints.run_eq hplain hversion rfl⟩
  · intro hsome
    rw [hflagged.2 hsome]
    rfl
  · intro hnone
    rw [Bool.eq_false_iff.2 fun hfailing => hnone (hflagged.1 hfailing)]
    rfl

/-- A project with a single line, which a critical rule applies to. -/
def oneLine : World where
  top := .directory [("p", .directory [("a.js", .file "eval(x)".toUTF8)])]
  here := ["p"]
  environment := []
  tool := fun _ => .missing
  clock := .int 0
  accessDenied := false
  width := 80

theorem run_failOn_oneLine :
    ∃ o settings report text,
      Front.usual.read oneLine ["--no-audit", "--fail-on", "critical"] = .ok o ∧
      o.failOn = some .critical ∧ o.showVersion = false ∧
      Prints .usual oneLine o settings report text ∧
      (run oneLine ["--no-audit", "--fail-on", "critical"]).outcome = .ok ⟨1, text⟩ ∧
      (run oneLine (withoutFailOn ["--no-audit", "--fail-on", "critical"])).outcome =
        .ok ⟨0, text⟩ := by
  have heval :
      ((Options.read oneLine ["--no-audit", "--fail-on", "critical"]).toOption.bind fun o =>
      (Settings.load oneLine (o.config.map Route.ofText) o.overrides).toOption.bind fun settings =>
      (surveyWith oneLine settings (o.project oneLine)).outcome.toOption.bind fun report =>
      ((if o.json then Format.json else .display).print oneLine.width o.sections
        report).toOption.map fun _ => (o.failOn, o.showVersion, (fails o.failOn report).toOption)) =
      some (some .critical, false, some true) := by
    decide +kernel
  simp only [Option.bind_eq_some_iff, Option.map_eq_some_iff, toOption_eq_some,
    Prod.mk.injEq] at heval
  obtain ⟨o, hoptions, settings, hload, report, hsurvey, text, hprint, hfail, hversion, hfails⟩ :=
    heval
  have h : Prints .usual oneLine o settings report text := ⟨hload, hsurvey, hprint⟩
  have hread := Front.read_usual hoptions
  obtain ⟨files, code, -, -, -, hplain⟩ :=
    run_failOn hread hfail (Front.read_usual_withoutFailOn hread).2 hversion h
  exact ⟨o, settings, report, text, hread, hfail, hversion, h,
    h.run_eq hread hversion hfails, hplain⟩

end SourceSurvey.CommandLine
