import SourceSurvey.Proofs.Journal.History

/-!
# Names of loggers

`loggerName` puts a name below the program's if it does not begin with it, and looks at letters only
for that.  Whether the logger is heard is a matter of points.  A name that begins with the program's
name and goes on with something else than a point leads astray: no one hears its logger (`Strays`,
`heard_nowhere_iff`).  With two points behind the program's name it depends on the other loggers
(`Doubled`).  All other names are heard whatever loggers there are (`heard_everywhere_iff`).
`receivers_loggerName` says where the records of a name go after any calls.
-/

namespace SourceSurvey

open Text (CodePoint Wide)

/-- A name that begins with the program's name and goes on, but not with a point. -/
def Strays (name : Option Wide) : Prop :=
  ∃ c rest, name = some (rootLogger ++ c :: rest) ∧ c ≠ point

/-- A name whose logger has two points behind the program's name. -/
def Doubled (name : Option Wide) : Prop :=
  ∃ rest, loggerName name = rootLogger ++ point :: point :: rest

@[simp] theorem loggerName_append (rest : Wide) :
    loggerName (some (rootLogger ++ rest)) = rootLogger ++ rest := by
  have hstarts : rootLogger.isPrefixOf (rootLogger ++ rest) = true :=
    List.isPrefixOf_iff_prefix.2 (List.prefix_append _ _)
  rw [loggerName, if_pos hstarts]

theorem Strays.loggerName_eq {name : Option Wide} (h : Strays name) :
    ∃ c rest, loggerName name = rootLogger ++ c :: rest ∧ c ≠ point := by
  obtain ⟨c, rest, rfl, hc⟩ := h
  exact ⟨c, rest, loggerName_append _, hc⟩

/-- The loggers that names can have. -/
theorem loggerName_cases (name : Option Wide) : loggerName name = rootLogger ∨ Strays name ∨
    Doubled name ∨ ∃ rest, loggerName name = rootLogger ++ point :: rest ∧
    rest.head? ≠ some point := by
  -- a name that goes on with a point, by what follows it
  have hpoint {rest : Wide} (h : loggerName name = rootLogger ++ point :: rest) : Doubled name ∨
      ∃ rest, loggerName name = rootLogger ++ point :: rest ∧ rest.head? ≠ some point := by
    by_cases hhead : rest.head? = some point
    · obtain ⟨more, rfl⟩ := List.head?_eq_some_iff.1 hhead
      exact .inl ⟨more, h⟩
    · exact .inr ⟨rest, h, hhead⟩
  cases name with
  | none => exact .inl rfl
  | some name =>
    by_cases hstarts : rootLogger.isPrefixOf name = true
    · obtain ⟨rest, rfl⟩ := List.isPrefixOf_iff_prefix.1 hstarts
      cases rest with
      | nil => exact .inl (loggerName_append [] |>.trans (List.append_nil _))
      | cons c rest =>
        by_cases hc : c = point
        · subst hc
          exact .inr (.inr (hpoint (loggerName_append _)))
        · exact .inr (.inl ⟨c, rest, rfl, hc⟩)
    · exact .inr (.inr (hpoint (if_neg hstarts)))

/-- A name whose logger has two points is heard among some loggers and not among others. -/
theorem Doubled.heard {name : Option Wide} (h : Doubled name) :
    (∃ loggers, Logger.Heard loggers (loggerName name)) ∧
      ∃ loggers, ¬ Logger.Heard loggers (loggerName name) := by
  obtain ⟨rest, hname⟩ := h
  rw [hname]
  refine ⟨⟨(point :: rest).inits.map (rootLogger ++ point :: ·), Logger.heard_of_all ?_⟩,
    ⟨rest.inits.map (rootLogger ++ point :: point :: ·), Logger.not_heard_of_all ?_ ?_⟩⟩
  · intro front tail htail
    exact List.mem_map_of_mem ((List.mem_inits _ _).2 ⟨_, htail.symm⟩)
  · intro front tail htail
    exact List.mem_map_of_mem ((List.mem_inits _ _).2 ⟨_, htail.symm⟩)
  · intro hmem
    obtain ⟨front, -, hfront⟩ := List.mem_map.1 hmem
    simpa using congrArg List.length hfront

/-- **The names that are heard among all loggers.** -/
theorem heard_everywhere_iff {name : Option Wide} :
    (∀ loggers, Logger.Heard loggers (loggerName name)) ↔ ¬ Strays name ∧ ¬ Doubled name := by
  constructor
  · intro hall
    refine ⟨fun hstrays => ?_, fun hdoubled => ?_⟩
    · obtain ⟨c, rest, hname, hc⟩ := hstrays.loggerName_eq
      exact Logger.not_heard_of_ne hc (hname ▸ hall [])
    · obtain ⟨-, loggers, hnot⟩ := hdoubled.heard
      exact hnot (hall loggers)
  · rintro ⟨hstays, hsingle⟩ loggers
    rcases loggerName_cases name with hroot | hstrays | hdoubled | ⟨rest, hname, hhead⟩
    · rw [hroot]
      exact .root
    · exact absurd hstrays hstays
    · exact absurd hdoubled hsingle
    · rw [hname]
      exact Logger.heard_of_below hhead

/-- **The names that are heard among no loggers.** -/
theorem heard_nowhere_iff {name : Option Wide} :
    (∀ loggers, ¬ Logger.Heard loggers (loggerName name)) ↔ Strays name := by
  constructor
  · intro hnone
    by_contra hstays
    by_cases hdoubled : Doubled name
    · obtain ⟨⟨loggers, hheard⟩, -⟩ := hdoubled.heard
      exact hnone loggers hheard
    · exact hnone [] (heard_everywhere_iff.2 ⟨hstays, hdoubled⟩ [])
  · intro hstrays loggers
    obtain ⟨c, rest, hname, hc⟩ := hstrays.loggerName_eq
    rw [hname]
    exact Logger.not_heard_of_ne hc

namespace Logbook

/-- **Who is heard.**  After any calls, a record at or above the level of the set-up in force goes
to the handlers that this set-up has put in place if the logger of its name is heard; otherwise it
goes to none of them, and changes no file.  The logger of a name is heard among all loggers just
when the name neither strays nor has two points, and among none just when it strays. -/
theorem receivers_loggerName (here : Place) (top : Node) (loggers : List Wide)
    (encode : Wide → Option ByteArray) (calls : List Call) (n : ℕ) (name : Option Wide)
    (level : Level) (message : Wide) (time : String) :
    let book := fresh here top loggers encode
    let now := book.after calls n
    let e : Entry := ⟨loggerName name, level, message⟩
    (∀ k given, InForce book calls n k given → (Journal.levelFor given).weight ≤ level.weight →
        Logger.Heard now.loggers e.logger → ∃ file top, Opens (book.after calls k) given file top ∧
          now.journal.receivers now.loggers e = handlersOf file) ∧
      (¬ Logger.Heard now.loggers e.logger → now.journal.receivers now.loggers e = [] ∧
        (now.step (.log time e)).top = now.top) ∧
      ((∀ others, Logger.Heard others e.logger) ↔ ¬ Strays name ∧ ¬ Doubled name) ∧
      ((∀ others, ¬ Logger.Heard others e.logger) ↔ Strays name) := by
  intro book now e
  refine ⟨fun k given hforce hlevel hheard => ?_, fun hunheard => ?_, heard_everywhere_iff,
    heard_nowhere_iff⟩
  · obtain ⟨⟨file, top, hopens, hhandlers⟩, hwanted⟩ := hforce.installed
    have htakes : now.journal.takes now.loggers e = true :=
      Journal.takes_iff.2 ⟨hheard, hwanted.symm ▸ hlevel⟩
    refine ⟨file, top, hopens, ?_⟩
    rw [Journal.receivers, if_pos htakes]
    exact hhandlers
  · have hnone : now.journal.receivers now.loggers e = [] :=
      if_neg fun htakes => hunheard (Journal.takes_iff.1 htakes).1
    refine ⟨hnone, ?_⟩
    rw [step_log, Journal.add, hnone]
    rfl

/-- A set-up with a log file, and someone who logs below the program's own logger: the display and
the file hear it. -/
theorem receivers_loggerName_module :
    let book := fresh [] (.directory [])
    let given := [("quiet", .bool true), ("log_file", .str "a")]
    let now := book.after [.setUp given] 1
    let e : Entry :=
      ⟨loggerName (some (Wide.ofText "code_insight.aggregator")), .error, Wide.ofText "m"⟩
    InForce book [.setUp given] 1 0 given ∧ Logger.Heard now.loggers e.logger ∧
      now.journal.receivers now.loggers e = [.display, .file ["a"]] := by
  intro book given now e
  have hforce : InForce book [.setUp given] 1 0 given :=
    ⟨by decide, rfl, rfl, fun i _ hi hlt => absurd hlt (by omega)⟩
  have hlogger : e.logger = rootLogger ++ point :: Wide.ofText "aggregator" := by decide
  have hheard : Logger.Heard now.loggers e.logger := by
    rw [hlogger]
    exact Logger.heard_of_below (by decide)
  obtain ⟨hinstalled, -⟩ :=
    receivers_loggerName [] (.directory []) [] Text.Utf8.encode [.setUp given] 1
    (some (Wide.ofText "code_insight.aggregator")) .error (Wide.ofText "m") "12:00"
  obtain ⟨file, top, hopens, hreceivers⟩ := hinstalled 0 given hforce (by decide) hheard
  have hfile : file = some ["a"] := hopens.unique (.file rfl (by decide) rfl)
  exact ⟨hforce, hheard, hreceivers.trans (congrArg handlersOf hfile)⟩

/-- Someone whose name only begins like the program's is not heard among any loggers, although the
set-up in force has put the display in place and lets the record's level through. -/
theorem receivers_code_insightful :
    let book := fresh [] (.directory [])
    let now := book.after [.setUp []] 1
    let e : Entry := ⟨loggerName (some (Wide.ofText "code_insightful")), .critical, Wide.ofText "m"⟩
    InForce book [.setUp []] 1 0 [] ∧ now.journal.handlers = [.display] ∧
      (Journal.levelFor []).weight ≤ e.level.weight ∧
      ∀ others, ¬ Logger.Heard others e.logger ∧ now.journal.receivers others e = [] := by
  intro book now e
  have hstrays : Strays (some (Wide.ofText "code_insightful")) :=
    ⟨.ofChar 'f', Wide.ofText "ul", by decide, by decide⟩
  refine ⟨⟨by decide, rfl, rfl, fun i _ hi hlt => absurd hlt (by omega)⟩, rfl, by decide, ?_⟩
  intro others
  have hunheard := heard_nowhere_iff.2 hstrays others
  exact ⟨hunheard, if_neg fun htakes => hunheard (Journal.takes_iff.1 htakes).1⟩

end Logbook

end SourceSurvey
