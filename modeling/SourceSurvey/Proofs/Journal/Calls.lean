import Mathlib.Tactic
import SourceSurvey.Proofs.Journal.Hierarchy
import SourceSurvey.Proofs.Trace
import SourceSurvey.Proofs.Tree.Edit

/-!
# What a call does to a logbook

A set-up that fails leaves the logbook as it is (`step_setUp_of_error`).  One that succeeds takes
all handlers away that were there, and puts the display in their place and behind it the log file,
if it gives one (`step_setUp_of_ok`).  A record that reaches the handlers adds its line to the file
of the journal, if the encoding can hold it, and to no other file (`bytesAt_step`).

* `Opens`: what a set-up does to the tree;
* `Sound`: the files of the handlers are there, and no handler is there twice.
-/

namespace SourceSurvey

open Text (Wide)

namespace Journal

variable {j : Journal} {loggers : List Wide} {e : Entry} {handler : Handler}

theorem takes_iff : j.takes loggers e = true ↔
    Logger.Heard loggers e.logger ∧ j.level.weight ≤ e.level.weight := by
  rw [takes, Bool.and_eq_true, Logger.isHeard_iff, decide_eq_true_iff]

theorem mem_receivers_iff : handler ∈ j.receivers loggers e ↔
    (Logger.Heard loggers e.logger ∧ j.level.weight ≤ e.level.weight) ∧ handler ∈ j.handlers := by
  rw [receivers, List.mem_ite_nil_right, takes_iff]

/-- That its own logger is there makes no difference for a record. -/
@[simp] theorem receivers_cons_self (j : Journal) (loggers : List Wide) (e : Entry) :
    j.receivers (e.logger :: loggers) e = j.receivers loggers e := by
  have htakes : j.takes (e.logger :: loggers) e = j.takes loggers e := by
    rw [Bool.eq_iff_iff, takes_iff, takes_iff, Logger.heard_cons_iff le_rfl]
  rw [receivers, receivers, htakes]

end Journal

namespace Logbook

variable {book : Logbook} {given : List (String × Value)} {top : Node} {wanted : Journal}
  {place : Place}

/-! ## Acts -/

section Acts

variable {α β : Type} {later : Logbook}

theorem run_bind_ok {x : Act α} {f : α → Act β} {a : α} (h : x.run.run book = (.ok a, later)) :
    (x >>= f).run.run book = (f a).run.run later := by
  rw [ExceptT.run_bind, StateT.run_bind, h]
  rfl

theorem run_bind_error {x : Act α} {f : α → Act β} {e : Failure}
    (h : x.run.run book = (.error e, later)) :
    (x >>= f).run.run book = (.error e, later) := by
  rw [ExceptT.run_bind, StateT.run_bind, h]
  rfl

@[simp] theorem run_get : (get : Act Logbook).run.run book = (.ok book, book) := rfl

@[simp] theorem run_modify (change : Logbook → Logbook) :
    (modify change : Act Unit).run.run book = (.ok (), change book) := rfl

end Acts

theorem run_detach (handlers : List Handler) (book : Logbook) :
    (handlers.forM detach).run.run book =
    (.ok (),
      { book with journal.handlers := handlers.foldl List.erase book.journal.handlers }) := by
  induction handlers generalizing book with
  | nil => rfl
  | cons handler handlers ih => exact ih _

theorem run_attach (handlers : List Handler) (book : Logbook) :
    (handlers.forM attach).run.run book =
    (.ok (), { book with journal.handlers := book.journal.handlers ++ handlers }) := by
  induction handlers generalizing book with
  | nil =>
    rw [List.append_nil]
    rfl
  | cons handler handlers ih =>
    have hrest := ih { book with journal.handlers := book.journal.handlers ++ [handler] }
    simp only [List.append_assoc, List.singleton_append] at hrest
    exact hrest

theorem foldl_erase_self (handlers : List Handler) : handlers.foldl List.erase handlers = [] := by
  induction handlers with
  | nil => rfl
  | cons handler handlers ih => rw [List.foldl_cons, List.erase_cons_head, ih]

theorem run_setUp_of_error {e : Failure} (h : Journal.setUp book.top book.here given = .error e) :
    (setUp given).run.run book = (.error e, book) := by
  have hwanted :
      (liftM (Journal.setUp book.top book.here given) : Act (Node × Journal)).run.run book =
      (.error e, book) := by
    rw [h]
    rfl
  unfold setUp
  rw [run_bind_ok run_get]
  exact run_bind_error hwanted

/-- What was there before the set-up is taken away in full, whatever it was. -/
theorem run_setUp_of_ok (h : Journal.setUp book.top book.here given = .ok (top, wanted)) :
    (setUp given).run.run book = (.ok (), { book with top := top, journal := wanted }) := by
  have hwanted :
      (liftM (Journal.setUp book.top book.here given) : Act (Node × Journal)).run.run book =
      (.ok (top, wanted), book) := by
    rw [h]
    rfl
  unfold setUp
  rw [run_bind_ok run_get, run_bind_ok hwanted]
  dsimp only
  rw [run_bind_ok (run_modify _), run_bind_ok (run_detach _ _),
    run_bind_ok (run_attach _ _), run_modify]
  simp only [foldl_erase_self, List.nil_append]

/-! ## Set-ups -/

/-- A set-up opens no file when none is given, and else the file that its path names, which may make
it. -/
inductive Opens (book : Logbook) (given : List (String × Value)) : Option Place → Node → Prop where
  | nothing (h : Journal.isSet given "log_file" = false) : Opens book given none book.top
  | file {path : String} {place : Place} {top : Node}
    (hpath : given.lookup "log_file" = some (.str path))
    (hne : path ≠ "") (h : Journal.openLog book.top book.here path = .ok (top, place)) :
    Opens book given (some place) top

theorem isSet_of_path {path : String} (hpath : given.lookup "log_file" = some (.str path))
    (hne : path ≠ "") :
    Journal.isSet given "log_file" = true := by
  simp [Journal.isSet, hpath, Value.truthy, hne]

theorem Opens.unique {file file' : Option Place} {top' : Node} (h : Opens book given file top)
    (h' : Opens book given file' top') : file = file' := by
  cases h with
  | nothing hunset =>
    cases h' with
    | nothing _ => rfl
    | file hpath hne _ =>
      exact absurd (hunset.symm.trans (isSet_of_path hpath hne)) Bool.false_ne_true
  | file hpath hne hopen =>
    cases h' with
    | nothing hunset =>
      exact absurd (hunset.symm.trans (isSet_of_path hpath hne)) Bool.false_ne_true
    | file hpath' _ hopen' =>
      obtain rfl := Value.str.inj (Option.some.inj (hpath.symm.trans hpath'))
      exact congrArg _ (Prod.mk.inj (Except.ok.inj (hopen.symm.trans hopen'))).2

/-- The handlers for a file, if there is one. -/
def handlersOf (file : Option Place) : List Handler := .display :: (file.map Handler.file).toList

@[simp] theorem mem_handlersOf {file : Option Place} :
    .file place ∈ handlersOf file ↔ file = some place := by
  cases file <;> simp [handlersOf, eq_comm]

theorem handlersFor_eq_ok_iff {handlers : List Handler} :
    Journal.handlersFor book.top book.here given = .ok (top, handlers) ↔
      ∃ file, Opens book given file top ∧ handlers = handlersOf file := by
  rw [Journal.handlersFor]
  cases hset : Journal.isSet given "log_file" with
  | false =>
    rw [if_neg Bool.false_ne_true]
    constructor
    · intro h
      obtain ⟨rfl, rfl⟩ := Prod.mk.inj (Except.ok.inj h)
      exact ⟨none, .nothing hset, rfl⟩
    · rintro ⟨file, hopens, rfl⟩
      obtain rfl := hopens.unique (.nothing hset)
      cases hopens
      rfl
  | true =>
    rw [if_pos rfl]
    cases hfile : given.lookup "log_file" with
    | none => simp [Journal.isSet, hfile, Value.truthy] at hset
    | some value =>
      cases value with
      | str path =>
        have hne : path ≠ "" := by simpa [Journal.isSet, hfile, Value.truthy] using hset
        simp only [Option.getD_some, bind_eq_ok, Prod.exists]
        constructor
        · rintro ⟨top', place, hopen, h⟩
          obtain ⟨rfl, rfl⟩ := Prod.mk.inj (Except.ok.inj h)
          exact ⟨some place, .file hfile hne hopen, rfl⟩
        · rintro ⟨file, hopens, rfl⟩
          cases hopens with
          | nothing hunset => exact absurd (hunset.symm.trans hset) Bool.false_ne_true
          | file hpath _ hopen =>
            obtain rfl := Value.str.inj (Option.some.inj (hfile.symm.trans hpath))
            exact ⟨_, _, hopen, rfl⟩
      | _ =>
        -- a log file that is no path
        constructor
        · intro h
          cases h
        · rintro ⟨file, hopens, -⟩
          cases hopens with
          | nothing hunset => exact absurd (hunset.symm.trans hset) Bool.false_ne_true
          | file hpath _ _ => cases hfile.symm.trans hpath

/-- The options of a set-up are known. -/
def Known (given : List (String × Value)) : Prop := ∀ option ∈ given, option.1 ∈ Journal.options

@[simp] theorem checkOptions_eq_ok_iff : Journal.checkOptions given = .ok () ↔ Known given := by
  unfold Journal.checkOptions
  split
  · rename_i name value hfind
    have hmem := List.mem_of_find?_eq_some hfind
    have hunknown := List.find?_some hfind
    simp only [reduceCtorEq, false_iff, Known, not_forall]
    exact ⟨(name, value), hmem, by simpa using hunknown⟩
  · rename_i hfind
    simpa [Known] using hfind

theorem setUp_eq_ok_iff : Journal.setUp book.top book.here given = .ok (top, wanted) ↔
    Known given ∧ ∃ file, Opens book given file top ∧
    wanted = ⟨handlersOf file, Journal.levelFor given⟩ := by
  have hcheck {checked : Unit} :
      (liftM (Journal.checkOptions given) : Except Failure Unit) = .ok checked ↔ Known given :=
    orFail_ok.trans checkOptions_eq_ok_iff
  simp only [Journal.setUp, bind_eq_ok, hcheck, Prod.exists, handlersFor_eq_ok_iff]
  constructor
  · rintro ⟨-, hknown, opened, handlers, ⟨file, hopens, rfl⟩, h⟩
    obtain ⟨rfl, rfl⟩ := Prod.mk.inj (Except.ok.inj h)
    exact ⟨hknown, file, hopens, rfl⟩
  · rintro ⟨hknown, file, hopens, rfl⟩
    exact ⟨(), hknown, top, handlersOf file, ⟨file, hopens, rfl⟩, rfl⟩

/-- A set-up succeeds when its options are known and its log file, if it gives one, can be
opened. -/
theorem outcome_setUp_eq_ok_iff :
    book.outcome (.setUp given) = .ok () ↔ Known given ∧ ∃ file top, Opens book given file top := by
  cases h : Journal.setUp book.top book.here given with
  | ok made =>
    obtain ⟨top, wanted⟩ := made
    obtain ⟨hknown, file, hopens, -⟩ := setUp_eq_ok_iff.1 h
    have hok : book.outcome (.setUp given) = .ok () := congrArg Prod.fst (run_setUp_of_ok h)
    exact iff_of_true hok ⟨hknown, file, top, hopens⟩
  | error e =>
    have herror : book.outcome (.setUp given) = .error e := congrArg Prod.fst (run_setUp_of_error h)
    rw [herror]
    refine iff_of_false (fun hok => by cases hok) ?_
    rintro ⟨hknown, file, top, hopens⟩
    rw [setUp_eq_ok_iff.2 ⟨hknown, file, hopens, rfl⟩] at h
    cases h

/-- **A set-up that succeeds** replaces what was there. -/
theorem step_setUp_of_ok (h : book.outcome (.setUp given) = .ok ()) :
    ∃ file top, Opens book given file top ∧
    book.step (.setUp given) =
      { book with top := top, journal := ⟨handlersOf file, Journal.levelFor given⟩ } := by
  obtain ⟨hknown, file, top, hopens⟩ := outcome_setUp_eq_ok_iff.1 h
  have hmade := setUp_eq_ok_iff.2 ⟨hknown, file, hopens, rfl⟩
  exact ⟨file, top, hopens, congrArg Prod.snd (run_setUp_of_ok hmade)⟩

/-- **A set-up that fails** changes nothing. -/
theorem step_setUp_of_error {e : Failure} (h : book.outcome (.setUp given) = .error e) :
    book.step (.setUp given) = book := by
  cases hmade : Journal.setUp book.top book.here given with
  | ok made =>
    have hok : book.outcome (.setUp given) = .ok () := congrArg Prod.fst (run_setUp_of_ok hmade)
    rw [hok] at h
    cases h
  | error e => exact congrArg Prod.snd (run_setUp_of_error hmade)

/-! ## What is written -/

/-- A text with a half of a pair in it has no bytes in UTF-8. -/
theorem encode_of_mem {text : Wide} {p : Text.CodePoint} (hmem : p ∈ text) (hp : p.char? = none) :
    Text.Utf8.encode text = none := by
  have hchars : text.mapM Text.CodePoint.char? = none := by
    induction text with
    | nil => cases hmem
    | cons q text ih =>
      rw [List.mapM_cons]
      rcases List.mem_cons.1 hmem with rfl | hmem
      · rw [hp]
        rfl
      · rw [ih hmem]
        cases q.char? <;> rfl
  rw [Text.Utf8.encode, Text.Wide.text?, hchars]
  rfl

/-- The bytes in the file at a place; none when there is no file. -/
def bytesAt (book : Logbook) (place : Place) : ByteArray :=
  (book.top.fileAt place).getD ByteArray.empty

/-- The files of the handlers are there, and no handler is there twice. -/
structure Sound (book : Logbook) : Prop where
  files : ∀ place, .file place ∈ book.journal.handlers → (book.top.fileAt place).isSome
  nodup : book.journal.handlers.Nodup

/-- The bytes that a call writes to the file at a place. -/
def written (book : Logbook) (place : Place) : Call → ByteArray
  | .log time e =>
    if .file place ∈ book.journal.receivers book.loggers e then
      (book.encode (e.line time)).getD ByteArray.empty
    else ByteArray.empty
  | .setUp _ | .make _ => ByteArray.empty

theorem sound_fresh (here : Place) (top : Node) (loggers : List Wide)
    (encode : Wide → Option ByteArray) : Sound (fresh here top loggers encode) :=
  ⟨by simp [fresh, Journal.unset], List.nodup_nil⟩

/-- Opening a file changes no text, and afterwards the file is there. -/
theorem Opens.fileAt {file : Option Place} (h : Opens book given file top) :
    (∀ place, (top.fileAt place).getD ByteArray.empty = book.bytesAt place) ∧
      ∀ place, (book.top.fileAt place).isSome ∨ file = some place → (top.fileAt place).isSome := by
  cases h with
  | nothing _ => exact ⟨fun _ => rfl, by simp⟩
  | @file path opened top hpath hne hopen =>
    have hfiles := Tree.fileAt_openFile hopen
    have hself : top.fileAt opened = some (book.bytesAt opened) := by
      rw [hfiles, Function.update_self, bytesAt]
    have hother {place : Place} (hne : place ≠ opened) : top.fileAt place =
        book.top.fileAt place := by
      rw [hfiles, Function.update_of_ne hne]
    refine ⟨fun place => ?_, fun place hplace => ?_⟩
    · by_cases hne : place = opened
      · rw [hne, hself, Option.getD_some]
      · rw [hother hne, bytesAt]
    · by_cases hne : place = opened
      · rw [hne, hself, Option.isSome_some]
      · rw [hother hne]
        exact hplace.resolve_right fun hopened => hne (Option.some.inj hopened).symm

theorem foldl_write_none (handlers : List Handler) (top : Node) :
    handlers.foldl (Handler.write none) top = top := by
  induction handlers with
  | nil => rfl
  | cons handler handlers ih => cases handler <;> exact ih

/-- Bytes go to the end of each file among handlers, once, and to no other file. -/
theorem fileAt_write {handlers : List Handler} (hnodup : handlers.Nodup) {top : Node}
    (hfiles : ∀ place, .file place ∈ handlers → (top.fileAt place).isSome)
    (bytes : Option ByteArray) :
    (∀ place, ((handlers.foldl (Handler.write bytes) top).fileAt place).getD ByteArray.empty =
        (top.fileAt place).getD ByteArray.empty ++
          (if .file place ∈ handlers then bytes.getD ByteArray.empty else ByteArray.empty)) ∧
      ∀ place, (top.fileAt place).isSome →
        ((handlers.foldl (Handler.write bytes) top).fileAt place).isSome := by
  cases bytes with
  | none =>
    rw [foldl_write_none]
    refine ⟨fun place => ?_, fun _ => id⟩
    rw [Option.getD_none, ite_self, ByteArray.append_empty]
  | some line =>
    induction handlers generalizing top with
    | nil =>
      refine ⟨fun place => ?_, fun _ => id⟩
      rw [List.foldl_nil, if_neg List.not_mem_nil, ByteArray.append_empty]
    | cons handler handlers ih =>
      obtain ⟨hnew, hrest⟩ := List.nodup_cons.1 hnodup
      rw [List.foldl_cons]
      cases handler with
      | display =>
        simpa [Handler.write] using ih hrest fun place hmem =>
          hfiles place (List.mem_cons_of_mem _ hmem)
      | file written =>
        obtain ⟨data, hdata⟩ := Option.isSome_iff_exists.1 (hfiles written List.mem_cons_self)
        have happend : (Handler.write (some line) top (.file written)).fileAt = _ :=
          Tree.fileAt_append hdata line
        have hkept : ∀ place, (top.fileAt place).isSome →
            ((Handler.write (some line) top (.file written)).fileAt place).isSome := by
          intro place hplace
          rw [happend]
          by_cases hne : place = written
          · rw [hne, Function.update_self, Option.isSome_some]
          · rwa [Function.update_of_ne hne]
        obtain ⟨hbytes, hsome⟩ :=
          ih hrest fun place hmem => hkept place (hfiles place (List.mem_cons_of_mem _ hmem))
        refine ⟨fun place => ?_, fun place hplace => hsome place (hkept place hplace)⟩
        rw [hbytes, happend]
        by_cases hne : place = written
        · subst hne
          rw [Function.update_self, if_neg hnew, if_pos List.mem_cons_self, hdata]
          simp only [Option.getD_some, ByteArray.append_empty]
        · rw [Function.update_of_ne hne]
          simp [hne]

theorem nodup_handlersOf (file : Option Place) : (handlersOf file).Nodup := by
  cases file <;> simp [handlersOf]

@[simp] theorem step_make (book : Logbook) (logger : Wide) :
    book.step (.make logger) = { book with loggers := logger :: book.loggers } := rfl

theorem step_log (book : Logbook) (time : String) (e : Entry) :
    book.step (.log time e) = { book with
      top := book.journal.add book.loggers book.encode time e book.top
      loggers := e.logger :: book.loggers } := by
  have hstep : book.step (.log time e) = { book with
      top := book.journal.add (e.logger :: book.loggers) book.encode time e book.top
      loggers := e.logger :: book.loggers } := rfl
  rw [hstep, Journal.add, Journal.receivers_cons_self, Journal.add]

theorem receivers_eq (j : Journal) (loggers : List Wide) (e : Entry) :
    j.receivers loggers e = j.handlers ∨ j.receivers loggers e = [] :=
  ite_eq_or_eq _ _ _

/-- What the files hold after a record. -/
theorem Sound.fileAt_add (h : Sound book) (time : String) (e : Entry) :
    (∀ place, ((book.step (.log time e)).top.fileAt place).getD ByteArray.empty =
        book.bytesAt place ++ book.written place (.log time e)) ∧
      ∀ place, (book.top.fileAt place).isSome →
        ((book.step (.log time e)).top.fileAt place).isSome := by
  have hsublist : (book.journal.receivers book.loggers e).Sublist book.journal.handlers := by
    rcases receivers_eq book.journal book.loggers e with hall | hnone
    · rw [hall]
    · rw [hnone]
      exact List.nil_sublist _
  rw [step_log]
  exact fileAt_write (h.nodup.sublist hsublist)
    (fun place hmem => h.files place (hsublist.subset hmem))
    (book.encode (e.line time))

theorem sound_step (h : Sound book) (call : Call) : Sound (book.step call) := by
  cases call with
  | make logger => exact ⟨h.files, h.nodup⟩
  | log time e =>
    have hjournal : (book.step (.log time e)).journal = book.journal := by rw [step_log]
    refine ⟨fun place hmem => (h.fileAt_add time e).2 place (h.files place ?_), ?_⟩
    · rwa [hjournal] at hmem
    · rw [hjournal]
      exact h.nodup
  | setUp given =>
    cases houtcome : book.outcome (.setUp given) with
    | error e => rwa [step_setUp_of_error houtcome]
    | ok done =>
      obtain ⟨file, top, hopens, hstep⟩ := step_setUp_of_ok houtcome
      rw [hstep]
      exact ⟨fun place hmem => hopens.fileAt.2 place (.inr (mem_handlersOf.1 hmem)),
        nodup_handlersOf file⟩

/-- **What a call writes**: each file keeps its bytes, and those of a record that reaches the file
go behind them. -/
theorem bytesAt_step (h : Sound book) (call : Call) (place : Place) :
    (book.step call).bytesAt place = book.bytesAt place ++ book.written place call := by
  cases call with
  | make logger => exact ByteArray.append_empty.symm
  | log time e => exact (h.fileAt_add time e).1 place
  | setUp given =>
    have hkept : (book.step (.setUp given)).bytesAt place = book.bytesAt place := by
      cases houtcome : book.outcome (.setUp given) with
      | error e => rw [step_setUp_of_error houtcome]
      | ok done =>
        obtain ⟨file, top, hopens, hstep⟩ := step_setUp_of_ok houtcome
        rw [hstep]
        exact hopens.fileAt.1 place
    rw [hkept]
    exact ByteArray.append_empty.symm

/-- The encoding stays. -/
@[simp] theorem encode_step (book : Logbook) (call : Call) :
    (book.step call).encode = book.encode := by
  cases call with
  | make logger => rfl
  | log time e => rw [step_log]
  | setUp given =>
    cases houtcome : book.outcome (.setUp given) with
    | error e => rw [step_setUp_of_error houtcome]
    | ok done =>
      obtain ⟨file, top, -, hstep⟩ := step_setUp_of_ok houtcome
      rw [hstep]

end Logbook

end SourceSurvey
