import SourceSurvey.Proofs.Journal.Calls

/-!
# The history of a logbook

What a logbook is after any number of calls is said in terms of the calls alone.  The set-up in
force is the last one that did not fail (`InForce`): its handlers are those of the journal, and its
level is the level (`Installed`).  A file holds what it held in the beginning, and behind it, in
their order, the lines of those records that were logged while a set-up with this file was in force,
at its level or above, by someone who is heard, and that the encoding can hold (`Recorded`).  The
main statement is `journal_history`.
-/

namespace SourceSurvey.Logbook

open Text (Wide)

variable {book : Logbook} {calls : List Call} {given : List (String × Value)} {place : Place}
  {n k : ℕ}

/-- The logbook after the first `n` calls. -/
def after (book : Logbook) (calls : List Call) (n : ℕ) : Logbook := book.run (calls.take n)

theorem after_succ_of_some {call : Call} (h : calls[n]? = some call) :
    book.after calls (n + 1) = (book.after calls n).step call := by
  rw [after, List.take_add_one, h, run, List.foldl_append]
  rfl

theorem after_succ_of_none (h : calls[n]? = none) :
    book.after calls (n + 1) = book.after calls n := by
  rw [after, List.take_add_one, h, Option.toList_none, List.append_nil]
  rfl

/-! ## The set-up in force -/

/-- After `n` calls, the last set-up that did not fail is call `k`. -/
structure InForce (book : Logbook) (calls : List Call) (n k : ℕ)
    (given : List (String × Value)) : Prop where
  before : k < n
  call : calls[k]? = some (.setUp given)
  succeeds : (book.after calls k).outcome (.setUp given) = .ok ()
  last : ∀ i later, k < i → i < n → calls[i]? = some (.setUp later) →
    (book.after calls i).outcome (.setUp later) ≠ .ok ()

/-- What a set-up makes of the journal: one display, one file behind it if it opens one, and the
level, for which quiet wins over verbose. -/
structure Installed (book : Logbook) (given : List (String × Value)) (j : Journal) : Prop where
  handlers : ∃ file top, Opens book given file top ∧ j.handlers = handlersOf file
  level : j.level =
    if Journal.isSet given "quiet" then .error else if Journal.isSet given "verbose" then .debug
      else .warning

theorem installed_step (h : book.outcome (.setUp given) = .ok ()) :
    Installed book given (book.step (.setUp given)).journal := by
  obtain ⟨file, top, hopens, hstep⟩ := step_setUp_of_ok h
  rw [hstep]
  exact ⟨⟨file, top, hopens, rfl⟩, rfl⟩

theorem InForce.unique {k' : ℕ} {given' : List (String × Value)} (h : InForce book calls n k given)
    (h' : InForce book calls n k' given') : k = k' ∧ given = given' := by
  have hk : k = k' := by
    rcases Nat.lt_trichotomy k k' with hlt | heq | hgt
    · exact absurd h'.succeeds (h.last k' given' hlt h'.before h'.call)
    · exact heq
    · exact absurd h.succeeds (h'.last k given hgt h.before h.call)
  subst hk
  exact ⟨rfl, Call.setUp.inj (Option.some.inj (h.call.symm.trans h'.call))⟩

/-- A call that is no set-up, or a set-up that fails, leaves the set-up in force. -/
theorem inForce_succ_iff (h : ∀ later, calls[n]? = some (.setUp later) →
    (book.after calls n).outcome (.setUp later) ≠ .ok ()) :
    InForce book calls (n + 1) k given ↔ InForce book calls n k given := by
  constructor
  · rintro ⟨hbefore, hcall, hsucceeds, hlast⟩
    have hne : k ≠ n := by
      rintro rfl
      exact h given hcall hsucceeds
    exact ⟨by omega, hcall, hsucceeds, fun i later hki hin => hlast i later hki (by omega)⟩
  · rintro ⟨hbefore, hcall, hsucceeds, hlast⟩
    refine ⟨by omega, hcall, hsucceeds, fun i later hki hin hlater => ?_⟩
    rcases Nat.lt_succ_iff_lt_or_eq.1 hin with hlt | rfl
    · exact hlast i later hki hlt hlater
    · exact h later hlater

theorem inForce_self (hcall : calls[n]? = some (.setUp given))
    (hok : (book.after calls n).outcome (.setUp given) = .ok ()) :
    InForce book calls (n + 1) n given :=
  ⟨Nat.lt_succ_self n, hcall, hok, fun i _ hni hin => absurd hin (by omega)⟩

/-- **The journal after calls** is that of the set-up in force, and without one what it was in the
beginning. -/
theorem journal_after (book : Logbook) (calls : List Call) (n : ℕ) :
    (∃ k given, InForce book calls n k given ∧
      Installed (book.after calls k) given (book.after calls n).journal) ∨
      (∀ k given, ¬ InForce book calls n k given) ∧
      (book.after calls n).journal = book.journal := by
  induction n with
  | zero => exact .inr ⟨fun k given h => absurd h.before (Nat.not_lt_zero k), rfl⟩
  | succ n ih =>
    -- a call that neither is a set-up that succeeds nor changes the journal
    have hkept (hjournal : (book.after calls (n + 1)).journal = (book.after calls n).journal)
        (hfails : ∀ later, calls[n]? = some (.setUp later) →
          (book.after calls n).outcome (.setUp later) ≠ .ok ()) :
        (∃ k given, InForce book calls (n + 1) k given ∧
            Installed (book.after calls k) given (book.after calls (n + 1)).journal) ∨
          (∀ k given, ¬ InForce book calls (n + 1) k given) ∧
          (book.after calls (n + 1)).journal = book.journal := by
      rw [hjournal]
      simpa only [inForce_succ_iff hfails] using ih
    cases hcall : calls[n]? with
    | none => exact hkept (by rw [after_succ_of_none hcall]) (by simp [hcall])
    | some call =>
      cases call with
      | log time e => exact hkept (by rw [after_succ_of_some hcall, step_log]) (by simp [hcall])
      | make logger => exact hkept (by rw [after_succ_of_some hcall, step_make]) (by simp [hcall])
      | setUp given =>
        cases houtcome : (book.after calls n).outcome (.setUp given) with
        | ok done =>
          refine .inl ⟨n, given, inForce_self hcall houtcome, ?_⟩
          rw [after_succ_of_some hcall]
          exact installed_step houtcome
        | error e =>
          refine hkept (by rw [after_succ_of_some hcall, step_setUp_of_error houtcome])
            fun later hlater hok => ?_
          obtain rfl : given = later := Call.setUp.inj (Option.some.inj (hcall.symm.trans hlater))
          rw [houtcome] at hok
          cases hok

theorem InForce.installed (h : InForce book calls n k given) :
    Installed (book.after calls k) given (book.after calls n).journal := by
  rcases journal_after book calls n with ⟨k', given', h', hinstalled⟩ | ⟨hnone, -⟩
  · obtain ⟨rfl, rfl⟩ := h.unique h'
    exact hinstalled
  · exact absurd h (hnone k given)

/-! ## What is in the files -/

/-- Call `i` is a record that goes to the file at a place as bytes: the set-up in force logs to this
file, the record's logger is heard and its level is not below that of the set-up, and the encoding
can hold its line. -/
def Recorded (book : Logbook) (calls : List Call) (place : Place) (i : ℕ)
    (bytes : ByteArray) : Prop :=
  ∃ time e k given top, calls[i]? = some (.log time e) ∧ book.encode (e.line time) = some bytes ∧
    Logger.Heard (book.after calls i).loggers e.logger ∧ InForce book calls i k given ∧
    Opens (book.after calls k) given (some place) top ∧
    (Journal.levelFor given).weight ≤ e.level.weight

theorem sound_after (h : Sound book) (calls : List Call) (n : ℕ) : Sound (book.after calls n) := by
  induction n with
  | zero => exact h
  | succ n ih =>
    cases hcall : calls[n]? with
    | none => rwa [after_succ_of_none hcall]
    | some call =>
      rw [after_succ_of_some hcall]
      exact sound_step ih call

@[simp] theorem encode_after (book : Logbook) (calls : List Call) (n : ℕ) :
    (book.after calls n).encode = book.encode := by
  induction n with
  | zero => rfl
  | succ n ih =>
    cases hcall : calls[n]? with
    | none => rwa [after_succ_of_none hcall]
    | some call => rw [after_succ_of_some hcall, encode_step, ih]

/-- A record reaches a file when its logger is heard and a set-up with this file and a level that it
attains is in force. -/
theorem mem_receivers_after_iff (hunset : book.journal.handlers = []) {e : Entry} :
    .file place ∈ (book.after calls n).journal.receivers (book.after calls n).loggers e ↔
      Logger.Heard (book.after calls n).loggers e.logger ∧ ∃ k given top,
        InForce book calls n k given ∧ Opens (book.after calls k) given (some place) top ∧
        (Journal.levelFor given).weight ≤ e.level.weight := by
  rw [Journal.mem_receivers_iff, and_assoc]
  refine and_congr_right fun _ => ?_
  rcases journal_after book calls n with
    ⟨k, given, hforce, ⟨file, top, hopens, hhandlers⟩, hlevel⟩ | ⟨hnone, hjournal⟩
  · have hlevel : (book.after calls n).journal.level = Journal.levelFor given := hlevel
    rw [hlevel, hhandlers, mem_handlersOf]
    constructor
    · rintro ⟨hweight, rfl⟩
      exact ⟨k, given, top, hforce, hopens, hweight⟩
    · rintro ⟨k', given', top', hforce', hopens', hweight⟩
      obtain ⟨rfl, rfl⟩ := hforce.unique hforce'
      exact ⟨hweight, hopens.unique hopens'⟩
  · rw [hjournal, hunset]
    constructor
    · rintro ⟨-, hmem⟩
      cases hmem
    · rintro ⟨k, given, -, hforce, -⟩
      exact absurd hforce (hnone k given)

/-- The bytes that call `i` writes to the file at a place. -/
def recordAt? (book : Logbook) (calls : List Call) (place : Place) (i : ℕ) : Option ByteArray :=
  match calls[i]? with
  | some (.log time e) =>
    if .file place ∈ (book.after calls i).journal.receivers (book.after calls i).loggers e then
      book.encode (e.line time)
    else none
  | _ => none

theorem recordAt?_eq_some_iff (hunset : book.journal.handlers = []) {i : ℕ} {bytes : ByteArray} :
    book.recordAt? calls place i = some bytes ↔ Recorded book calls place i bytes := by
  rw [recordAt?, Recorded]
  cases hcall : calls[i]? with
  | none => simp
  | some call =>
    cases call with
    | setUp given => simp
    | make logger => simp
    | log time e =>
      simp only [Option.ite_none_right_eq_some, Option.some.injEq, mem_receivers_after_iff hunset,
        Call.log.injEq]
      constructor
      · rintro ⟨⟨hheard, k, given, top, hforce, hopens, hweight⟩, hbytes⟩
        exact ⟨time, e, k, given, top, ⟨rfl, rfl⟩, hbytes, hheard, hforce, hopens, hweight⟩
      · rintro ⟨_, _, k, given, top, ⟨rfl, rfl⟩, hbytes, hheard, hforce, hopens, hweight⟩
        exact ⟨⟨hheard, k, given, top, hforce, hopens, hweight⟩, hbytes⟩

/-- The numbered records that the first `n` calls write to the file at a place. -/
def entries (book : Logbook) (calls : List Call) (place : Place) (n : ℕ) : List (ℕ × ByteArray) :=
  (List.range n).filterMap fun i => (book.recordAt? calls place i).map (i, ·)

theorem mem_entries {i : ℕ} {bytes : ByteArray} :
    (i, bytes) ∈ book.entries calls place n ↔ i < n ∧
    book.recordAt? calls place i = some bytes := by
  simp only [entries, List.mem_filterMap, List.mem_range, Option.map_eq_some_iff, Prod.mk.injEq]
  constructor
  · rintro ⟨i, hi, bytes, hbytes, rfl, rfl⟩
    exact ⟨hi, hbytes⟩
  · rintro ⟨hi, hbytes⟩
    exact ⟨i, hi, bytes, hbytes, rfl, rfl⟩

theorem pairwise_entries : (book.entries calls place n).Pairwise (·.1 < ·.1) := by
  rw [entries, List.pairwise_filterMap]
  refine List.pairwise_lt_range.imp fun {i j} hij => ?_
  rintro entry hentry later hlater
  obtain ⟨bytes, -, rfl⟩ := Option.map_eq_some_iff.1 hentry
  obtain ⟨more, -, rfl⟩ := Option.map_eq_some_iff.1 hlater
  exact hij

/-- Bytes one after the other. -/
def joined (parts : List ByteArray) : ByteArray := parts.foldl (· ++ ·) ByteArray.empty

@[simp] theorem joined_concat (parts : List ByteArray) (last : ByteArray) :
    joined (parts ++ [last]) = joined parts ++ last := by
  rw [joined, List.foldl_concat, joined]

theorem joined_entries_succ : joined ((book.entries calls place (n + 1)).map Prod.snd) =
    joined ((book.entries calls place n).map Prod.snd) ++
      (book.recordAt? calls place n).getD ByteArray.empty := by
  rw [entries, List.range_succ, List.filterMap_append, List.map_append, ← entries]
  cases hbytes : book.recordAt? calls place n with
  | none => simp [hbytes]
  | some bytes => simp [hbytes]

/-- **What a file holds** after calls is what it held, and its records behind that. -/
theorem bytesAt_after (h : Sound book) : (book.after calls n).bytesAt place =
    book.bytesAt place ++ joined ((book.entries calls place n).map Prod.snd) := by
  induction n with
  | zero => exact ByteArray.append_empty.symm
  | succ n ih =>
    have hnext : (book.after calls (n + 1)).bytesAt place =
        (book.after calls n).bytesAt place ++
          (book.recordAt? calls place n).getD ByteArray.empty := by
      rw [recordAt?]
      cases hcall : calls[n]? with
      | none =>
        rw [after_succ_of_none hcall]
        exact ByteArray.append_empty.symm
      | some call =>
        rw [after_succ_of_some hcall, bytesAt_step (sound_after h calls n)]
        cases call with
        | setUp given => rfl
        | make logger => rfl
        | log time e =>
          dsimp only [written]
          rw [encode_after]
          split_ifs <;> rfl
    rw [hnext, ih, joined_entries_succ, ByteArray.append_assoc]

/-- **The history of a logbook.**  From a fresh start among any loggers, after any number of calls:
without a set-up in force the journal is unset; otherwise the handlers are one display and behind it
one file if the set-up in force gives one, and the level is that of this set-up.  A set-up succeeds
just when its options are known and its log file, if it gives one, can be opened, and one that fails
changes nothing.  Each file holds what it held in the beginning and behind it, in order, the lines
of the records that were logged while this file was that of the set-up in force, at its level or
above, by someone who is heard, and that the encoding can hold.  The loggers below the program's own
are heard whatever other loggers there are. -/
theorem journal_history (here : Place) (top : Node) (loggers : List Wide)
    (encode : Wide → Option ByteArray) (calls : List Call) (n : ℕ) :
    let book := fresh here top loggers encode
    let now := book.after calls n
    ((∀ k given, ¬ InForce book calls n k given) → now.journal = .unset) ∧
      (∀ k given, InForce book calls n k given → Installed (book.after calls k) given now.journal) ∧
      (∀ given, (now.outcome (.setUp given) = .ok () ↔
          Known given ∧ ∃ file top, Opens now given file top) ∧
        ∀ e, now.outcome (.setUp given) = .error e → now.step (.setUp given) = now) ∧
      (∀ place, ∃ records : List (ℕ × ByteArray), records.Pairwise (·.1 < ·.1) ∧
        (∀ i bytes, (i, bytes) ∈ records ↔ i < n ∧ Recorded book calls place i bytes) ∧
        now.bytesAt place = book.bytesAt place ++ joined (records.map Prod.snd)) ∧
      ∀ logger, Under logger → Logger.Heard now.loggers logger := by
  intro book now
  have hsound := sound_fresh here top loggers encode
  refine ⟨fun hnone => ?_, fun k given hforce => hforce.installed,
    fun given => ⟨outcome_setUp_eq_ok_iff, fun e => step_setUp_of_error⟩,
    fun place => ⟨book.entries calls place n, pairwise_entries,
      fun i bytes => ?_, bytesAt_after hsound⟩,
    fun logger hunder => hunder.heard now.loggers⟩
  · rcases journal_after book calls n with ⟨k, given, hforce, -⟩ | ⟨-, hjournal⟩
    · exact absurd hforce (hnone k given)
    · exact hjournal
  · rw [mem_entries, recordAt?_eq_some_iff rfl]

/-- A set-up with a file, and one whose file would lie below the first: it fails, and the first
stays in force. -/
theorem journal_history_below_file :
    let book := fresh [] (.directory [])
    let given := [("verbose", .bool true), ("log_file", .str "a")]
    let refused := [("quiet", .bool true), ("log_file", .str "a/b")]
    let now := book.after [.setUp given] 1
    InForce book [.setUp given] 1 0 given ∧ Installed book given now.journal ∧
      now.outcome (.setUp refused) = .error (.unreachable .notDirectory "/a/b") ∧
      now.step (.setUp refused) = now := by
  intro book given refused now
  have hforce : InForce book [.setUp given] 1 0 given :=
    ⟨by decide, rfl, rfl, fun i _ hi hlt => absurd hlt (by omega)⟩
  have hrefused : now.outcome (.setUp refused) = .error (.unreachable .notDirectory "/a/b") := rfl
  obtain ⟨-, hinstalled, hfails, -⟩ :=
    journal_history [] (.directory []) [] Text.Utf8.encode [.setUp given] 1
  exact ⟨hforce, hinstalled 0 given hforce, hrefused, (hfails refused).2 _ hrefused⟩

/-- A set-up with a log file, and a record. -/
def oneRecord (e : Entry) : List Call := [.setUp [("log_file", .str "a")], .log "12:00" e]

/-- A record through the name `.x`, and one whose message is a half of a pair, are not in the log
file, although the set-up in force has installed it and lets their level through. -/
theorem journal_history_unrecorded :
    let book := fresh [] (.directory [])
    let distant : Entry := ⟨loggerName (some (Wide.ofText ".x")), .error, Wide.ofText "m"⟩
    let broken : Entry := ⟨rootLogger, .error, [0xD800]⟩
    distant.logger = rootLogger ++ point :: Wide.ofText ".x" ∧
      ∀ e ∈ [distant, broken], (Journal.levelFor [("log_file", .str "a")]).weight ≤ e.level.weight ∧
        InForce book (oneRecord e) 1 0 [("log_file", .str "a")] ∧
        (book.after (oneRecord e) 1).journal.handlers = [.display, .file ["a"]] ∧
        (book.after (oneRecord e) 2).bytesAt ["a"] = ByteArray.empty := by
  intro book distant broken
  -- all but what is written is the same for both
  have hafter (e : Entry) (hlevel : e.level = .error)
      (hwritten : (book.after (oneRecord e) 1).written ["a"] (.log "12:00" e) = ByteArray.empty) :
      (Journal.levelFor [("log_file", .str "a")]).weight ≤ e.level.weight ∧
        InForce book (oneRecord e) 1 0 [("log_file", .str "a")] ∧
        (book.after (oneRecord e) 1).journal.handlers = [.display, .file ["a"]] ∧
        (book.after (oneRecord e) 2).bytesAt ["a"] = ByteArray.empty := by
    refine ⟨by rw [hlevel]; decide, ?_, rfl, ?_⟩
    · exact ⟨by decide, rfl, rfl, fun i _ hi hlt => absurd hlt (by omega)⟩
    · have hcall : (oneRecord e)[1]? = some (.log "12:00" e) := rfl
      rw [after_succ_of_some hcall, bytesAt_step (sound_after (sound_fresh ..) _ _), hwritten]
      exact ByteArray.append_empty
  have hdistant : ¬ Logger.Heard [] distant.logger := by
    refine Logger.not_heard_of_all (fun front tail htail => ?_) List.not_mem_nil
    have hmem : point ∈ Wide.ofText "x" := by
      rw [show Wide.ofText "x" = _ from htail]
      simp
    exact absurd hmem (by decide)
  refine ⟨by decide, List.forall_mem_cons.2 ⟨hafter distant rfl ?_, List.forall_mem_singleton.2
    (hafter broken rfl ?_)⟩⟩
  · exact if_neg fun hmem => hdistant (Journal.mem_receivers_iff.1 hmem).1.1
  · have hencode : Text.Utf8.encode (broken.line "12:00") = none := by
      refine encode_of_mem (List.mem_append_left _ (List.mem_append_right _ List.mem_cons_self)) ?_
      decide
    have hbytes : (book.after (oneRecord broken) 1).encode (broken.line "12:00") = none := by
      rw [encode_after]
      exact hencode
    simp only [written, hbytes, Option.getD_none, ite_self]

end SourceSurvey.Logbook
