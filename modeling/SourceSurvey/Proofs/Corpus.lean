import SourceSurvey.Corpus
import SourceSurvey.Proofs.Settings.Checked

/-!
# Failures of a snapshot

A snapshot of files fails for few reasons (`enumerate_error`): the directory cannot be surveyed
(`BadPath`), the system stands in the way (`Obstructed`), or the limit on the size of files has no
value in bytes.  Under settings that are loaded, the last happens just when the limit is not
`Measurable` (`load_enumerates_iff`).
-/

namespace SourceSurvey.Corpus

open Settings

/-- A failure that blames the directory to survey. -/
def BadPath (f : Failure) : Prop := ∃ path reason, f = .fault (.badPath path reason)

/-- A failure of the system: at a path with the character zero in it or with too many characters, at
a path that it denies, or for want of stack. -/
inductive Obstructed (w : World) (access : Access) : Failure → Prop where
  | path {route : Route} {obstacle : Obstacle} {follow : Bool}
    (h : obstacle = .zeroInPath ∨ obstacle = .nameTooLong)
    (hlocate : Tree.locate w.top w.here follow route = .error obstacle) :
    Obstructed w access (.unreachable obstacle route.text)
  | denied {route : Route} {look : Look} (h : access.denies look route = true) :
    Obstructed w access (.unreachable .denied route.text)
  | spent {n : ℕ} (h : n ∈ access.depth) : Obstructed w access outOfStack

variable {w : World} {access : Access} {f : Failure}

/-! ## The directory -/

theorem badPath_refuse {α : Type} {route : Route} {reason : String}
    (h : (refuse route reason : Except Failure α) = .error f) : BadPath f :=
  ⟨_, _, (Except.error.inj h).symm⟩

theorem obstructed_of_reaches {route : Route} (h : w.reaches route = .error f) :
    Obstructed w access f := by
  unfold World.reaches Tree.reaches at h
  split at h
  · cases h
  · rename_i hfind
    obtain rfl := Except.error.inj h
    rcases bind_eq_error.1 hfind with hlocate | ⟨place, -, hplace⟩
    · exact .path (.inr rfl) hlocate
    · split at hplace <;> cases hplace
  · cases h

theorem resolve_error {route : Route} (h : w.resolve route access = .error f) :
    (f = .unreachable .zeroInPath route.text ∧ route.hasZero = true) ∨
    ∃ path, f = .linkLoop path := by
  unfold World.resolve at h
  by_cases hzero : route.hasZero = true
  · rw [if_pos hzero] at h
    exact .inl ⟨(Except.error.inj h).symm, hzero⟩
  · rw [if_neg hzero] at h
    dsimp only at h
    split at h
    · cases h
    · split at h
      · exact .inr ⟨_, (Except.error.inj h).symm⟩
      · cases h

/-- The checks of a directory one after the other. -/
theorem validateRoot_of_resolve {route resolved : Route}
    (h : w.resolve route access = .ok resolved) :
    validateRoot w route access =
      if access.denies .target resolved = true then .error (.unreachable .denied resolved.text)
      else w.reaches resolved >>= fun found =>
        if found = false then refuse resolved "Directory does not exist"
        else if w.isDirectory resolved = false then refuse resolved "Path is not a directory"
        else if w.accessDenied = true then refuse resolved "Directory is not readable"
        else .ok resolved := by
  rw [validateRoot, h]
  dsimp only
  by_cases hdenied : access.denies .target resolved = true
  · rw [if_pos hdenied, if_pos hdenied]
    rfl
  · rw [if_neg hdenied, if_neg hdenied]
    refine bind_congr fun found => ?_
    cases found
    · rfl
    · cases w.isDirectory resolved
      · rfl
      · cases w.accessDenied <;> rfl

theorem validateRoot_error {route : Route} (h : validateRoot w route access = .error f) :
    BadPath f ∨ Obstructed w access f := by
  cases hresolve : w.resolve route access with
  | error f' =>
    rw [validateRoot, hresolve] at h
    rcases resolve_error hresolve with ⟨rfl, hzero⟩ | ⟨path, rfl⟩
    · obtain rfl := Except.error.inj h
      have hlocate : Tree.locate w.top w.here true route = .error .zeroInPath := if_pos hzero
      exact .inr (.path (.inl rfl) hlocate)
    · exact .inl (badPath_refuse h)
  | ok resolved =>
    rw [validateRoot_of_resolve hresolve] at h
    by_cases hdenied : access.denies .target resolved = true
    · rw [if_pos hdenied] at h
      obtain rfl := Except.error.inj h
      exact .inr (.denied hdenied)
    · rw [if_neg hdenied, bind_eq_error] at h
      rcases h with h | ⟨found, -, h⟩
      · exact .inr (obstructed_of_reaches h)
      · refine .inl ?_
        split_ifs at h
        · exact badPath_refuse h
        · exact badPath_refuse h
        · exact badPath_refuse h

/-! ## The walk -/

theorem takes_error {walk : Walk} {below : List String} {name : String} {node : Node}
    (h : walk.takes below name node = .error f) : Obstructed walk.world walk.access f := by
  unfold Walk.takes at h
  split_ifs at h with hskipped hhidden
  · obtain rfl := Except.error.inj h
    have hdenied : walk.access.denies .target (walk.route (below ++ [name])) = true := by
      rw [Access.denies, hhidden, Bool.true_or]
    exact .denied hdenied
  · split at h
    · rename_i hfind
      obtain rfl := Except.error.inj h
      rcases bind_eq_error.1 hfind with hlocate | ⟨place, -, hplace⟩
      · exact .path (.inr rfl) hlocate
      · split at hplace <;> cases hplace
    · cases h

theorem checkStack_error {walk : Walk} {below : List String} {directories : List (String × Node)}
    (h : walk.checkStack below directories = .error f) : Obstructed walk.world walk.access f := by
  unfold Walk.checkStack at h
  split_ifs at h with hspent
  obtain rfl := Except.error.inj h
  rw [Bool.and_eq_true, Access.isSpent, Option.any_eq_true] at hspent
  obtain ⟨⟨n, hn, -⟩, -⟩ := hspent
  exact .spent hn

/-- A walk fails only at a path that the system refuses or for want of stack, however deep it
goes. -/
theorem Walk.filesBelow_error {walk : Walk} {depth : ℕ} {below : List String}
    (h : walk.filesBelow depth below = .error f) : Obstructed walk.world walk.access f := by
  induction depth generalizing below with
  | zero => cases h
  | succ depth ih =>
    unfold Walk.filesBelow at h
    split_ifs at h
    split at h
    · rcases bind_eq_error.1 h with h | ⟨taken, -, h⟩
      · obtain ⟨⟨name, node⟩, -, htakes⟩ := filterM_eq_error h
        exact takes_error htakes
      rcases bind_eq_error.1 h with h | ⟨-, -, h⟩
      · exact checkStack_error h
      rcases bind_eq_error.1 h with h | ⟨deeper, -, h⟩
      · obtain ⟨name, -, hdeeper⟩ := mapM_eq_error h
        exact ih hdeeper
      · cases h
    · cases h

/-- A directory without directories in it gives the files that are taken. -/
theorem Walk.filesBelow_flat {walk : Walk} {below : List String}
    {entries taken : List (String × Node)}
    (hlist : walk.access.denies .entries (walk.route below) = false)
    (hfind : walk.world.find (walk.route below) = .ok (.directory entries))
    (hflat : ∀ entry ∈ entries,
      isDirectoryEntry walk.world (walk.route (below ++ [entry.1])) entry.2 walk.access = false)
    (htaken : entries.filterM (fun (name, node) => walk.takes below name node) = .ok taken)
    (depth : ℕ) :
    walk.filesBelow (depth + 1) below =
      .ok (taken.map fun (name, _) => String.intercalate "/" (below ++ [name])) := by
  have hdirectories : entries.filter (fun (name, node) =>
      isDirectoryEntry walk.world (walk.route (below ++ [name])) node walk.access) = [] :=
    List.filter_eq_nil_iff.2 fun entry hentry => by simp [hflat entry hentry]
  have hfiles : entries.filter (not ∘ fun (name, node) =>
      isDirectoryEntry walk.world (walk.route (below ++ [name])) node walk.access) = entries :=
    List.filter_eq_self.2 fun entry hentry => by simp [hflat entry hentry]
  have hstack : walk.checkStack below [] = .ok () := if_neg (by simp)
  simp only [Walk.filesBelow, hlist, Bool.false_eq_true, if_false, hfind,
    List.partition_eq_filter_filter, hdirectories, hfiles]
  refine bind_eq_ok.2 ⟨taken, htaken, bind_eq_ok.2 ⟨(), hstack, ?_⟩⟩
  simp [sortTexts]
  rfl

@[simp] theorem excludedNames_eq (dirs : List String) :
    excludedNames (.ofTexts dirs) = .ok dirs := by
  have hmembers : (dirs.map Value.str).mapM Value.hashable = .ok (dirs.map Value.str) := by
    rw [mapM_eq_ok_map (g := id), List.map_id]
    intro v hv
    obtain ⟨dir, -, rfl⟩ := List.mem_map.1 hv
    rfl
  refine bind_eq_ok.2 ⟨_, rfl, bind_eq_ok.2 ⟨_, hmembers, ?_⟩⟩
  refine congrArg Except.ok ?_
  rw [List.filterMap_map]
  exact List.filterMap_some

theorem excludedNames_ofTexts (dirs : List String) :
    ∃ names, excludedNames (.ofTexts dirs) = .ok names :=
  ⟨dirs, excludedNames_eq dirs⟩

/-- The walk that a selection asks for. -/
def Selection.walk (selection : Selection) (w : World) (root : Route) (excluded : List String)
    (access : Access := .full) : Walk :=
  ⟨w, root, excluded, selection.settings.followLinks.truthy, selection.skipped,
    selection.wanted, access⟩

theorem filesBelow_ok {selection : Selection} {root : Route} {excluded paths : List String}
    (hexcluded : excludedNames selection.settings.excludedDirs = .ok excluded)
    (hwalk : ∀ depth, (selection.walk w root excluded access).filesBelow (depth + 1) [] =
      .ok paths) :
    filesBelow w selection root access = .ok (sortTexts paths) := by
  rw [filesBelow, hexcluded, depthBound]
  exact bind_eq_ok.2 ⟨excluded, rfl, bind_eq_ok.2 ⟨paths, hwalk _, rfl⟩⟩

theorem filesBelow_error {selection : Selection} {root : Route} {dirs : List String}
    (hdirs : selection.settings.excludedDirs = .ofTexts dirs)
    (h : filesBelow w selection root access = .error f) :
    Obstructed w access f := by
  obtain ⟨names, hnames⟩ := excludedNames_ofTexts dirs
  rw [filesBelow, hdirs, hnames] at h
  rcases bind_eq_error.1 h with h | ⟨excluded, -, h⟩
  · cases h
  · rcases bind_eq_error.1 h with h | ⟨paths, -, h⟩
    · exact Walk.filesBelow_error h
    · cases h

/-! ## The files -/

section Files

variable {s : Settings}

/-- A file is read unless it is out of reach or the limit on sizes has no value in bytes. -/
theorem readSource_error {route : Route} (h : (readSource w s route access).outcome = .error f) :
    (∃ file reason, f = .fault (.fileAccess file reason)) ∨ ∃ m, s.maxFileBytes = .error m ∧
    f = .misuse m := by
  unfold readSource at h
  generalize (if access.denies .target route = true then _ else _ : Except Obstacle Node) =
    found at h
  cases found with
  | error obstacle => exact .inl ⟨_, _, (Except.error.inj h).symm⟩
  | ok node =>
    cases node with
    | file data =>
      rw [Traced.outcome_bind, bind_eq_error] at h
      rcases h with h | ⟨limit, -, h⟩
      · obtain ⟨m, hm, rfl⟩ := orFail_error.1 h
        exact .inr ⟨m, hm, rfl⟩
      · split_ifs at h
        · cases h
        · exact .inl ⟨_, _, (Except.error.inj h).symm⟩
        · cases h
        · cases h
    | directory entries => exact .inl ⟨_, _, (Except.error.inj h).symm⟩
    | link target => exact .inl ⟨_, _, (Except.error.inj h).symm⟩

theorem readOrSkip_error {root : Route} {path : String}
    (h : (readOrSkip w s root path access).outcome = .error f) :
    ∃ m, s.maxFileBytes = .error m ∧ f = .misuse m := by
  unfold readOrSkip at h
  cases hread : (readSource w s (root.join (Route.ofText path)) access).outcome with
  | ok content =>
    rw [Traced.rescue_of_ok hread, hread] at h
    cases h
  | error f' =>
    rcases readSource_error hread with ⟨file, reason, rfl⟩ | ⟨m, hm, rfl⟩
    · rw [Traced.rescue_of_some hread rfl] at h
      cases h
    · rw [Traced.rescue_of_none hread rfl, hread] at h
      exact ⟨m, hm, (Except.error.inj h).symm⟩

/-- **Reading all files** fails only for the limit on their sizes: the limit on their number is
safe. -/
theorem readAll_error {root : Route} {files : List SourceFile} {paths : List String}
    (hs : Checked s) (h : (readAll w s root access files paths).outcome = .error f) :
    ∃ m, s.maxFileBytes = .error m ∧ f = .misuse m := by
  induction paths generalizing files with
  | nil => cases h
  | cons path rest ih =>
    obtain ⟨reached, hreached, hlimit, -⟩ := limit_spec hs files.length
    rw [readAll, Traced.outcome_bind, Traced.outcome_liftM_misuse, hreached, bind_eq_error] at h
    rcases h with h | ⟨_, ⟨⟩, h⟩
    · cases h
    · cases reached with
      | true =>
        obtain ⟨limit, hinteger⟩ := hlimit rfl
        rw [if_pos rfl, Traced.outcome_bind, Traced.outcome_liftM_misuse, hinteger] at h
        cases h
      | false =>
        rw [if_neg Bool.false_ne_true, Traced.outcome_bind, bind_eq_error] at h
        rcases h with h | ⟨content, -, h⟩
        · exact readOrSkip_error h
        · cases content with
          | none => exact ih h
          | some content => exact ih h

end Files

/-! ## The snapshot -/

/-- **The failures of a snapshot** under checked settings. -/
theorem enumerate_error {s : Settings} {dirs : List String} {path : String} (hs : Checked s)
    (hdirs : s.excludedDirs = .ofTexts dirs)
    (h : (enumerate w (.usual s) path access).outcome = .error f) :
    BadPath f ∨ Obstructed w access f ∨ ∃ m, s.maxFileBytes = .error m ∧ f = .misuse m := by
  rw [enumerate, Traced.outcome_bind, bind_eq_error] at h
  rcases h with h | ⟨root, -, h⟩
  · exact (validateRoot_error h).imp_right .inl
  · rw [Traced.outcome_bind, bind_eq_error] at h
    rcases h with h | ⟨paths, -, h⟩
    · exact .inr (.inl (filesBelow_error hdirs h))
    · rw [Traced.outcome_bind, bind_eq_error] at h
      rcases h with h | ⟨files, -, h⟩
      · exact .inr (.inr (readAll_error hs h))
      · cases h

/-- A directory with one empty source file. -/
def oneFile : World where
  top := .directory [("a.js", .file .empty)]
  here := []
  environment := []
  tool := fun _ => .missing
  clock := .int 0
  accessDenied := false
  width := 80

theorem takes_oneFile (s : Settings) (excluded : List String) :
    ((Selection.usual s).walk oneFile ⟨"/", []⟩ excluded).takes [] "a.js" (.file .empty) =
      .ok true := by
  have hskipped : ¬ defaultSkipped.any (Text.Glob.accepts · "a.js") = true := by decide +kernel
  have hwanted : isSourceFile "a.js" = true := by decide +kernel
  rw [Walk.takes]
  refine (if_neg hskipped).trans ?_
  change Except.ok (!(false && _) && isSourceFile "a.js") = Except.ok true
  rw [hwanted]
  rfl

theorem filesBelow_oneFile {s : Settings} {dirs : List String}
    (hdirs : s.excludedDirs = .ofTexts dirs) :
    filesBelow oneFile (.usual s) ⟨"/", []⟩ = .ok ["a.js"] := by
  obtain ⟨excluded, hexcluded⟩ := excludedNames_ofTexts dirs
  rw [← hdirs] at hexcluded
  have htaken : [("a.js", Node.file .empty)].filterM (fun (name, node) =>
      ((Selection.usual s).walk oneFile ⟨"/", []⟩ excluded).takes [] name node) =
      .ok [("a.js", Node.file .empty)] := by
    change (Walk.takes _ [] "a.js" (.file .empty) >>= _) >>= _ = _
    rw [takes_oneFile]
    rfl
  have hwalk := Walk.filesBelow_flat (by rfl) (by rfl) (by simp [isDirectoryEntry]) htaken
  have hfiles : filesBelow oneFile (.usual s) ⟨"/", []⟩ = _ := filesBelow_ok hexcluded hwalk
  rwa [sortTexts, List.map_singleton, List.mergeSort_singleton] at hfiles

/-- A limit on sizes without a value in bytes stops a snapshot of a single file. -/
theorem enumerate_oneFile {s : Settings} {dirs : List String} {m : Misuse} (hs : Checked s)
    (hdirs : s.excludedDirs = .ofTexts dirs) (h : s.maxFileBytes = .error m) :
    (enumerate oneFile (.usual s) ".").outcome = .error (.misuse m) := by
  have hroot : validateRoot oneFile (Route.ofText ".") = .ok ⟨"/", []⟩ := by rfl
  let route := Route.join ⟨"/", []⟩ (Route.ofText "a.js")
  have hfind : oneFile.find route = .ok (.file .empty) := by rfl
  have hlimit : (liftM s.maxFileBytes : Traced ℤ).outcome = .error (.misuse m) := by
    rw [Traced.outcome_liftM_misuse, h]
    rfl
  have hsource : (readSource oneFile s route).outcome = .error (.misuse m) := by
    simp only [readSource, hfind]
    exact Traced.outcome_bind_of_error hlimit _
  have hread : (readOrSkip oneFile s ⟨"/", []⟩ "a.js").outcome = .error (.misuse m) := by
    rw [readOrSkip, Traced.rescue_of_none hsource rfl]
    exact hsource
  obtain ⟨reached, hreached, -, hzero⟩ := limit_spec hs 0
  obtain rfl := hzero rfl
  have hall : (readAll oneFile s ⟨"/", []⟩ .full [] ["a.js"]).outcome = .error (.misuse m) := by
    rw [readAll, Traced.outcome_bind_of_ok (orFail_ok.2 hreached)]
    exact Traced.outcome_bind_of_error hread _
  rw [enumerate, Traced.outcome_bind_of_ok hroot,
    Traced.outcome_bind_of_ok (filesBelow_oneFile hdirs)]
  exact Traced.outcome_bind_of_error hall _

/-- **When loaded settings are safe.**  The limit on the size of files has a value in bytes that is
not negative, and no snapshot fails but for a bad path or for the system, whatever it keeps from the
program, just when the limit is measurable. -/
theorem load_enumerates_iff {file : Option Route} {overrides : Overrides} {s : Settings}
    {dirs : List String} (hload : load w file overrides = .ok s)
    (hdirs : s.excludedDirs = .ofTexts dirs) :
    ((∃ n, 0 ≤ n ∧ s.maxFileBytes = .ok n) ↔ Measurable s.maxFileSize) ∧
      ((∀ w' access path f, (enumerate w' (.usual s) path access).outcome = .error f →
          BadPath f ∨ Obstructed w' access f) ↔ Measurable s.maxFileSize) := by
  have hs := checked_of_load hload
  rcases maxFileBytes_spec hs with ⟨hmeasurable, n, hn, hbytes⟩ | ⟨hnot, m, hbytes⟩
  · refine ⟨iff_of_true ⟨n, hn, hbytes⟩ hmeasurable, iff_of_true ?_ hmeasurable⟩
    intro w' access path f hf
    rcases enumerate_error hs hdirs hf with hbad | hobstructed | ⟨m, hm, -⟩
    · exact .inl hbad
    · exact .inr hobstructed
    · cases hbytes.symm.trans hm
  · refine ⟨iff_of_false ?_ hnot, iff_of_false ?_ hnot⟩
    · rintro ⟨n, -, hn⟩
      cases hbytes.symm.trans hn
    · intro hsafe
      rcases hsafe oneFile .full "." _ (enumerate_oneFile hs hdirs hbytes) with ⟨_, _, h⟩ | h
      · cases h
      · cases h

theorem load_enumerates_default :
    load oneFile none .none = .ok .default ∧
      ∀ w' access path f, (enumerate w' (.usual .default) path access).outcome = .error f →
        BadPath f ∨ Obstructed w' access f := by
  have hload : load oneFile none .none = .ok .default := toOption_eq_some.1 (by decide +kernel)
  have hbytes : Settings.default.maxFileBytes = .ok 10485760 :=
    toOption_eq_some.1 (by decide +kernel)
  obtain ⟨hmeasurable, hsafe⟩ := load_enumerates_iff hload rfl
  exact ⟨hload, hsafe.2 (hmeasurable.1 ⟨10485760, by decide, hbytes⟩)⟩

/-- A NaN for the limit on the size of files is accepted, and stops the snapshot of a single
file. -/
theorem load_nan_fails :
    ∃ s,
      load
          { oneFile with
            top := .directory [("code-insight.toml", .file "max_file_size_mb = nan\n".toUTF8)] }
          none .none = .ok s ∧
      s.maxFileBytes = .error .integerOfNaN ∧
      (enumerate oneFile (.usual s) ".").outcome = .error (.misuse .integerOfNaN) := by
  have hload : ((load
      { oneFile with
        top := .directory [("code-insight.toml", .file "max_file_size_mb = nan\n".toUTF8)] }
      none .none).toOption.map fun s => (s.maxFileSize, s.excludedDirs)) =
      some (.float .nan, .ofTexts defaultExcluded) := by
    decide +kernel
  obtain ⟨s, hs, heq⟩ := Option.map_eq_some_iff.1 hload
  obtain ⟨hsize, hdirs⟩ := Prod.mk.inj heq
  have hbytes : s.maxFileBytes = .error .integerOfNaN := maxFileBytes_of_float hsize
  rw [toOption_eq_some] at hs
  exact ⟨s, hs, hbytes, enumerate_oneFile (checked_of_load hs) hdirs hbytes⟩

end SourceSurvey.Corpus
