import SourceSurvey.Proofs.Corpus.Walk

/-!
# Snapshots

A snapshot takes the files that a walk finds in the order of their paths, reads each, leaves out
those that cannot be read, are too large or look binary, and stops at the limit on their number
(`readAll_outcome`, `readAll_warns_iff`).  So it is a part of the list of all files that belong into
it (`Listing`), from its start up to the limit, unless something stops the walk: then there is no
snapshot, though all other files could be read (`enumerate_snapshot`).
-/

namespace SourceSurvey.Corpus

/-! ## Bytes -/

theorem toList_loop (data : ByteArray) (i : ℕ) (r : List UInt8) :
    ByteArray.toList.loop data i r = r.reverse ++ data.data.toList.drop i := by
  induction hk : data.size - i generalizing i r with
  | zero =>
    have hsize : data.data.toList.length ≤ i := by
      rw [Array.length_toList]
      exact Nat.sub_eq_zero_iff_le.1 hk
    rw [ByteArray.toList.loop, if_neg (by omega), List.drop_eq_nil_of_le hsize, List.append_nil]
  | succ k ih =>
    have hi : i < data.size := by omega
    have hlength : i < data.data.toList.length := by
      rw [Array.length_toList]
      exact hi
    have hbyte : data.get! i = data.data.toList[i] := getElem!_pos data.data i hi
    rw [ByteArray.toList.loop, if_pos hi, ih _ _ (by omega),
      List.drop_eq_getElem_cons hlength, hbyte]
    simp

/-- A file looks binary when one of its first bytes is zero. -/
theorem isBinary_eq_false_iff (data : ByteArray) :
    isBinary data = false ↔ 0 ∉ data.data.toList.take sniffed := by
  rw [isBinary, ByteArray.toList, toList_loop, ByteArray.data_extract]
  simp

/-! ## Single files -/

/-- What is read of a file of at most the given size. -/
def content? (limit : ℤ) (data : ByteArray) : Option String :=
  if limit < data.size then none else if isBinary data then none else some (Text.Utf8.decode data)

/-- Events that are only of use for finding errors. -/
def Quiet (trail : List Event) : Prop := ∀ e ∈ trail, ∃ message, e = .log .debug message

/-- What is read at a route: nothing where the system denies a look. -/
def contentAt (w : World) (access : Access) (limit : ℤ) (route : Route) : Option String :=
  if access.denies .target route || access.denies .bytes route then none
  else
    match w.find route with
    | .ok (.file data) => content? limit data
    | _ => none

/-- What is read at a path below a directory. -/
def readsAt (w : World) (root : Route) (access : Access) (limit : ℤ)
    (path : String) : Option String :=
  contentAt w access limit (root.join (Route.ofText path))

variable {w : World} {s : Settings} {root : Route} {access : Access} {limit : ℤ}

/-- A file that can be looked at is read as it should be. -/
theorem readSource_of_file {route : Route} {data : ByteArray} (hlimit : s.maxFileBytes = .ok limit)
    (htarget : access.denies .target route = false) (hfind : w.find route = .ok (.file data)) :
    (∃ trail, readSource w s route access = ⟨trail, .ok (contentAt w access limit route)⟩ ∧
      Quiet trail) ∨
      contentAt w access limit route = none ∧
        readSource w s route access = Traced.fail (noAccess route .denied) := by
  have hbytes : (liftM s.maxFileBytes : Traced ℤ).outcome = .ok limit := by
    rw [Traced.outcome_liftM_misuse, hlimit]
    rfl
  simp only [readSource, contentAt, htarget, hfind, Bool.false_eq_true, if_false, Bool.false_or]
  rw [Traced.bind_of_ok hbytes, content?]
  by_cases hsize : limit < data.size
  · rw [if_pos hsize, if_pos hsize, ite_self]
    exact .inl ⟨[.log .debug _], rfl, fun e he => ⟨_, List.mem_singleton.1 he⟩⟩
  rw [if_neg hsize, if_neg hsize]
  by_cases hread : access.denies .bytes route = true
  · rw [if_pos hread, if_pos hread]
    exact .inr ⟨rfl, rfl⟩
  rw [if_neg hread, if_neg hread]
  refine .inl ⟨[], ?_, by simp [Quiet]⟩
  split_ifs <;> rfl

/-- Reading a source gives what it should, or fails where nothing can be read. -/
theorem readSource_spec (hlimit : s.maxFileBytes = .ok limit) (route : Route) :
    (∃ trail, readSource w s route access = ⟨trail, .ok (contentAt w access limit route)⟩ ∧
      Quiet trail) ∨
      contentAt w access limit route = none ∧
        ∃ obstacle, readSource w s route access = Traced.fail (noAccess route obstacle) := by
  by_cases htarget : access.denies .target route = true
  · exact .inr ⟨by simp [contentAt, htarget], .denied, by simp only [readSource, htarget, if_true]⟩
  have hseen : (if access.denies .target route = true then .error .denied else w.find route) =
      w.find route :=
    if_neg htarget
  cases hfind : w.find route with
  | error obstacle =>
    exact .inr ⟨by simp [contentAt, hfind], obstacle, by rw [readSource, hseen, hfind]⟩
  | ok node =>
    cases node with
    | file data =>
      exact (readSource_of_file hlimit (Bool.eq_false_iff.2 htarget) hfind).imp_right fun h =>
        ⟨h.1, _, h.2⟩
    | directory entries =>
      exact .inr ⟨by simp [contentAt, hfind], .isDirectory, by rw [readSource, hseen, hfind]⟩
    | link target =>
      exact .inr ⟨by simp [contentAt, hfind], .isDirectory, by rw [readSource, hseen, hfind]⟩

/-- Reading at a path never fails: what cannot be reached is left out. -/
theorem readOrSkip_readsAt (hlimit : s.maxFileBytes = .ok limit) (path : String) :
    ∃ trail, readOrSkip w s root path access = ⟨trail, .ok (readsAt w root access limit path)⟩ ∧
    Quiet trail := by
  rw [readOrSkip, readsAt]
  rcases readSource_spec hlimit (root.join (Route.ofText path)) with ⟨trail, hread, hquiet⟩ |
    ⟨hnone, obstacle, hread⟩
  · rw [hread]
    exact ⟨trail, Traced.rescue_of_ok rfl _, hquiet⟩
  · rw [hread, hnone, Traced.rescue_of_some rfl rfl]
    exact ⟨_, rfl, fun e he => ⟨_, List.mem_singleton.1 he⟩⟩

/-! ## All files -/

/-- The warning about files that are left over. -/
def limitWarning (limit : ℤ) : Event :=
  .log .warning s!"File limit ({limit}) reached, remaining files are not analyzed"

/-- The files among paths, given what is read at each. -/
def filesAt (reads : String → Option String) (paths : List String) : List SourceFile :=
  paths.filterMap fun path => (reads path).map (SourceFile.mk path)

@[simp] theorem filesAt_cons (reads : String → Option String) (path : String) (rest : List String) :
    filesAt reads (path :: rest) = ((reads path).map (SourceFile.mk path)).toList ++
      filesAt reads rest := by
  rw [filesAt, filesAt, List.filterMap_cons]
  cases reads path <;> rfl

section ReadAll

variable {n : ℕ} (hmax : s.maxFiles = .int n)

include hmax

theorem test_maxFiles (k : ℕ) : Value.test .ge (.ofNat k) s.maxFiles = .ok (decide (n ≤ k)) := by
  have htest := Value.test_of_number (a := .ofNat k) (b := .int n) rfl rfl .ge
  rw [hmax, htest]
  refine congrArg Except.ok (Bool.eq_iff_iff.2 ?_)
  rw [Comparison.ofNumbers_int, decide_eq_true_iff]
  exact Int.ofNat_le

/-- At the limit the files that are left over are given up with a warning. -/
theorem readAll_of_full {files : List SourceFile} (hfull : n ≤ files.length) (path : String)
    (rest : List String) :
    readAll w s root access files (path :: rest) = ⟨[limitWarning n], .ok files⟩ := by
  have hreached : (liftM (Value.test .ge (.ofNat files.length) s.maxFiles) : Traced Bool).outcome =
      .ok true := by
    rw [Traced.outcome_liftM_misuse, test_maxFiles hmax, decide_eq_true hfull]
    rfl
  have hinteger : (liftM s.maxFiles.toInteger : Traced ℤ).outcome = .ok n := by
    rw [Traced.outcome_liftM_misuse, hmax]
    rfl
  rw [readAll, Traced.bind_of_ok hreached, if_pos rfl, Traced.bind_of_ok hinteger]
  rfl

/-- Below the limit a file is read, and added if it is neither too large nor binary. -/
theorem readAll_of_room {files : List SourceFile} (hroom : files.length < n) {path : String}
    {trail : List Event} {content : Option String}
    (hread : readOrSkip w s root path access = ⟨trail, .ok content⟩) (rest : List String) :
    readAll w s root access files (path :: rest) =
      ⟨trail ++
        (readAll w s root access (files ++ (content.map (SourceFile.mk path)).toList) rest).trail,
        (readAll w s root access (files ++ (content.map (SourceFile.mk path)).toList)
          rest).outcome⟩ := by
  have hreached : (liftM (Value.test .ge (.ofNat files.length) s.maxFiles) : Traced Bool).outcome =
      .ok false := by
    rw [Traced.outcome_liftM_misuse, test_maxFiles hmax, decide_eq_false (Nat.not_le.2 hroom)]
    rfl
  rw [readAll, Traced.bind_of_ok hreached, if_neg Bool.false_ne_true, hread]
  cases content with
  | none =>
    rw [Option.map_none, Option.toList_none, List.append_nil]
    rfl
  | some content => rfl

variable {reads : String → Option String} {paths : List String}
  (hreads : ∀ path ∈ paths, ∃ trail, readOrSkip w s root path access = ⟨trail, .ok (reads path)⟩ ∧
    Quiet trail)

include hreads

/-- All files are read up to the limit. -/
theorem readAll_outcome (files : List SourceFile) (hroom : files.length ≤ n) :
    (readAll w s root access files paths).outcome =
      .ok (files ++ (filesAt reads paths).take (n - files.length)) := by
  induction paths generalizing files with
  | nil => simp [readAll, filesAt, Pure.pure, Traced.pure]
  | cons path rest ih =>
    rcases hroom.eq_or_lt with hfull | hlt
    · rw [readAll_of_full hmax hfull.ge, ← hfull, Nat.sub_self, List.take_zero, List.append_nil]
    · obtain ⟨trail, hread, -⟩ := hreads path List.mem_cons_self
      rw [readAll_of_room hmax hlt hread, filesAt_cons]
      generalize hadded : ((reads path).map (SourceFile.mk path)).toList = added
      have hlength : added.length ≤ 1 := hadded ▸ Option.length_toList_le
      have htake : added.take (n - files.length) = added := List.take_of_length_le (by omega)
      have hrest := ih (fun p hp => hreads p (List.mem_cons_of_mem _ hp)) (files ++ added)
        (by rw [List.length_append]; omega)
      rw [hrest, List.append_assoc, List.take_append, htake, List.length_append, Nat.sub_add_eq]

/-- There is a warning just when a path is left over behind as many files as the limit allows. -/
theorem readAll_warns_iff (files : List SourceFile) :
    limitWarning n ∈ (readAll w s root access files paths).trail ↔
      ∃ before path after, paths = before ++ path :: after ∧
      n ≤ files.length + (filesAt reads before).length := by
  induction paths generalizing files with
  | nil => simp [readAll, Pure.pure, Traced.pure]
  | cons path rest ih =>
    by_cases hfull : n ≤ files.length
    · rw [readAll_of_full hmax hfull]
      exact iff_of_true List.mem_cons_self ⟨[], path, rest, rfl, Nat.le_add_right_of_le hfull⟩
    · obtain ⟨trail, hread, hquiet⟩ := hreads path List.mem_cons_self
      have hnot : limitWarning n ∉ trail := by
        intro hmem
        obtain ⟨message, hmessage⟩ := hquiet _ hmem
        cases hmessage
      rw [readAll_of_room hmax (Nat.not_le.1 hfull) hread, List.mem_append, or_iff_right hnot,
        ih (fun p hp => hreads p (List.mem_cons_of_mem _ hp))]
      constructor
      · rintro ⟨before, left, after, rfl, hn⟩
        refine ⟨path :: before, left, after, rfl, ?_⟩
        rwa [filesAt_cons, List.length_append, ← Nat.add_assoc, ← List.length_append]
      · rintro ⟨before, left, after, hsplit, hn⟩
        cases before with
        | nil => exact absurd hn hfull
        | cons first before =>
          obtain ⟨rfl, rfl⟩ := List.cons.inj hsplit
          refine ⟨before, left, after, rfl, ?_⟩
          rwa [filesAt_cons, List.length_append, ← Nat.add_assoc, ← List.length_append] at hn

end ReadAll

/-! ## Files in order -/

section Order

variable {reads : String → Option String} {paths : List String}

theorem path_mem_of_mem_filesAt {f : SourceFile} (h : f ∈ filesAt reads paths) :
    f.path ∈ paths := by
  obtain ⟨path, hpath, hf⟩ := List.mem_filterMap.1 h
  obtain ⟨content, -, rfl⟩ := Option.map_eq_some_iff.1 hf
  exact hpath

theorem pairwise_filesAt (h : paths.Pairwise (· < ·)) :
    (filesAt reads paths).Pairwise fun f g => f.path < g.path := by
  refine h.filterMap _ fun path path' hlt f hf g hg => ?_
  obtain ⟨content, -, rfl⟩ := Option.map_eq_some_iff.1 hf
  obtain ⟨content', -, rfl⟩ := Option.map_eq_some_iff.1 hg
  exact hlt

@[simp] theorem filesAt_append (before after : List String) :
    filesAt reads (before ++ after) = filesAt reads before ++ filesAt reads after :=
  List.filterMap_append

/-- A path is left over behind `n` files just when `n` files are taken and it comes after all of
them. -/
theorem left_over_iff (h : paths.Pairwise (· < ·)) (n : ℕ) :
    (∃ before path after, paths = before ++ path :: after ∧ n ≤ (filesAt reads before).length) ↔
      ((filesAt reads paths).take n).length = n ∧
        ∃ path ∈ paths, ∀ f ∈ (filesAt reads paths).take n, f.path < path := by
  constructor
  · rintro ⟨before, path, after, rfl, hn⟩
    have hbefore := (List.pairwise_append.1 h).2.2
    rw [filesAt_append, List.take_append_of_le_length hn]
    refine ⟨by rw [List.length_take, Nat.min_eq_left hn], path, by simp, fun f hf => ?_⟩
    exact hbefore _ (path_mem_of_mem_filesAt (List.mem_of_mem_take hf)) _ List.mem_cons_self
  · rintro ⟨hlength, path, hpath, hbefore⟩
    obtain ⟨before, after, rfl⟩ := List.append_of_mem hpath
    refine ⟨before, path, after, rfl, ?_⟩
    by_contra hn
    -- otherwise a file behind the path would be among those that are taken
    rw [filesAt_append, List.take_append, List.take_of_length_le (Nat.le_of_not_le hn)]
      at hlength hbefore
    rw [List.length_append] at hlength
    obtain ⟨f, hf⟩ := List.exists_mem_of_length_pos
      (show 0 <
        ((filesAt reads (path :: after)).take (n - (filesAt reads before).length)).length by omega)
    have hlt := hbefore f (List.mem_append_right _ hf)
    rcases List.mem_cons.1 (path_mem_of_mem_filesAt (List.mem_of_mem_take hf)) with heq | hafter
    · exact lt_irrefl _ (heq ▸ hlt)
    · exact lt_asymm hlt (List.rel_of_pairwise_cons (List.pairwise_append.1 h).2.1 hafter)

end Order

/-! ## The snapshot -/

/-- A file that belongs into a snapshot: a walk should find it, it can be read, it is not too large,
and no zero byte is near its start. -/
def Belongs (walk : Walk) (tree : Node) (limit : ℤ) (f : SourceFile) : Prop :=
  ∃ parents name data, walk.Finds tree parents name data ∧
    (∀ look, look ≠ .entries → walk.access.denies look (walk.route (parents ++ [name])) = false) ∧
    (data.size : ℤ) ≤ limit ∧ 0 ∉ data.data.toList.take 8192 ∧
    f = ⟨pathOf parents name, Text.Utf8.decode data⟩

/-- All files that belong into a snapshot, in the order of their paths. -/
structure Listing (walk : Walk) (tree : Node) (limit : ℤ) (all : List SourceFile) : Prop where
  sorted : all.Pairwise fun f g => f.path < g.path
  mem_iff : ∀ f, f ∈ all ↔ Belongs walk tree limit f

theorem content?_eq_some_iff {data : ByteArray} {content : String} :
    content? limit data = some content ↔
      (data.size : ℤ) ≤ limit ∧ 0 ∉ data.data.toList.take 8192 ∧
      content = Text.Utf8.decode data := by
  unfold content?
  split_ifs with hsize hbinary
  · simp [hsize]
  · have hzero : 0 ∈ data.data.toList.take 8192 := by
      by_contra hzero
      rw [(isBinary_eq_false_iff data).2 hzero] at hbinary
      cases hbinary
    simp [hzero]
  · have hzero := (isBinary_eq_false_iff data).1 (Bool.eq_false_iff.2 hbinary)
    simp only [Option.some.injEq, not_lt.1 hsize, true_and, eq_comm]
    exact (and_iff_right hzero).symm

theorem rooted_of_resolve {route : Route} (h : w.resolve route access = .ok root) :
    root.root ≠ "" := by
  have hslash : "/" ≠ "" := by decide
  unfold World.resolve at h
  dsimp only at h
  split_ifs at h
  · rw [← Except.ok.inj h]
    exact hslash
  · split at h
    · cases h
    · rw [← Except.ok.inj h]
      exact hslash

theorem validateRoot_ok {route : Route} (h : validateRoot w route access = .ok root) :
    root.root ≠ "" ∧ w.isDirectory root = true := by
  cases hresolve : w.resolve route access with
  | error f =>
    rw [validateRoot, hresolve] at h
    rcases resolve_error hresolve with ⟨rfl, -⟩ | ⟨path, rfl⟩
    · cases h
    · cases h
  | ok resolved =>
    rw [validateRoot_of_resolve hresolve] at h
    by_cases hdenied : access.denies .target resolved = true
    · rw [if_pos hdenied] at h
      cases h
    rw [if_neg hdenied, bind_eq_ok] at h
    obtain ⟨found, -, h⟩ := h
    split_ifs at h with hfound hdirectory
    · cases h
    · cases h
    · cases h
    · obtain rfl := Except.ok.inj h
      exact ⟨rooted_of_resolve hresolve, by simpa using hdirectory⟩

section Finds

variable {tree : Node} {walk : Walk} {parents : List String} {name : String} {data : ByteArray}

/-- The route of a file in a tree, by its path. -/
theorem Walk.join_pathOf (hold : walk.world.Holds walk.root tree) {node : Node}
    (hat : tree.at? (parents ++ [name]) = some node) :
    walk.root.join (Route.ofText (pathOf parents name)) = walk.route (parents ++ [name]) := by
  rw [pathOf, Route.ofText_intercalate (hold.sound.at? hat).2]
  rfl

/-- Where nothing stops the walk, a file that it finds has a path that is not too long. -/
theorem Walk.Finds.shows (h : walk.Finds tree parents name data)
    (hfree : ∀ f, ¬ walk.Stops tree parents f) :
    walk.Shows (parents ++ [name]) := by
  by_contra hnot
  exact hfree _ (.entry ⟨h.listed, ⟨_, h.file, rfl⟩, h.kept⟩ hnot)

/-- What is read of a file that the walk finds. -/
theorem Walk.Finds.readsAt_eq_some_iff (h : walk.Finds tree parents name data)
    (hold : walk.world.Holds walk.root tree) (hfree : ∀ f, ¬ walk.Stops tree parents f)
    {content : String} :
    readsAt walk.world walk.root walk.access limit (pathOf parents name) = some content ↔
      (∀ look, look ≠ .entries → walk.access.denies look (walk.route (parents ++ [name])) = false) ∧
        (data.size : ℤ) ≤ limit ∧ 0 ∉ data.data.toList.take 8192 ∧
        content = Text.Utf8.decode data := by
  have hfind : walk.world.find (walk.route (parents ++ [name])) = .ok (.file data) :=
    hold.find_below h.file (h.shows hfree).2 rfl
  rw [readsAt, Walk.join_pathOf hold h.file, contentAt, hfind]
  split_ifs with hdenied
  · refine iff_of_false (by simp) ?_
    rintro ⟨hlooks, -⟩
    rw [hlooks .target (by simp), hlooks .bytes (by simp)] at hdenied
    cases hdenied
  · rw [Bool.or_eq_true, not_or, Bool.not_eq_true, Bool.not_eq_true] at hdenied
    rw [content?_eq_some_iff]
    refine (and_iff_right ?_).symm
    intro look hlook
    cases look with
    | target => exact hdenied.1
    | entries => exact absurd rfl hlook
    | bytes => exact hdenied.2

end Finds

/-- The files that are read at the paths of a walk are all that belong into the snapshot. -/
theorem listing_filesAt (walk : Walk) (limit : ℤ) {tree : Node}
    (hold : walk.world.Holds walk.root tree) (hfree : ∀ parents f, ¬ walk.Stops tree parents f)
    {paths : List String} (hsorted : paths.Pairwise (· < ·)) (hmem : ∀ path, path ∈ paths ↔
      ∃ parents name data, walk.Finds tree parents name data ∧ path = pathOf parents name) :
    Listing walk tree limit (filesAt (readsAt walk.world walk.root walk.access limit) paths) := by
  refine ⟨pairwise_filesAt hsorted, fun f => ?_⟩
  rw [filesAt, List.mem_filterMap]
  constructor
  · rintro ⟨path, hpath, hf⟩
    obtain ⟨parents, name, data, hfinds, rfl⟩ := (hmem path).1 hpath
    obtain ⟨content, hcontent, rfl⟩ := Option.map_eq_some_iff.1 hf
    obtain ⟨hlooks, hsize, hzero, rfl⟩ :=
      (hfinds.readsAt_eq_some_iff hold (hfree parents)).1 hcontent
    exact ⟨parents, name, data, hfinds, hlooks, hsize, hzero, rfl⟩
  · rintro ⟨parents, name, data, hfinds, hlooks, hsize, hzero, rfl⟩
    refine ⟨pathOf parents name, (hmem _).2 ⟨parents, name, data, hfinds, rfl⟩, ?_⟩
    rw [(hfinds.readsAt_eq_some_iff hold (hfree parents)).2 ⟨hlooks, hsize, hzero, rfl⟩]
    rfl

theorem enumerate_of_stopped {path : String} {selection : Selection} {f : Failure}
    (hroot : validateRoot w (Route.ofText path) access = .ok root)
    (hpaths : filesBelow w selection root access = .error f) :
    (enumerate w selection path access).outcome = .error f := by
  rw [enumerate, Traced.outcome_bind_of_ok hroot]
  exact Traced.outcome_bind_of_error hpaths _

theorem enumerate_of_read {path : String} {selection : Selection} {paths : List String}
    {files : List SourceFile} (hroot : validateRoot w (Route.ofText path) access = .ok root)
    (hpaths : filesBelow w selection root access = .ok paths)
    (hfiles : (readAll w selection.settings root access [] paths).outcome = .ok files) :
    ∃ message, enumerate w selection path access =
      ⟨(readAll w selection.settings root access [] paths).trail ++ [.log .debug message],
        .ok files⟩ := by
  rw [enumerate, Traced.bind_of_ok (a := root) hroot, Traced.bind_of_ok (a := paths) hpaths,
    Traced.bind_of_ok hfiles]
  exact ⟨_, rfl⟩

/-- **Snapshots.**  Where nothing stops the walk, a snapshot is the list of all files that belong
into it, from its start up to the limit, and it comes with a warning just when a file that the walk
finds is left over.  Where something does, the snapshot fails with it.  Both hold whatever the
system keeps from the program. -/
theorem enumerate_snapshot {path : String} {tree : Node} {dirs : List String} {n : ℕ}
    (hroot : validateRoot w (Route.ofText path) access = .ok root) (htree : w.find root = .ok tree)
    (hsound : tree.Sound) (hdirs : s.excludedDirs = .ofTexts dirs)
    (hlinks : s.followLinks.truthy = false) (hmax : s.maxFiles = .int n)
    (hlimit : s.maxFileBytes = .ok limit) :
    let walk := (Selection.usual s).walk w root dirs access
    (∃ parents f, walk.Stops tree parents f ∧
      (enumerate w (.usual s) path access).outcome = .error f) ∨
      (¬ ∃ parents f, walk.Stops tree parents f) ∧ ∃ all, Listing walk tree limit all ∧
        (enumerate w (.usual s) path access).outcome = .ok (all.take n) ∧
        (limitWarning n ∈ (enumerate w (.usual s) path access).trail ↔ (all.take n).length = n ∧
          ∃ parents name data, walk.Finds tree parents name data ∧
          ∀ f ∈ all.take n, f.path < pathOf parents name) := by
  intro walk
  obtain ⟨hrooted, hdirectory⟩ := validateRoot_ok hroot
  have hold : w.Holds root tree := ⟨hrooted, htree, hsound⟩
  obtain ⟨entries, rfl⟩ : ∃ entries, tree = .directory entries := by
    rw [World.isDirectory, htree] at hdirectory
    cases tree with
    | directory entries => exact ⟨entries, rfl⟩
    | file data => cases hdirectory
    | link target => cases hdirectory
  rcases filesBelow_spec (.usual s) access hold hdirs hlinks with
    ⟨parents, f, hstops, hfail⟩ | ⟨hfree, paths, hpaths, hsorted, hmem⟩
  · exact .inl ⟨parents, f, hstops, enumerate_of_stopped hroot hfail⟩
  have hreads : ∀ path ∈ paths, ∃ trail,
      readOrSkip w s root path access = ⟨trail, .ok (readsAt w root access limit path)⟩ ∧
      Quiet trail :=
    fun path _ => readOrSkip_readsAt hlimit path
  have hread := readAll_outcome hmax hreads [] (Nat.zero_le n)
  obtain ⟨message, henumerate⟩ := enumerate_of_read hroot hpaths hread
  have hlisting :=
    listing_filesAt walk limit hold (fun parents f h => hfree ⟨parents, f, h⟩) hsorted hmem
  refine .inr ⟨hfree, filesAt (readsAt w root access limit) paths,
    hlisting, by rw [henumerate]; rfl, ?_⟩
  have hwarning : limitWarning n ∉ [Event.log .debug message] := by simp [limitWarning]
  rw [henumerate, List.mem_append, or_iff_left hwarning]
  refine ((readAll_warns_iff hmax hreads []).trans ?_)
  simp only [List.length_nil, Nat.zero_add]
  rw [left_over_iff hsorted]
  refine and_congr_right fun _ => ?_
  constructor
  · rintro ⟨path, hpath, hafter⟩
    obtain ⟨parents, name, data, hfinds, rfl⟩ := (hmem path).1 hpath
    exact ⟨parents, name, data, hfinds, hafter⟩
  · rintro ⟨parents, name, data, hfinds, hafter⟩
    exact ⟨pathOf parents name, (hmem _).2 ⟨parents, name, data, hfinds, rfl⟩, hafter⟩

/-- A world with the given entries at the top, which is the current directory. -/
def standingIn (entries : List (String × Node)) : World :=
  { oneFile with top := .directory entries }

theorem validateRoot_standingIn (entries : List (String × Node)) :
    validateRoot (standingIn entries) (Route.ofText ".") = .ok ⟨"/", []⟩ := by rfl

theorem find_standingIn (entries : List (String × Node)) :
    (standingIn entries).find ⟨"/", []⟩ = .ok (.directory entries) := by rfl

/-- Two directories whose order is not that of the paths in them, a link and a file to skip. -/
def mixed : List (String × Node) :=
  [("a", .directory [("x.js", .file "1".toUTF8)]), ("a-b", .directory [("x.js", .file "2".toUTF8)]),
    ("l.js", .link "a/x.js"), ("z.min.js", .file .empty)]

theorem sound_mixed : (Node.directory mixed).Sound := by
  have hinner (data : ByteArray) : (Node.directory [("x.js", .file data)]).Sound := by
    refine .directory (by simp) ?_ ?_
    · simp only [List.mem_singleton, forall_eq]
      decide
    · simp only [List.mem_singleton, forall_eq]
      exact .file data
  refine .directory (by decide) ?_ ?_
  · simp only [mixed, List.forall_mem_cons]
    decide
  · simp only [mixed, List.forall_mem_cons]
    exact ⟨hinner _, hinner _, .link _, .file _, nofun⟩

/-- Settings that allow a single file. -/
def singleFile : Settings := { Settings.default with maxFiles := .int 1 }

/-- The walk through entries at the top under the usual selection. -/
def walkIn (s : Settings) (entries : List (String × Node)) : Walk :=
  (Selection.usual s).walk (standingIn entries) ⟨"/", []⟩ Settings.defaultExcluded

theorem finds_mixed :
    (walkIn singleFile mixed).Finds (.directory mixed) ["a"] "x.js" "1".toUTF8 ∧
      (walkIn singleFile mixed).Finds (.directory mixed) ["a-b"] "x.js" "2".toUTF8 := by
  have hkept : ∀ pattern ∈ defaultSkipped, Text.Glob.accepts pattern "x.js" = false := by decide
  have hwanted : isSourceFile (pathOf ["a"] "x.js") = true ∧
      isSourceFile (pathOf ["a-b"] "x.js") = true := by
    decide +kernel
  exact ⟨⟨⟨by decide, fun _ _ => rfl, by decide⟩, rfl, hkept, hwanted.1⟩,
    ⟨⟨by decide, fun _ _ => rfl, by decide⟩, rfl, hkept, hwanted.2⟩⟩

theorem enumerate_snapshot_mixed :
    ∃ all, Listing (walkIn singleFile mixed) (.directory mixed) 10485760 all ∧
      (enumerate (standingIn mixed) (.usual singleFile) ".").outcome = .ok (all.take 1) ∧
      ⟨"a/x.js", "1"⟩ ∈ all ∧
      limitWarning 1 ∈ (enumerate (standingIn mixed) (.usual singleFile) ".").trail := by
  have hlimit : singleFile.maxFileBytes = .ok 10485760 := toOption_eq_some.1 (by decide)
  have hsnapshot :=
    enumerate_snapshot (validateRoot_standingIn mixed) (find_standingIn mixed) sound_mixed
    (s := singleFile) (n := 1) rfl rfl rfl hlimit
  have hold : (standingIn mixed).Holds ⟨"/", []⟩ (.directory mixed) :=
    ⟨by decide, find_standingIn mixed, sound_mixed⟩
  have hfree : ∀ parents f, ¬ (walkIn singleFile mixed).Stops (.directory mixed) parents f :=
    Walk.not_stops_of_span hold rfl (by decide)
  obtain ⟨hfirst, hsecond⟩ := finds_mixed
  rcases hsnapshot with ⟨parents, f, hstops, -⟩ | ⟨-, all, hlisting, houtcome, hwarns⟩
  · exact absurd hstops (hfree parents f)
  have hlater : ⟨"a/x.js", "1"⟩ ∈ all :=
    (hlisting.mem_iff _).2 ⟨_, _, _, hfirst,
      fun _ _ => rfl, by decide, by decide, by decide +kernel⟩
  have hsooner : ⟨"a-b/x.js", "2"⟩ ∈ all :=
    (hlisting.mem_iff _).2 ⟨_, _, _, hsecond,
      fun _ _ => rfl, by decide, by decide, by decide +kernel⟩
  have horder : "a-b/x.js" < pathOf ["a"] "x.js" := by decide
  refine ⟨all, hlisting, houtcome, hlater, hwarns.2 ?_⟩
  cases all with
  | nil => cases hlater
  | cons f rest =>
    refine ⟨rfl, ["a"], "x.js", _, hfirst, ?_⟩
    rintro _ (_ | ⟨_, ⟨⟩⟩)
    rcases List.mem_cons.1 hsooner with rfl | hrest
    · exact horder
    · exact lt_trans (List.rel_of_pairwise_cons hlisting.sorted hrest) horder

/-! ## Deep trees -/

/-- A name of 99 letters. -/
def longName : String := String.ofList (List.replicate 99 'd')

/-- The name of a source file, with 247 letters before its ending. -/
def longFile : String := String.ofList (List.replicate 247 'f' ++ ".js".toList)

/-- Directories within each other, and an empty file in the last. -/
def chain : ℕ → Node
  | 0 => .directory [(longFile, .file .empty)]
  | depth + 1 => .directory [(longName, chain depth)]

theorem proper_ofList {cs : List Char} (hne : cs ≠ [] ∧ cs ≠ ['.'] ∧ cs ≠ ['.', '.'])
    (hfree : '/' ∉ cs ∧ '\x00' ∉ cs) (hsize : (String.ofList cs).utf8ByteSize ≤ Tree.nameLimit) :
    Proper (String.ofList cs) := by
  have hne_ofList {ds : List Char} (h : cs ≠ ds) : String.ofList cs ≠ String.ofList ds :=
    fun heq => h (String.ofList_injective heq)
  exact ⟨hne_ofList hne.1, hne_ofList hne.2.1,
    hne_ofList hne.2.2, by simpa using hfree.1, by simpa using hfree.2, hsize⟩

@[simp] theorem size_longName : longName.utf8ByteSize = 99 :=
  (String.utf8ByteSize_ofList _).trans (by decide)

@[simp] theorem size_longFile : longFile.utf8ByteSize = 250 :=
  (String.utf8ByteSize_ofList _).trans (by decide +kernel)

theorem proper_longName : Proper longName :=
  proper_ofList (by decide) (by decide) (size_longName.trans_le (by decide))

theorem proper_longFile : Proper longFile :=
  proper_ofList (by decide) (by decide) (size_longFile.trans_le (by decide))

theorem sound_singleton {name : String} {node : Node} (hname : Proper name) (hnode : node.Sound) :
    (Node.directory [(name, node)]).Sound := by
  refine .directory (List.nodup_singleton _) ?_ ?_
  · simpa using hname
  · simpa using hnode

theorem sound_chain (depth : ℕ) : (chain depth).Sound := by
  induction depth with
  | zero => exact sound_singleton proper_longFile (.file _)
  | succ depth ih => exact sound_singleton proper_longName ih

theorem chain_at? (depth : ℕ) :
    (chain depth).at? (List.replicate depth longName ++ [longFile]) = some (.file .empty) := by
  induction depth with
  | zero => exact Node.at?_cons (by simp) []
  | succ depth ih =>
    have hlookup : [(longName, chain depth)].lookup longName = some (chain depth) :=
      List.lookup_cons_self
    rw [List.replicate_succ, List.cons_append, chain, Node.at?_cons hlookup, ih]

/-- A source file beside a chain of directories. -/
def deep : List (String × Node) := [("a.js", .file "x\n".toUTF8), (longName, chain 38)]

theorem sound_deep : (Node.directory deep).Sound := by
  refine .directory (by decide) ?_ ?_
  · simp only [deep, List.forall_mem_cons]
    exact ⟨by decide, proper_longName, nofun⟩
  · simp only [deep, List.forall_mem_cons]
    exact ⟨.file _, sound_chain 38, nofun⟩

theorem stops_deep :
    (walkIn .default deep).Stops (.directory deep) (List.replicate 39 longName)
      ((walkIn .default deep).failureAt (List.replicate 39 longName ++ [longFile])) := by
  have hlookup : deep.lookup longName = some (chain 38) :=
    sound_deep.lookup_iff.2 (List.mem_cons_of_mem _ List.mem_cons_self)
  have hat : (Node.directory deep).at? (List.replicate 39 longName ++ [longFile]) =
      some (.file .empty) :=
    (Node.at?_cons hlookup _).trans (chain_at? 38)
  have hkept : ∀ pattern ∈ defaultSkipped, Text.Glob.accepts pattern longFile = false := by
    have hletters : longFile.toList = List.replicate 247 'f' ++ ".js".toList := String.toList_ofList
    simp only [Text.Glob.accepts, hletters]
    decide +kernel
  have hroot : (walkIn .default deep).root = ⟨"/", []⟩ := rfl
  have hslash : "/".utf8ByteSize = 1 := by decide
  refine .entry ⟨⟨?_, fun _ _ => rfl, ?_⟩, ⟨_, hat, rfl⟩, hkept⟩ fun hshows => ?_
  · intro parent hparent
    rw [List.eq_of_mem_replicate hparent]
    decide
  · rw [Walk.route_eq, hroot, Route.size_text_rooted (by decide), hslash]
    simp [Tree.pathLimit]
  · refine absurd hshows.2 (Nat.not_le.2 ?_)
    rw [Walk.route_eq, hroot, Route.size_text_rooted (by decide), hslash]
    simp [Tree.pathLimit]

/-- An empty file with a path that is too long leaves no snapshot at all, though another file
belongs into it. -/
theorem enumerate_fails_deep :
    Belongs (walkIn .default deep) (.directory deep) 10485760 ⟨"a.js", "x\n"⟩ ∧
      ∃ path, (enumerate (standingIn deep) (.usual .default) ".").outcome =
        .error (.unreachable .nameTooLong path) := by
  have hfinds : (walkIn .default deep).Finds (.directory deep) [] "a.js" "x\n".toUTF8 :=
    ⟨⟨by simp, fun _ _ => rfl, by decide⟩, rfl, by decide, by decide +kernel⟩
  have hold : (standingIn deep).Holds ⟨"/", []⟩ (.directory deep) :=
    ⟨by decide, find_standingIn deep, sound_deep⟩
  refine ⟨⟨_, _, _, hfinds, fun _ _ => rfl, by decide, by decide, by decide +kernel⟩, ?_⟩
  rcases filesBelow_spec (.usual .default) .full hold rfl rfl with ⟨parents, f, hstops, hfail⟩ |
    ⟨hfree, -⟩
  · have houtcome := enumerate_of_stopped (validateRoot_standingIn deep) hfail
    obtain ⟨path, rfl⟩ := hstops.eq_of_full rfl
    exact ⟨path, houtcome⟩
  · exact absurd ⟨_, _, stops_deep⟩ hfree

end SourceSurvey.Corpus
