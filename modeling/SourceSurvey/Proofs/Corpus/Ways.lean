import SourceSurvey.Proofs.Corpus.Walk
import SourceSurvey.Proofs.Tree.Leads

/-!
# Ways that a walk takes

A walk that follows links goes along every way from its root, over directories and links to
directories.  What it takes is said by the names on the way: `Walk.Allows` for the entries that it
takes if it meets them, and `Walk.Reaches` for those that lead to a file.

* `length_le_of_leads`: a way with few links is not long, so the walk goes deep enough;
* `Walk.mem_filesBelow`: all entries that lead to a file are taken;
* `Walk.taken_filesBelow`: only entries that are allowed are taken, each once.
-/

namespace SourceSurvey.Corpus

/-! ## How far ways reach -/

theorem length_add_height_le {node inner : Node} {names : List String}
    (h : node.at? names = some inner) :
    names.length + height inner ≤ height node := by
  induction names generalizing node with
  | nil =>
    obtain rfl := Option.some.inj h
    exact (Nat.zero_add _).le
  | cons name names ih =>
    obtain ⟨entries, next, rfl, hlookup, hnext⟩ := Node.exists_entry_of_at? h
    have hentry := height_le_of_mem (Node.mem_of_lookup hlookup)
    have hdeeper := ih hnext
    rw [List.length_cons, height]
    omega

/-- A way leads down between one link and the next, and so along no more names than the tree is
high. -/
theorem length_le_of_leads {top : Node} {k : ℕ} {here place : Place} {names : List String}
    (h : Tree.Leads top k here names place) (hnames : ∀ name ∈ names, Proper name) :
    names.length ≤ (height top - here.length) + k * (height top + 1) := by
  induction k using Nat.strong_induction_on generalizing here names with
  | _ k ihLinks =>
    induction names generalizing here with
    | nil => exact Nat.zero_le _
    | cons name names ihNames =>
      obtain ⟨hname, hrest⟩ := List.forall_mem_cons.1 hnames
      cases h with
      | stay => exact absurd rfl hname.ne_here
      | up => exact absurd rfl hname.ne_up
      | step hhere _ _ _ h =>
        have hdeep := length_add_height_le hhere
        have hgoesOn := ihNames h hrest
        rw [height] at hdeep
        rw [List.length_append, List.length_singleton] at hgoesOn
        rw [List.length_cons]
        omega
      | @link k _ _ _ target _ _ _ _ _ h =>
        obtain ⟨i, j, mid, hsum, -, h⟩ := h.split
        have hgoesOn := ihLinks j (by omega) h hrest
        have hlinks : j * (height top + 1) ≤ k * (height top + 1) :=
          Nat.mul_le_mul_right _ (by omega)
        rw [List.length_cons, Nat.succ_mul]
        omega

/-! ## Places below the root of a walk -/

variable {walk : Walk} {below parents names more : List String} {name : String} {place : Place}
  {node : Node} {entries : List (String × Node)}

/-- The place that names below the root lead to, at the end of all links. -/
def Walk.locate (walk : Walk) (names : List String) : Except Obstacle Place :=
  Tree.locate walk.world.top walk.world.here true (walk.route names)

theorem Walk.find_eq_ok_iff : walk.world.find (walk.route names) = .ok node ↔
    ∃ place, walk.locate names = .ok place ∧ walk.world.top.at? place = some node :=
  Tree.find_eq_ok_iff

section Rooted

variable (hrooted : walk.root.root ≠ "")

include hrooted

theorem Walk.locate_eq_ok_iff : walk.locate names = .ok place ↔
    (walk.route names).hasZero = false ∧ (walk.route names).Fits ∧
      ∃ k ≤ Tree.linkLimit, Tree.Leads walk.world.top k [] (walk.root.names ++ names) place := by
  have hstart : (walk.route names).root ≠ "" := hrooted
  rw [Walk.locate, Tree.locate, if_neg hstart, ← Tree.walk_eq_ok_iff, Route.Fits]
  split_ifs with hzero hlong
  · simp [hzero]
  · simp [Nat.not_le.2 hlong]
  · rw [and_iff_right (Bool.eq_false_iff.2 hzero), and_iff_right (Nat.not_lt.1 hlong)]
    rfl

/-- A way below the root goes over the place that its first names lead to. -/
theorem Walk.locate_split (h : walk.locate (names ++ more) = .ok place) :
    ∃ k mid, k ≤ Tree.linkLimit ∧ walk.locate names = .ok mid ∧
    Tree.Leads walk.world.top k mid more place := by
  obtain ⟨hzero, hfits, k, hk, hleads⟩ := (Walk.locate_eq_ok_iff hrooted).1 h
  rw [← List.append_assoc] at hleads
  obtain ⟨i, j, mid, rfl, hnames, hmore⟩ := hleads.split
  refine ⟨j, mid, by omega,
    (Walk.locate_eq_ok_iff hrooted).2 ⟨?_, hfits.of_append hrooted, i, by omega, hnames⟩, hmore⟩
  rw [Route.hasZero, Walk.route_eq, Route.below_eq, ← List.append_assoc, List.any_append,
    Bool.or_eq_false_iff] at hzero
  exact hzero.1

/-- What comes before a name on a way below the root is a directory with an entry of that name. -/
theorem Walk.entry_of_locate (h : walk.locate (below ++ name :: more) = .ok place)
    (hname : Proper name) :
    ∃ mid entries node, walk.locate below = .ok mid ∧
    walk.world.top.at? mid = some (.directory entries) ∧
      entries.lookup name = some node := by
  obtain ⟨_, mid, -, hmid, hleads⟩ := Walk.locate_split hrooted h
  cases hleads with
  | stay => exact absurd rfl hname.ne_here
  | up => exact absurd rfl hname.ne_up
  | step hhere _ hentry _ _ => exact ⟨mid, _, _, hmid, hhere, hentry⟩
  | link hhere _ hentry _ => exact ⟨mid, _, _, hmid, hhere, hentry⟩

/-- An entry that is no link is what its name leads to. -/
theorem Walk.at?_of_locate {mid : Place} (hmid : walk.locate below = .ok mid)
    (hdirectory : walk.world.top.at? mid = some (.directory entries))
    (hentry : entries.lookup name = some node) (hnode : node.isLink = false) (hname : Proper name)
    (h : walk.locate (below ++ [name]) = .ok place) :
    walk.world.top.at? place = some node := by
  have hat : (Node.directory entries).at? [name] = some node := Node.at?_cons hentry []
  obtain ⟨_, mid', -, hmid', hleads⟩ := Walk.locate_split hrooted h
  obtain rfl := Except.ok.inj (hmid.symm.trans hmid')
  obtain rfl : place = mid ++ [name] :=
    hleads.unique (.of_at? hdirectory (List.forall_mem_singleton.2 hname) hat hnode)
  rw [Node.at?_append, hdirectory, Option.bind_some, hat]

/-- An entry counts as a directory when its name leads to one. -/
theorem Walk.isDirectoryEntry_of_locate {mid : Place} {inner : Node}
    (hmid : walk.locate below = .ok mid)
    (hdirectory : walk.world.top.at? mid = some (.directory entries))
    (hentry : entries.lookup name = some node) (hname : Proper name)
    (h : walk.locate (below ++ [name]) = .ok place) (hinner : walk.world.top.at? place = some inner)
    (haccess : walk.access = .full) :
    isDirectoryEntry walk.world (walk.route (below ++ [name])) node walk.access =
      inner.isDirectory := by
  cases node with
  | link target =>
    rw [isDirectoryEntry, haccess, Access.denies_full, World.isDirectory,
      Walk.find_eq_ok_iff.2 ⟨_, h, hinner⟩, Bool.not_false, Bool.true_and]
  | file data =>
    have hsame := Walk.at?_of_locate hrooted hmid hdirectory hentry rfl hname h
    rw [Option.some.inj (hinner.symm.trans hsame)]
    rfl
  | directory inner =>
    have hsame := Walk.at?_of_locate hrooted hmid hdirectory hentry rfl hname h
    rw [Option.some.inj (hinner.symm.trans hsame)]
    rfl

/-- An entry on a way below the root can be looked at. -/
theorem Walk.findLink_of_locate {mid : Place} (hmid : walk.locate below = .ok mid)
    (hdirectory : walk.world.top.at? mid = some (.directory entries))
    (hentry : entries.lookup name = some node) (hname : Proper name)
    (hzero : (walk.route (below ++ [name])).hasZero = false)
    (hfits : (walk.route (below ++ [name])).Fits) :
    Tree.findLink walk.world.top walk.world.here (walk.route (below ++ [name])) = .ok node := by
  have hat : (Node.directory entries).at? [name] = some node := Node.at?_cons hentry []
  obtain ⟨-, -, k, hk, hleads⟩ := (Walk.locate_eq_ok_iff hrooted).1 hmid
  obtain ⟨spare, hspare⟩ : ∃ spare, Tree.walk walk.world.top false Tree.linkLimit []
      ((walk.root.names ++ below) ++ [name]) = Tree.walk walk.world.top false spare mid [name] :=
    Tree.walk_append (.inr (List.cons_ne_nil name [])) (hleads.walk hk)
  have hwalk : Tree.walk walk.world.top false spare mid [name] = .ok (mid ++ [name]) :=
    Tree.walk_of_at? hdirectory (List.forall_mem_singleton.2 hname)
      hat (fun h => absurd h Bool.false_ne_true) spare
  have hstart : (walk.route (below ++ [name])).root ≠ "" := hrooted
  refine Tree.findLink_eq_ok_iff.2 ⟨mid ++ [name], ?_, ?_⟩
  · rw [Tree.locate, hzero, if_neg Bool.false_ne_true, if_neg (Nat.not_lt.2 hfits), if_neg hstart]
    rw [List.append_assoc] at hspare
    exact hspare.trans hwalk
  · rw [Node.at?_append, hdirectory, Option.bind_some, hat]

end Rooted

/-! ## Ways of a walk -/

/-- An entry that a walk takes if it is there and can be looked at: its names are proper, no
excluded directory leads to it, its last name fits no skip pattern, and its path is wanted. -/
structure Walk.Allows (walk : Walk) (parents : List String) (name : String) : Prop where
  proper : ∀ part ∈ parents ++ [name], Proper part
  entered : ∀ parent ∈ parents, parent ∉ walk.excluded
  kept : ∀ pattern ∈ walk.skipped, Text.Glob.accepts pattern name = false
  wanted : walk.wanted (pathOf parents name) = true

/-- An entry that a walk takes, with the file that it leads to at the end of all links. -/
structure Walk.Reaches (walk : Walk) (parents : List String) (name : String) (place : Place)
    (data : ByteArray) : Prop extends walk.Allows parents name where
  leads : walk.locate (parents ++ [name]) = .ok place
  file : walk.world.top.at? place = some (.file data)

theorem Walk.allowed_of_takes (h : walk.takes below name node = .ok true) :
    (∀ pattern ∈ walk.skipped, Text.Glob.accepts pattern name = false) ∧
    walk.wanted (pathOf below name) = true := by
  unfold Walk.takes at h
  split_ifs at h with hskipped
  · cases h
  refine ⟨by simpa using hskipped, ?_⟩
  split at h
  · cases h
  · have htaken := Except.ok.inj h
    rw [Bool.and_eq_true] at htaken
    exact htaken.2

theorem Walk.takes_of_allowed (hlinks : walk.followLinks = true) (haccess : walk.access = .full)
    (hallowed : walk.Allows below name) {inner : Node}
    (hlook : Tree.findLink walk.world.top walk.world.here (walk.route (below ++ [name])) =
      .ok inner) :
    walk.takes below name node = .ok true := by
  have hskipped : ¬ walk.skipped.any (Text.Glob.accepts · name) = true := by
    simpa using hallowed.kept
  have hwanted : walk.wanted (String.intercalate "/" (below ++ [name])) = true := hallowed.wanted
  rw [Walk.takes, if_neg hskipped, haccess, Access.hides_full, if_neg Bool.false_ne_true, hlook,
    hlinks, hwanted]
  simp

/-! ## What a walk takes -/

section Reaches

variable {data : ByteArray} (hrooted : walk.root.root ≠ "") (hlinks : walk.followLinks = true)
  (haccess : walk.access = .full)

include hrooted hlinks haccess

/-- An entry that leads to a file is taken in the directory that its parents lead to. -/
theorem Walk.Reaches.taken (h : walk.Reaches parents name place data) :
    ∃ entries node, walk.world.find (walk.route parents) = .ok (.directory entries) ∧
      (name, node) ∈ walk.plain parents entries ∧ walk.takes parents name node = .ok true := by
  have hname := h.proper name (by simp)
  obtain ⟨mid, entries, node, hmid, hdirectory, hentry⟩ :=
    Walk.entry_of_locate hrooted h.leads hname
  have hplain :=
    Walk.isDirectoryEntry_of_locate hrooted hmid hdirectory hentry hname h.leads h.file haccess
  obtain ⟨hzero, hfits, -⟩ := (Walk.locate_eq_ok_iff hrooted).1 h.leads
  have hlook := Walk.findLink_of_locate hrooted hmid hdirectory hentry hname hzero hfits
  refine ⟨entries, node, Walk.find_eq_ok_iff.2 ⟨mid, hmid, hdirectory⟩, ?_,
    Walk.takes_of_allowed hlinks haccess h.toAllows hlook⟩
  exact List.mem_filter.2 ⟨Node.mem_of_lookup hentry, by simp [hplain, Node.isDirectory]⟩

/-- The first directory on the way to a file is entered. -/
theorem Walk.Reaches.entered_subdirectory {next : String} {rest : List String}
    (h : walk.Reaches (below ++ [next] ++ rest) name place data) :
    ∃ entries, walk.world.find (walk.route below) = .ok (.directory entries) ∧
      next ∈ walk.subdirectories below entries := by
  obtain ⟨first, more, hmore⟩ := List.exists_cons_of_ne_nil (List.concat_ne_nil name rest)
  have hproper := h.proper
  have hleads := h.leads
  rw [List.append_assoc _ rest, hmore] at hproper hleads
  -- the name behind it makes it a directory
  obtain ⟨inside, inner, -, hinside, hinner, -⟩ :=
    Walk.entry_of_locate hrooted hleads (hproper first (by simp))
  rw [List.append_assoc] at hleads
  have hnext := hproper next (by simp)
  obtain ⟨mid, entries, node, hmid, hdirectory, hentry⟩ := Walk.entry_of_locate hrooted hleads hnext
  have hcounts :=
    Walk.isDirectoryEntry_of_locate hrooted hmid hdirectory hentry hnext hinside hinner haccess
  have hexcluded := h.entered next (by simp)
  refine ⟨entries, Walk.find_eq_ok_iff.2 ⟨mid, hmid, hdirectory⟩, ?_⟩
  exact Walk.mem_subdirectories_iff.2
    ⟨node, Node.mem_of_lookup hentry, hcounts, by simp [Walk.enters, hlinks, hexcluded]⟩

/-- A walk that succeeds takes each entry that leads to a file, as far down as it may go. -/
theorem Walk.mem_filesBelow (hreaches : walk.Reaches parents name place data) {depth : ℕ}
    {paths : List String} (h : walk.filesBelow depth below = .ok paths)
    (hwithin : below <+: parents) (hdepth : parents.length < below.length + depth) :
    pathOf parents name ∈ paths := by
  have hlist (names : List String) : walk.access.denies .entries (walk.route names) = false := by
    rw [haccess, Access.denies_full]
  induction depth generalizing below paths with
  | zero => exact absurd hwithin.length_le (Nat.not_le.2 hdepth)
  | succ depth ih =>
    rcases within_cases hwithin with rfl | ⟨next, rest, rfl⟩
    · obtain ⟨entries, node, hfind, hplain, htakes⟩ := hreaches.taken hrooted hlinks haccess
      rw [Walk.filesBelow_succ (hlist _) hfind] at h
      obtain ⟨taken, htaken, h⟩ := bind_eq_ok.1 h
      obtain ⟨_, -, h⟩ := bind_eq_ok.1 h
      obtain ⟨deeper, -, h⟩ := bind_eq_ok.1 h
      obtain rfl := Except.ok.inj h
      have hmem := (mem_filterM htaken).2 ⟨hplain, htakes⟩
      exact List.mem_append_left _ (List.mem_map.2 ⟨_, hmem, rfl⟩)
    · obtain ⟨entries, hfind, hnext⟩ := hreaches.entered_subdirectory hrooted hlinks haccess
      rw [Walk.filesBelow_succ (hlist _) hfind] at h
      obtain ⟨taken, -, h⟩ := bind_eq_ok.1 h
      obtain ⟨_, -, h⟩ := bind_eq_ok.1 h
      obtain ⟨deeper, hdeeper, h⟩ := bind_eq_ok.1 h
      obtain rfl := Except.ok.inj h
      obtain ⟨found, hfound, hwalk⟩ := exists_right_of_mapM hdeeper hnext
      have hlength : (below ++ [next]).length + depth = below.length + (depth + 1) := by
        rw [List.length_append, List.length_singleton]
        omega
      have hmem := ih hwalk (List.prefix_append _ _) (hlength ▸ hdepth)
      exact List.mem_append_right _ (List.mem_flatten.2 ⟨found, hfound, hmem⟩)

end Reaches

/-- Different paths below a directory, each of an entry that the walk takes. -/
structure Walk.Taken (walk : Walk) (below paths : List String) : Prop where
  nodup : paths.Nodup
  allowed : ∀ path ∈ paths, ∃ parents name, below <+: parents ∧ walk.Allows parents name ∧
    path = pathOf parents name

/-- A path that is taken in two directories is taken in one within the other. -/
theorem Walk.Taken.within {other paths paths' : List String} {path : String}
    (h : walk.Taken below paths) (h' : walk.Taken other paths') (hmem : path ∈ paths)
    (hmem' : path ∈ paths') :
    ∃ parents, below <+: parents ∧ other <+: parents := by
  obtain ⟨parents, name, hwithin, hallowed, rfl⟩ := h.allowed path hmem
  obtain ⟨parents', name', hwithin', hallowed', heq⟩ := h'.allowed _ hmem'
  obtain ⟨rfl, -⟩ := pathOf_inj hallowed.proper hallowed'.proper heq
  exact ⟨parents, hwithin, hwithin'⟩

theorem Walk.taken_nil : walk.Taken below [] := ⟨List.nodup_nil, nofun⟩

section Directory

variable {taken : List (String × Node)} (hsound : (Node.directory entries).Sound)
  (hbelow : ∀ part ∈ below, Proper part ∧ part ∉ walk.excluded)
  (htaken :
    (walk.plain below entries).filterM (fun (name, node) => walk.takes below name node) = .ok taken)

include hsound hbelow htaken

theorem Walk.allowed_of_mem_taken {entry : String × Node}
    (h : entry ∈ taken) : walk.Allows below entry.1 := by
  obtain ⟨hplain, htakes⟩ := (mem_filterM htaken).1 h
  obtain ⟨hkept, hwanted⟩ := Walk.allowed_of_takes htakes
  have hname := (hsound.entry (List.mem_filter.1 hplain).1).1
  refine ⟨fun part hpart => ?_, fun part hpart => (hbelow part hpart).2, hkept, hwanted⟩
  rcases List.mem_append.1 hpart with hpart | hpart
  · exact (hbelow part hpart).1
  · exact List.mem_singleton.1 hpart ▸ hname

theorem Walk.nodup_taken : (taken.map fun (name, _) => pathOf below name).Nodup := by
  have hnames : (taken.map Prod.fst).Nodup := by
    rw [eq_filter_of_filterM htaken]
    exact hsound.nodup.sublist ((List.filter_sublist.trans List.filter_sublist).map _)
  refine List.Nodup.map_on (fun entry hmem entry' hmem' heq => ?_) hnames.of_map
  have hallowed := Walk.allowed_of_mem_taken hsound hbelow htaken hmem
  have hallowed' := Walk.allowed_of_mem_taken hsound hbelow htaken hmem'
  exact List.inj_on_of_nodup_map hnames hmem
    hmem' (pathOf_inj hallowed.proper hallowed'.proper heq).2

/-- What is taken in a directory and in the directories in it. -/
theorem Walk.taken_of_parts {found : String → List String}
    (hfound : ∀ name ∈ walk.subdirectories below entries,
      walk.Taken (below ++ [name]) (found name)) :
    walk.Taken below (taken.map (fun (name, _) => pathOf below name) ++
      ((walk.subdirectories below entries).map found).flatten) := by
  have hnodup : ((walk.subdirectories below entries).map found).flatten.Nodup := by
    rw [List.nodup_flatten, List.forall_mem_map, List.pairwise_map]
    refine ⟨fun name hname => (hfound name hname).nodup, ?_⟩
    refine (walk.nodup_subdirectories below hsound.nodup).imp_of_mem
      fun hname hname' hne path hmem hmem' => hne ?_
    obtain ⟨parents, hwithin, hwithin'⟩ := (hfound _ hname).within (hfound _ hname') hmem hmem'
    exact eq_of_within hwithin hwithin'
  have hdeeper : ∀ path, path ∈ ((walk.subdirectories below entries).map found).flatten →
      ∃ next ∈ walk.subdirectories below entries, path ∈ found next := by
    simp
  refine ⟨List.nodup_append.2 ⟨Walk.nodup_taken hsound hbelow htaken, hnodup, ?_⟩,
    fun path hpath => ?_⟩
  · rintro path hpath _ hpath' rfl
    obtain ⟨entry, hmem, rfl⟩ := List.mem_map.1 hpath
    obtain ⟨next, hnext, hfoundNext⟩ := hdeeper _ hpath'
    obtain ⟨parents, name, hwithin, hallowed, heq⟩ := (hfound next hnext).allowed _ hfoundNext
    obtain ⟨rfl, -⟩ :=
      pathOf_inj (Walk.allowed_of_mem_taken hsound hbelow htaken hmem).proper hallowed.proper heq
    have hlength := hwithin.length_le
    simp at hlength
  · rcases List.mem_append.1 hpath with hpath | hpath
    · obtain ⟨entry, hmem, rfl⟩ := List.mem_map.1 hpath
      exact ⟨below, entry.1, List.prefix_rfl,
        Walk.allowed_of_mem_taken hsound hbelow htaken hmem, rfl⟩
    · obtain ⟨next, hnext, hfoundNext⟩ := hdeeper _ hpath
      obtain ⟨parents, name, hwithin, hallowed, rfl⟩ := (hfound next hnext).allowed _ hfoundNext
      exact ⟨parents, name, (List.prefix_append _ _).trans hwithin, hallowed, rfl⟩

end Directory

/-- A walk that succeeds takes each entry once, and none that it should not take. -/
theorem Walk.taken_filesBelow (hsound : walk.world.top.Sound) {depth : ℕ} {paths : List String}
    (h : walk.filesBelow depth below = .ok paths)
    (hbelow : ∀ part ∈ below, Proper part ∧ part ∉ walk.excluded) :
    walk.Taken below paths := by
  induction depth generalizing below paths with
  | zero =>
    obtain rfl := Except.ok.inj h
    exact Walk.taken_nil
  | succ depth ih =>
    by_cases hdenied : walk.access.denies .entries (walk.route below) = true
    · rw [Walk.filesBelow, if_pos hdenied] at h
      obtain rfl := Except.ok.inj h
      exact Walk.taken_nil
    by_cases hdirectory : ∃ entries, walk.world.find (walk.route below) = .ok (.directory entries)
    swap
    · rw [Walk.filesBelow, if_neg hdenied] at h
      split at h
      · exact absurd ⟨_, ‹_›⟩ hdirectory
      · obtain rfl := Except.ok.inj h
        exact Walk.taken_nil
    obtain ⟨entries, hfind⟩ := hdirectory
    obtain ⟨place, -, hplace⟩ := Walk.find_eq_ok_iff.1 hfind
    have hentries := (hsound.at? hplace).1
    rw [Walk.filesBelow_succ (Bool.eq_false_iff.2 hdenied) hfind] at h
    obtain ⟨taken, htaken, h⟩ := bind_eq_ok.1 h
    obtain ⟨_, -, h⟩ := bind_eq_ok.1 h
    obtain ⟨deeper, hdeeper, h⟩ := bind_eq_ok.1 h
    obtain rfl := Except.ok.inj h
    have hok : ∀ name ∈ walk.subdirectories below entries,
        ∃ paths, walk.filesBelow depth (below ++ [name]) = .ok paths := by
      intro name hname
      obtain ⟨paths, -, hpaths⟩ := exists_right_of_mapM hdeeper hname
      exact ⟨paths, hpaths⟩
    choose! found hfound using hok
    obtain rfl := Except.ok.inj (hdeeper.symm.trans (mapM_eq_ok_map hfound))
    refine Walk.taken_of_parts hentries hbelow htaken fun name hname => ih (hfound name hname) ?_
    obtain ⟨node, hentry, -, henters⟩ := Walk.mem_subdirectories_iff.1 hname
    rw [Walk.enters, Bool.and_eq_true] at henters
    intro part hpart
    rcases List.mem_append.1 hpart with hpart | hpart
    · exact hbelow part hpart
    · rw [List.mem_singleton.1 hpart]
      exact ⟨(hentries.entry hentry).1, by simpa using henters.1⟩

theorem Walk.length_lt_depthBound (hrooted : walk.root.root ≠ "") {data : ByteArray}
    (h : walk.Reaches parents name place data) : parents.length < depthBound walk.world.top := by
  have hleads := h.leads
  rw [← List.nil_append (parents ++ [name])] at hleads
  obtain ⟨k, start, hk, -, hleads⟩ := Walk.locate_split hrooted hleads
  have hlength := length_le_of_leads hleads h.proper
  have hlinks : k * (height walk.world.top + 1) ≤ Tree.linkLimit * (height walk.world.top + 1) :=
    Nat.mul_le_mul_right _ hk
  rw [List.length_append, List.length_singleton] at hlength
  rw [depthBound, Nat.succ_mul]
  omega

end SourceSurvey.Corpus
