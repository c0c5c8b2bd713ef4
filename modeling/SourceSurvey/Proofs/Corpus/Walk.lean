import SourceSurvey.Proofs.Corpus
import SourceSurvey.Proofs.Tree.Place

/-!
# The files that a walk finds

A walk that follows no links finds the files of a tree in the directories that it lists
(`Walk.Lists`), whose names fit no skip pattern and whose paths are wanted (`Walk.Finds`), each once
(`Walk.filesBelow_answers`).  It is stopped by an entry that it has to look at and cannot
(`Walk.Meets`, `Walk.Shows`), or by a directory that it has no stack left to go down from
(`Walk.Stops`), and then it finds nothing at all.
-/

namespace SourceSurvey.Corpus

/-- The path of a file in a snapshot. -/
def pathOf (parents : List String) (name : String) : String :=
  String.intercalate "/" (parents ++ [name])

/-- A directory that a walk lists: no excluded directory leads to it, the system shows the entries
of all directories on the way and its own, and its path is not too long. -/
structure Walk.Lists (walk : Walk) (parents : List String) : Prop where
  entered : ∀ parent ∈ parents, parent ∉ walk.excluded
  shown : ∀ above, above <+: parents → walk.access.denies .entries (walk.route above) = false
  fits : (walk.route parents).text.utf8ByteSize ≤ Tree.pathLimit

/-- A file of a tree that a walk should find: it stands in a directory that is listed, its name fits
no skip pattern, and its path is wanted. -/
structure Walk.Finds (walk : Walk) (tree : Node) (parents : List String) (name : String)
    (data : ByteArray) : Prop where
  listed : walk.Lists parents
  file : tree.at? (parents ++ [name]) = some (.file data)
  kept : ∀ pattern ∈ walk.skipped, Text.Glob.accepts pattern name = false
  wanted : walk.wanted (pathOf parents name) = true

/-- An entry that a walk has to look at: it is no directory and stands in one that is listed, and
its name fits no skip pattern. -/
structure Walk.Meets (walk : Walk) (tree : Node) (parents : List String)
    (name : String) : Prop where
  listed : walk.Lists parents
  entry : ∃ node, tree.at? (parents ++ [name]) = some node ∧ node.isDirectory = false
  kept : ∀ pattern ∈ walk.skipped, Text.Glob.accepts pattern name = false

/-- A path that can be looked at: the system does not hide it, and it is not too long. -/
def Walk.Shows (walk : Walk) (names : List String) : Prop :=
  walk.access.hides (walk.route names) = false ∧
    (walk.route names).text.utf8ByteSize ≤ Tree.pathLimit

/-- The failure at a path that cannot be looked at. -/
def Walk.failureAt (walk : Walk) (names : List String) : Failure :=
  .unreachable (if walk.access.hides (walk.route names) then .denied else .nameTooLong)
    (walk.route names).text

/-- What stops a walk in a directory, with the failure that it gives: an entry that it has to look
at and cannot, or a directory in it, or a link to one, when there is no stack left. -/
inductive Walk.Stops (walk : Walk) (tree : Node) (parents : List String) : Failure → Prop where
  | entry {name : String} (h : walk.Meets tree parents name)
    (hnot : ¬ walk.Shows (parents ++ [name])) :
    Stops walk tree parents (walk.failureAt (parents ++ [name]))
  | stack {name : String} {node : Node} {n : ℕ} (hlisted : walk.Lists parents)
    (hentry : tree.at? (parents ++ [name]) = some node)
    (hdirectory : isDirectoryEntry walk.world (walk.route (parents ++ [name])) node walk.access =
      true)
    (hname : name ∉ walk.excluded) (hspent : n ∈ walk.access.depth) (h : n ≤ parents.length) :
    Stops walk tree parents outOfStack

theorem Walk.Stops.listed {walk : Walk} {tree : Node} {parents : List String} {f : Failure}
    (h : walk.Stops tree parents f) : walk.Lists parents := by
  cases h with
  | entry h _ => exact h.listed
  | stack hlisted _ _ _ _ _ => exact hlisted

/-- Where nothing is kept from a walk, only a path that is too long stops it. -/
theorem Walk.Stops.eq_of_full {walk : Walk} {tree : Node} {parents : List String} {f : Failure}
    (h : walk.Stops tree parents f) (haccess : walk.access = .full) :
    ∃ path, f = .unreachable .nameTooLong path := by
  cases h with
  | entry _ _ =>
    exact ⟨_, by rw [Walk.failureAt, haccess, Access.hides_full, if_neg Bool.false_ne_true]⟩
  | stack _ _ _ _ hspent _ =>
    rw [haccess] at hspent
    cases hspent

theorem Walk.Stops.exists_entry {walk : Walk} {tree : Node} {parents : List String} {f : Failure}
    (h : walk.Stops tree parents f) : ∃ name node, tree.at? (parents ++ [name]) = some node := by
  cases h with
  | entry h _ =>
    obtain ⟨node, hat, -⟩ := h.entry
    exact ⟨_, node, hat⟩
  | stack _ hentry _ _ _ _ => exact ⟨_, _, hentry⟩

/-- What a walk should answer below a directory: the failure of what stops it, or else the paths of
all files that it should find. -/
inductive Walk.Answers (walk : Walk) (tree : Node)
    (below : List String) : Except Failure (List String) → Prop where
  | stopped {parents : List String} {f : Failure} (hbelow : below <+: parents)
    (h : walk.Stops tree parents f) :
    Answers walk tree below (.error f)
  | found {paths : List String}
    (hfree : ∀ parents f, below <+: parents → ¬ walk.Stops tree parents f)
    (hnodup : paths.Nodup)
    (hmem : ∀ path, path ∈ paths ↔
      ∃ parents name data, below <+: parents ∧ walk.Finds tree parents name data ∧
      path = pathOf parents name) :
    Answers walk tree below (.ok paths)

variable {walk : Walk} {tree : Node}

theorem Walk.route_eq (walk : Walk) (names : List String) :
    walk.route names = walk.root.below names := rfl

theorem pathOf_inj {parents parents' : List String} {name name' : String}
    (h : ∀ part ∈ parents ++ [name], Proper part) (h' : ∀ part ∈ parents' ++ [name'], Proper part)
    (heq : pathOf parents name = pathOf parents' name') : parents = parents' ∧ name = name' := by
  have hroutes := congrArg Route.ofText heq
  rw [pathOf, pathOf, Route.ofText_intercalate h, Route.ofText_intercalate h',
    Route.mk.injEq] at hroutes
  obtain ⟨hparents, hnames⟩ := List.append_inj' hroutes.2 rfl
  exact ⟨hparents, List.singleton_injective hnames⟩

theorem pathOf_injective (hold : walk.world.Holds walk.root tree) {parents parents' : List String}
    {name name' : String} {node node' : Node} (hat : tree.at? (parents ++ [name]) = some node)
    (hat' : tree.at? (parents' ++ [name']) = some node')
    (h : pathOf parents name = pathOf parents' name') :
    parents = parents' ∧ name = name' :=
  pathOf_inj (hold.sound.at? hat).2 (hold.sound.at? hat').2 h

/-! ## One directory -/

section Entries

variable {below : List String} {name : String} {node : Node}

/-- An entry that can be looked at is taken by its name, its kind and its path. -/
theorem Walk.takes_of_shows (hold : walk.world.Holds walk.root tree)
    (hlinks : walk.followLinks = false) (hat : tree.at? (below ++ [name]) = some node)
    (hshows : walk.Shows (below ++ [name])) :
    walk.takes below name node = .ok (!(walk.skipped.any (Text.Glob.accepts · name)) &&
      !node.isLink &&
      walk.wanted (pathOf below name)) := by
  have hlook := hold.findLink_below hat hshows.2 (by simp)
  unfold Walk.takes
  cases walk.skipped.any (Text.Glob.accepts · name) with
  | true => rfl
  | false =>
    rw [if_neg Bool.false_ne_true, hshows.1, if_neg Bool.false_ne_true, Walk.route_eq,
      hlook, hlinks]
    simp [pathOf]

theorem Walk.takes_of_not_shows (hold : walk.world.Holds walk.root tree)
    (hat : tree.at? (below ++ [name]) = some node) (hnot : ¬ walk.Shows (below ++ [name])) :
    walk.takes below name node = if walk.skipped.any (Text.Glob.accepts · name) then .ok false
      else .error (walk.failureAt (below ++ [name])) := by
  unfold Walk.takes Walk.failureAt
  by_cases hhidden : walk.access.hides (walk.route (below ++ [name])) = true
  · rw [if_pos hhidden, if_pos hhidden]
  · have hlong : ¬ (walk.route (below ++ [name])).Fits :=
      fun hfits => hnot ⟨Bool.eq_false_iff.2 hhidden, hfits⟩
    have hlook := hold.findLink_of_long (hold.sound.at? hat).2 hlong
    rw [if_neg hhidden, if_neg hhidden, Walk.route_eq, hlook]

/-- Whether a name fits no skip pattern. -/
def Walk.keeps (walk : Walk) (name : String) : Bool :=
  !(walk.skipped.any (Text.Glob.accepts · name))

@[simp] theorem Walk.keeps_iff :
    walk.keeps name = true ↔ ∀ pattern ∈ walk.skipped, Text.Glob.accepts pattern name = false := by
  simp [Walk.keeps]

/-- The entries of a directory are what a single name leads to from there. -/
theorem at?_entry_iff (hold : walk.world.Holds walk.root tree) {entries : List (String × Node)}
    (hbelow : tree.at? below = some (.directory entries)) :
    tree.at? (below ++ [name]) = some node ↔ (name, node) ∈ entries := by
  have hsound := (hold.sound.at? hbelow).1
  rw [Node.at?_append, hbelow, Option.bind_some, ← hsound.lookup_iff, Node.at?, Node.entry?]
  cases entries.lookup name <;> simp [Node.at?]

/-- A link that cannot be looked at is not seen to lead to a directory. -/
theorem isDirectoryEntry_of_not_shows (hold : walk.world.Holds walk.root tree)
    (hat : tree.at? (below ++ [name]) = some node) (hnode : node.isDirectory = false)
    (hnot : ¬ walk.Shows (below ++ [name])) :
    isDirectoryEntry walk.world (walk.route (below ++ [name])) node walk.access = false := by
  cases node with
  | directory entries => cases hnode
  | file data => rfl
  | link target =>
    rw [isDirectoryEntry]
    by_cases hhidden : walk.access.hides (walk.route (below ++ [name])) = true
    · rw [Access.denies, hhidden]
      rfl
    · have hlong : ¬ (walk.route (below ++ [name])).Fits :=
        fun hfits => hnot ⟨Bool.eq_false_iff.2 hhidden, hfits⟩
      have hfind := hold.find_of_long (hold.sound.at? hat).2 hlong
      rw [World.isDirectory, Walk.route_eq, hfind, Bool.and_false]

end Entries

/-! ## Files of a directory -/

section Files

variable {below : List String} {entries taken : List (String × Node)}

/-- The entries of a directory that do not count as directories. -/
def Walk.plain (walk : Walk) (below : List String) (entries : List (String × Node)) :
    List (String × Node) :=
  entries.filter fun (name, node) =>
    !isDirectoryEntry walk.world (walk.route (below ++ [name])) node walk.access

theorem Walk.isDirectory_of_mem_plain {name : String} {node : Node}
    (h : (name, node) ∈ walk.plain below entries) :
    (name, node) ∈ entries ∧ node.isDirectory = false := by
  obtain ⟨hentry, hplain⟩ := List.mem_filter.1 h
  refine ⟨hentry, ?_⟩
  cases node with
  | directory inner => cases hplain
  | file data => rfl
  | link target => rfl

/-- Looking at the entries of a directory fails at one that stops the walk. -/
theorem Walk.stops_of_filterM {f : Failure} (hold : walk.world.Holds walk.root tree)
    (hlinks : walk.followLinks = false) (hbelow : tree.at? below = some (.directory entries))
    (hlisted : walk.Lists below)
    (h : (walk.plain below entries).filterM (fun (name, node) => walk.takes below name node) =
      .error f) :
    walk.Stops tree below f := by
  obtain ⟨⟨name, node⟩, hmem, htakes⟩ := filterM_eq_error h
  obtain ⟨hentry, hnode⟩ := Walk.isDirectory_of_mem_plain hmem
  have hat := (at?_entry_iff hold hbelow).2 hentry
  dsimp only at htakes
  by_cases hshows : walk.Shows (below ++ [name])
  · rw [Walk.takes_of_shows hold hlinks hat hshows] at htakes
    cases htakes
  · rw [Walk.takes_of_not_shows hold hat hshows] at htakes
    split_ifs at htakes with hskipped
    obtain rfl := Except.error.inj htakes
    exact .entry ⟨hlisted, ⟨node, hat, hnode⟩,
      Walk.keeps_iff.1 (by simpa [Walk.keeps] using hskipped)⟩ hshows

/-- Where all entries have been looked at, each of them can be. -/
theorem Walk.shows_of_filterM (hold : walk.world.Holds walk.root tree)
    (hbelow : tree.at? below = some (.directory entries))
    (h : (walk.plain below entries).filterM (fun (name, node) => walk.takes below name node) =
      .ok taken)
    {name : String} {node : Node} (hplain : (name, node) ∈ walk.plain below entries)
    (hkeeps : walk.keeps name = true) :
    walk.Shows (below ++ [name]) := by
  by_contra hnot
  have hat := (at?_entry_iff hold hbelow).2 (List.mem_filter.1 hplain).1
  obtain ⟨b, htakes⟩ := exists_ok_of_filterM h hplain
  dsimp only at htakes
  rw [Walk.takes_of_not_shows hold hat hnot, if_neg (by simpa [Walk.keeps] using hkeeps)] at htakes
  cases htakes

theorem Walk.shows_of_meets (hold : walk.world.Holds walk.root tree)
    (hbelow : tree.at? below = some (.directory entries))
    (h : (walk.plain below entries).filterM (fun (name, node) => walk.takes below name node) =
      .ok taken)
    {name : String} (hmeets : walk.Meets tree below name) : walk.Shows (below ++ [name]) := by
  by_contra hnot
  obtain ⟨node, hat, hnode⟩ := hmeets.entry
  have hplain : (name, node) ∈ walk.plain below entries := by
    refine List.mem_filter.2 ⟨(at?_entry_iff hold hbelow).1 hat, ?_⟩
    simp [isDirectoryEntry_of_not_shows hold hat hnode hnot]
  exact hnot (Walk.shows_of_filterM hold hbelow h hplain (Walk.keeps_iff.2 hmeets.kept))

theorem Walk.taken_eq (hold : walk.world.Holds walk.root tree) (hlinks : walk.followLinks = false)
    (hbelow : tree.at? below = some (.directory entries))
    (h : (walk.plain below entries).filterM (fun (name, node) => walk.takes below name node) =
      .ok taken) :
    taken = (walk.plain below entries).filter fun (name, node) =>
      walk.keeps name && !node.isLink && walk.wanted (pathOf below name) := by
  refine Except.ok.inj (h.symm.trans (filterM_eq_ok ?_))
  rintro ⟨name, node⟩ hplain
  have hat := (at?_entry_iff hold hbelow).2 (List.mem_filter.1 hplain).1
  by_cases hshows : walk.Shows (below ++ [name])
  · exact Walk.takes_of_shows hold hlinks hat hshows
  · have hskipped : walk.keeps name = false :=
      Bool.eq_false_iff.2 fun hkeeps => hshows (Walk.shows_of_filterM hold hbelow h hplain hkeeps)
    dsimp only
    rw [Walk.takes_of_not_shows hold hat hshows,
      if_pos (by simpa [Walk.keeps] using hskipped), hskipped]
    rfl

/-- The entries that are taken are the files that the walk should find in the directory. -/
theorem Walk.mem_taken_iff (hold : walk.world.Holds walk.root tree)
    (hlinks : walk.followLinks = false) (hbelow : tree.at? below = some (.directory entries))
    (hlisted : walk.Lists below)
    (h : (walk.plain below entries).filterM (fun (name, node) => walk.takes below name node) =
      .ok taken)
    (name : String) (node : Node) :
    (name, node) ∈ taken ↔ ∃ data, node = .file data ∧ walk.Finds tree below name data := by
  rw [Walk.taken_eq hold hlinks hbelow h, List.mem_filter]
  constructor
  · rintro ⟨hplain, htaken⟩
    obtain ⟨hentry, hnode⟩ := Walk.isDirectory_of_mem_plain hplain
    simp only [Bool.and_eq_true, Bool.not_eq_true'] at htaken
    obtain ⟨⟨hkeeps, hnotLink⟩, hwanted⟩ := htaken
    have hat := (at?_entry_iff hold hbelow).2 hentry
    cases node with
    | directory inner => cases hnode
    | link target => cases hnotLink
    | file data => exact ⟨data, rfl, hlisted, hat, Walk.keeps_iff.1 hkeeps, hwanted⟩
  · rintro ⟨data, rfl, hfinds⟩
    have hplain : (name, Node.file data) ∈ walk.plain below entries :=
      List.mem_filter.2 ⟨(at?_entry_iff hold hbelow).1 hfinds.file, rfl⟩
    refine ⟨hplain, ?_⟩
    simp [Walk.keeps_iff.2 hfinds.kept, hfinds.wanted, Node.isLink]

end Files

/-! ## Directories of a directory -/

section Directories

variable {below : List String} {entries : List (String × Node)}

/-- The entries of a directory that count as directories. -/
def Walk.directories (walk : Walk) (below : List String) (entries : List (String × Node)) :
    List (String × Node) :=
  entries.filter fun (name, node) =>
    isDirectoryEntry walk.world (walk.route (below ++ [name])) node walk.access

/-- The names of the directories that a walk goes on in. -/
def Walk.subdirectories (walk : Walk) (below : List String) (entries : List (String × Node)) :
    List String :=
  sortTexts (((walk.directories below entries).filter fun (name, node) =>
    walk.enters name node).map (·.1))

@[simp] theorem mem_sortTexts {texts : List String} {text : String} :
    text ∈ sortTexts texts ↔ text ∈ texts :=
  List.mem_mergeSort

theorem Walk.mem_subdirectories_iff {name : String} : name ∈ walk.subdirectories below entries ↔
    ∃ node, (name, node) ∈ entries ∧
      isDirectoryEntry walk.world (walk.route (below ++ [name])) node walk.access = true ∧
      walk.enters name node = true := by
  rw [Walk.subdirectories, mem_sortTexts, List.mem_map]
  constructor
  · rintro ⟨⟨_, node⟩, hmem, rfl⟩
    obtain ⟨hmem, henters⟩ := List.mem_filter.1 hmem
    obtain ⟨hentry, hdirectory⟩ := List.mem_filter.1 hmem
    exact ⟨node, hentry, hdirectory, henters⟩
  · rintro ⟨node, hentry, hdirectory, henters⟩
    exact ⟨(name, node), List.mem_filter.2 ⟨List.mem_filter.2 ⟨hentry, hdirectory⟩, henters⟩, rfl⟩

theorem Walk.mem_subdirectories (hlinks : walk.followLinks = false) {name : String} :
    name ∈ walk.subdirectories below entries ↔
      (∃ inner, (name, Node.directory inner) ∈ entries) ∧ name ∉ walk.excluded := by
  rw [Walk.mem_subdirectories_iff]
  constructor
  · rintro ⟨node, hentry, hdirectory, henters⟩
    simp only [Walk.enters, hlinks, Bool.and_eq_true, Bool.not_eq_true', Bool.false_or] at henters
    refine ⟨?_, by simpa using henters.1⟩
    cases node with
    | directory inner => exact ⟨inner, hentry⟩
    | file data => cases hdirectory
    | link target => cases henters.2
  · rintro ⟨⟨inner, hentry⟩, hexcluded⟩
    refine ⟨.directory inner, hentry, rfl, ?_⟩
    simp [Walk.enters, hlinks, hexcluded, Node.isLink]

theorem Walk.nodup_subdirectories (walk : Walk) (below : List String)
    (hnodup : (entries.map Prod.fst).Nodup) :
    (walk.subdirectories below entries).Nodup := by
  refine (List.mergeSort_perm _ _).nodup_iff.2 (hnodup.sublist ?_)
  exact (List.filter_sublist.trans List.filter_sublist).map _

/-- A walk through a directory: its files, and what is found in its directories. -/
theorem Walk.filesBelow_succ {depth : ℕ}
    (hlist : walk.access.denies .entries (walk.route below) = false)
    (hfind : walk.world.find (walk.route below) = .ok (.directory entries)) :
    walk.filesBelow (depth + 1) below =
      (walk.plain below entries).filterM (fun (name, node) => walk.takes below name node) >>=
        fun taken =>
        walk.checkStack below (walk.directories below entries) >>= fun _ =>
          (walk.subdirectories below entries).mapM
            (fun name => walk.filesBelow depth (below ++ [name])) >>=
            fun deeper => .ok (taken.map (fun (name, _) => pathOf below name) ++
              deeper.flatten) := by
  simp only [Walk.filesBelow, hlist, Bool.false_eq_true, if_false, hfind,
    List.partition_eq_filter_filter]
  rfl

/-- The check of the stack fails just when there is none left and some directory is not excluded. -/
theorem Walk.checkStack_eq (walk : Walk) (below : List String)
    (directories : List (String × Node)) :
    walk.checkStack below directories =
      if (∃ n ∈ walk.access.depth, n ≤ below.length) ∧
      ∃ entry ∈ directories, entry.1 ∉ walk.excluded then
        .error outOfStack else .ok () := by
  rw [Walk.checkStack]
  refine if_congr ?_ rfl rfl
  simp [Access.isSpent, Option.any_eq_true]

section Stack

variable (hold : walk.world.Holds walk.root tree)
  (hbelow : tree.at? below = some (.directory entries))

include hold hbelow

theorem Walk.stops_of_checkStack (hlisted : walk.Lists below) {f : Failure}
    (h : walk.checkStack below (walk.directories below entries) = .error f) :
    walk.Stops tree below f := by
  rw [Walk.checkStack_eq] at h
  split_ifs at h with hspent
  obtain rfl := Except.error.inj h
  obtain ⟨⟨n, hn, hle⟩, ⟨name, node⟩, hmem, hname⟩ := hspent
  obtain ⟨hentry, hdirectory⟩ := List.mem_filter.1 hmem
  exact .stack hlisted ((at?_entry_iff hold hbelow).2 hentry) hdirectory hname hn hle

/-- Where the entries have been looked at and there is stack left, nothing stops the walk in the
directory. -/
theorem Walk.not_stops {taken : List (String × Node)}
    (htaken : (walk.plain below entries).filterM (fun (name, node) => walk.takes below name node) =
      .ok taken)
    (hstack : walk.checkStack below (walk.directories below entries) = .ok ()) (f : Failure) :
    ¬ walk.Stops tree below f := by
  rintro (⟨hmeets, hnot⟩ | ⟨-, hentry, hdirectory, hname, hspent, hle⟩)
  · exact hnot (Walk.shows_of_meets hold hbelow htaken hmeets)
  · rw [Walk.checkStack_eq, if_pos ⟨⟨_, hspent, hle⟩, (_, _),
      List.mem_filter.2 ⟨(at?_entry_iff hold hbelow).1 hentry, hdirectory⟩, hname⟩] at hstack
    cases hstack

end Stack

theorem within_cases {parents : List String} (h : below <+: parents) :
    parents = below ∨ ∃ name, below ++ [name] <+: parents := by
  obtain ⟨rest, rfl⟩ := h
  cases rest with
  | nil => exact .inl (List.append_nil _)
  | cons name rest => exact .inr ⟨name, rest, by simp⟩

/-- What lies deeper in a directory lies in one of the directories in it. -/
theorem Walk.subdirectory_of_within (hold : walk.world.Holds walk.root tree)
    (hlinks : walk.followLinks = false) (hbelow : tree.at? below = some (.directory entries))
    {parents : List String} {name last : String} {node : Node}
    (hwithin : below ++ [name] <+: parents) (hat : tree.at? (parents ++ [last]) = some node)
    (hentered : ∀ parent ∈ parents, parent ∉ walk.excluded) :
    name ∈ walk.subdirectories below entries := by
  obtain ⟨rest, rfl⟩ := hwithin
  rw [List.append_assoc, Node.at?_append] at hat
  obtain ⟨next, hnext, hrest⟩ := Option.bind_eq_some_iff.1 hat
  obtain ⟨first, more, hmore⟩ := List.exists_cons_of_ne_nil (List.concat_ne_nil last rest)
  rw [hmore] at hrest
  obtain ⟨inner, _, rfl, -⟩ := Node.exists_entry_of_at? hrest
  exact (Walk.mem_subdirectories hlinks).2
    ⟨⟨inner, (at?_entry_iff hold hbelow).1 hnext⟩, hentered name (by simp)⟩

end Directories

/-! ## The walk -/

section Walk

variable {below : List String} {entries : List (String × Node)}

namespace Walk.Answers

variable {paths : List String}

theorem free (h : walk.Answers tree below (.ok paths)) :
    ∀ parents f, below <+: parents → ¬ walk.Stops tree parents f := by
  cases h with
  | found hfree _ _ => exact hfree

theorem nodup (h : walk.Answers tree below (.ok paths)) : paths.Nodup := by
  cases h with
  | found _ hnodup _ => exact hnodup

theorem mem_iff (h : walk.Answers tree below (.ok paths)) {path : String} : path ∈ paths ↔
    ∃ parents name data, below <+: parents ∧ walk.Finds tree parents name data ∧
    path = pathOf parents name := by
  cases h with
  | found _ _ hmem => exact hmem path

/-- A path that is found below two directories is found below one within the other. -/
theorem within_of_mem (hold : walk.world.Holds walk.root tree) {other paths' : List String}
    (h : walk.Answers tree below (.ok paths)) (h' : walk.Answers tree other (.ok paths'))
    {path : String} (hmem : path ∈ paths) (hmem' : path ∈ paths') :
    ∃ parents, below <+: parents ∧ other <+: parents := by
  obtain ⟨parents, name, data, hwithin, hfinds, rfl⟩ := h.mem_iff.1 hmem
  obtain ⟨parents', name', data', hwithin', hfinds', hpath⟩ := h'.mem_iff.1 hmem'
  obtain ⟨rfl, rfl⟩ := pathOf_injective hold hfinds.file hfinds'.file hpath
  exact ⟨parents, hwithin, hwithin'⟩

end Walk.Answers

theorem eq_of_within {name name' : String} {parents : List String} (h : below ++ [name] <+: parents)
    (h' : below ++ [name'] <+: parents) : name = name' := by
  obtain ⟨rest, rfl⟩ := h
  obtain ⟨rest', hrest⟩ := h'
  simp only [List.append_assoc, List.append_cancel_left_eq, List.singleton_append,
    List.cons.injEq] at hrest
  exact hrest.1.symm

/-- The directories in a directory have different files in them. -/
theorem Walk.nodup_deeper (hold : walk.world.Holds walk.root tree)
    (hbelow : tree.at? below = some (.directory entries)) {found : String → List String}
    (hfound : ∀ name ∈ walk.subdirectories below entries,
      walk.Answers tree (below ++ [name]) (.ok (found name))) :
    ((walk.subdirectories below entries).map found).flatten.Nodup := by
  rw [List.nodup_flatten, List.forall_mem_map, List.pairwise_map]
  refine ⟨fun name hname => (hfound name hname).nodup, ?_⟩
  have hnodup := walk.nodup_subdirectories below (hold.sound.at? hbelow).1.nodup
  refine hnodup.imp_of_mem fun hname hname' hne path hmem hmem' => hne ?_
  obtain ⟨parents, hwithin, hwithin'⟩ :=
    (hfound _ hname).within_of_mem hold (hfound _ hname') hmem hmem'
  exact eq_of_within hwithin hwithin'

section Taken

variable {taken : List (String × Node)} (hold : walk.world.Holds walk.root tree)
  (hlinks : walk.followLinks = false)
  (hbelow : tree.at? below = some (.directory entries)) (hlisted : walk.Lists below)
  (htaken :
    (walk.plain below entries).filterM (fun (name, node) => walk.takes below name node) = .ok taken)

include hold hlinks hbelow hlisted htaken

theorem Walk.mem_taken_paths {path : String} :
    path ∈ taken.map (fun (name, _) => pathOf below name) ↔
    ∃ name data, walk.Finds tree below name data ∧ path = pathOf below name := by
  rw [List.mem_map]
  constructor
  · rintro ⟨⟨name, node⟩, hmem, rfl⟩
    obtain ⟨data, rfl, hfinds⟩ :=
      (Walk.mem_taken_iff hold hlinks hbelow hlisted htaken name node).1 hmem
    exact ⟨name, data, hfinds, rfl⟩
  · rintro ⟨name, data, hfinds, rfl⟩
    exact ⟨(name, .file data),
      (Walk.mem_taken_iff hold hlinks hbelow hlisted htaken name _).2 ⟨data, rfl, hfinds⟩, rfl⟩

theorem Walk.nodup_taken_paths : (taken.map fun (name, _) => pathOf below name).Nodup := by
  have hnames : (taken.map Prod.fst).Nodup := by
    rw [Walk.taken_eq hold hlinks hbelow htaken]
    exact (hold.sound.at? hbelow).1.nodup.sublist
      ((List.filter_sublist.trans List.filter_sublist).map _)
  refine List.Nodup.map_on ?_ hnames.of_map
  rintro ⟨name, node⟩ hmem ⟨name', node'⟩ hmem' hpath
  obtain ⟨data, rfl, hfinds⟩ :=
    (Walk.mem_taken_iff hold hlinks hbelow hlisted htaken name node).1 hmem
  obtain ⟨data', rfl, hfinds'⟩ :=
    (Walk.mem_taken_iff hold hlinks hbelow hlisted htaken name' node').1 hmem'
  exact List.inj_on_of_nodup_map hnames hmem
    hmem' (pathOf_injective hold hfinds.file hfinds'.file hpath).2

/-- What is found in a directory and in the directories in it is all that should be found there. -/
theorem Walk.answers_of_parts
    (hstack : walk.checkStack below (walk.directories below entries) = .ok ())
    {found : String → List String}
    (hfound : ∀ name ∈ walk.subdirectories below entries,
      walk.Answers tree (below ++ [name]) (.ok (found name))) :
    walk.Answers tree below (.ok (taken.map (fun (name, _) => pathOf below name) ++
      ((walk.subdirectories below entries).map found).flatten)) := by
  have hmemTaken :=
    @Walk.mem_taken_paths walk tree below entries taken hold hlinks hbelow hlisted htaken
  have hdeeper : ∀ path, path ∈ ((walk.subdirectories below entries).map found).flatten ↔
      ∃ name ∈ walk.subdirectories below entries, path ∈ found name := by
    simp
  constructor
  case hfree =>
    intro parents f hwithin hstops
    rcases within_cases hwithin with rfl | ⟨next, hnext⟩
    · exact Walk.not_stops hold hbelow htaken hstack f hstops
    · obtain ⟨name, node, hat⟩ := hstops.exists_entry
      have hsub := Walk.subdirectory_of_within hold hlinks hbelow hnext hat hstops.listed.entered
      exact (hfound next hsub).free parents f hnext hstops
  case hnodup =>
    refine List.nodup_append.2 ⟨Walk.nodup_taken_paths hold hlinks hbelow hlisted htaken,
      Walk.nodup_deeper hold hbelow hfound, ?_⟩
    rintro path hpath _ hpath' rfl
    obtain ⟨name, data, hfinds, rfl⟩ := hmemTaken.1 hpath
    obtain ⟨next, hnext, hmem⟩ := (hdeeper _).1 hpath'
    obtain ⟨parents, name', data', hwithin, hfinds', hsame⟩ := (hfound next hnext).mem_iff.1 hmem
    obtain ⟨rfl, -⟩ := pathOf_injective hold hfinds.file hfinds'.file hsame
    have hlength := hwithin.length_le
    simp at hlength
  case hmem =>
    intro path
    rw [List.mem_append, hmemTaken, hdeeper]
    constructor
    · rintro (⟨name, data, hfinds, rfl⟩ | ⟨next, hnext, hmem⟩)
      · exact ⟨below, name, data, List.prefix_rfl, hfinds, rfl⟩
      · obtain ⟨parents, name, data, hwithin, hfinds, rfl⟩ := (hfound next hnext).mem_iff.1 hmem
        exact ⟨parents, name, data, (List.prefix_append _ _).trans hwithin, hfinds, rfl⟩
    · rintro ⟨parents, name, data, hwithin, hfinds, rfl⟩
      rcases within_cases hwithin with rfl | ⟨next, hnext⟩
      · exact .inl ⟨name, data, hfinds, rfl⟩
      · have hsub :=
          Walk.subdirectory_of_within hold hlinks hbelow hnext hfinds.file hfinds.listed.entered
        exact .inr ⟨next, hsub, (hfound next hsub).mem_iff.2 ⟨parents, name, data, hnext,
          hfinds, rfl⟩⟩

end Taken

theorem height_le_of_mem {name : String} {node : Node} (h : (name, node) ∈ entries) :
    height node ≤ heightOf entries := by
  induction entries with
  | nil => cases h
  | cons first entries ih =>
    obtain ⟨other, inner⟩ := first
    rw [heightOf]
    rcases List.mem_cons.1 h with heq | h
    · obtain ⟨rfl, rfl⟩ := Prod.mk.inj heq
      exact le_max_left _ _
    · exact (ih h).trans (le_max_right _ _)

theorem height_le_of_at? {node inner : Node} {names : List String}
    (h : node.at? names = some inner) :
    height inner ≤ height node := by
  induction names generalizing node with
  | nil => rw [Option.some.inj h]
  | cons name names ih =>
    obtain ⟨entries, next, rfl, hlookup, hnext⟩ := Node.exists_entry_of_at? h
    have hentry := height_le_of_mem (Node.mem_of_lookup hlookup)
    rw [height]
    exact (ih hnext).trans (hentry.trans (Nat.le_succ _))

/-- Below a directory that is not listed nothing is looked at. -/
theorem Walk.answers_of_not_lists (hold : walk.world.Holds walk.root tree)
    (h : walk.access.denies .entries (walk.route below) = true ∨ ¬ (walk.route below).Fits) :
    walk.Answers tree below (.ok []) := by
  have hwithin {parents : List String} (hbelow : below <+: parents) : ¬ walk.Lists parents := by
    intro hlists
    rcases h with hdenied | hlong
    · exact absurd hdenied (by simp [hlists.shown below hbelow])
    · obtain ⟨rest, rfl⟩ := hbelow
      have hfits : (walk.route (below ++ rest)).Fits := hlists.fits
      exact hlong (hfits.of_append hold.rooted)
  refine .found (fun parents f hbelow hstops => hwithin hbelow hstops.listed) List.nodup_nil
    fun path => ?_
  refine iff_of_false List.not_mem_nil ?_
  rintro ⟨parents, name, data, hbelow, hfinds, -⟩
  exact hwithin hbelow hfinds.listed

/-- A walk goes on from a directory that it lists to one in it. -/
theorem Walk.Lists.entered_concat {name : String} (h : walk.Lists below)
    (hname : name ∉ walk.excluded) :
    ∀ parent ∈ below ++ [name], parent ∉ walk.excluded := by
  intro parent hparent
  rcases List.mem_append.1 hparent with hparent | hparent
  · exact h.entered parent hparent
  · exact List.mem_singleton.1 hparent ▸ hname

/-- **A walk answers as it should** when it may go as deep as the tree is high. -/
theorem Walk.filesBelow_answers (hold : walk.world.Holds walk.root tree)
    (hlinks : walk.followLinks = false) {depth : ℕ} (hdepth : height (.directory entries) ≤ depth)
    (hbelow : tree.at? below = some (.directory entries))
    (hentered : ∀ parent ∈ below, parent ∉ walk.excluded)
    (hshown : ∀ above, above <+: below → above ≠ below →
      walk.access.denies .entries (walk.route above) = false) :
    walk.Answers tree below (walk.filesBelow depth below) := by
  induction depth generalizing below entries with
  | zero =>
    rw [height] at hdepth
    exact absurd hdepth (Nat.not_succ_le_zero _)
  | succ depth ih =>
    by_cases hdenied : walk.access.denies .entries (walk.route below) = true
    · rw [Walk.filesBelow, if_pos hdenied]
      exact Walk.answers_of_not_lists hold (.inl hdenied)
    by_cases hfits : (walk.route below).Fits
    swap
    · have hfind := hold.find_of_long (hold.sound.at? hbelow).2 hfits
      rw [Walk.filesBelow, if_neg hdenied, Walk.route_eq, hfind]
      exact Walk.answers_of_not_lists hold (.inr hfits)
    rw [Bool.not_eq_true] at hdenied
    have hlisted : walk.Lists below := by
      refine ⟨hentered, fun above habove => ?_, hfits⟩
      by_cases hself : above = below
      · exact hself ▸ hdenied
      · exact hshown above habove hself
    rw [Walk.filesBelow_succ hdenied (hold.find_below hbelow hfits rfl)]
    have hdeeper : ∀ name ∈ walk.subdirectories below entries,
        walk.Answers tree (below ++ [name]) (walk.filesBelow depth (below ++ [name])) := by
      intro name hname
      obtain ⟨⟨inner, hinner⟩, hexcluded⟩ := (Walk.mem_subdirectories hlinks).1 hname
      have hheight := height_le_of_mem hinner
      rw [height] at hdepth
      refine ih (by omega) ((at?_entry_iff hold hbelow).2 hinner)
        (hlisted.entered_concat hexcluded) ?_
      intro above habove hne
      exact hlisted.shown above ((List.prefix_concat_iff.1 habove).resolve_left hne)
    cases htaken : (walk.plain below entries).filterM
      (fun (name, node) => walk.takes below name node) with
    | error f =>
      exact .stopped List.prefix_rfl (Walk.stops_of_filterM hold hlinks hbelow hlisted htaken)
    | ok taken =>
      cases hstack : walk.checkStack below (walk.directories below entries) with
      | error f =>
        exact .stopped List.prefix_rfl (Walk.stops_of_checkStack hold hbelow hlisted hstack)
      | ok _ =>
        cases hall : (walk.subdirectories below entries).mapM
          (fun name => walk.filesBelow depth (below ++ [name])) with
        | error f =>
          obtain ⟨name, hname, hfail⟩ := mapM_eq_error hall
          have hanswers := hdeeper name hname
          rw [hfail] at hanswers
          cases hanswers with
          | stopped hwithin hstops => exact .stopped ((List.prefix_append _ _).trans hwithin) hstops
        | ok deeper =>
          have hok : ∀ name ∈ walk.subdirectories below entries,
              ∃ paths, walk.filesBelow depth (below ++ [name]) = .ok paths := by
            intro name hname
            obtain ⟨paths, -, hpaths⟩ := exists_right_of_mapM hall hname
            exact ⟨paths, hpaths⟩
          choose! found hfound using hok
          obtain rfl := Except.ok.inj (hall.symm.trans (mapM_eq_ok_map hfound))
          refine Walk.answers_of_parts hold hlinks hbelow hlisted htaken hstack fun name hname => ?_
          rw [← hfound name hname]
          exact hdeeper name hname

end Walk

/-! ## Trees without long paths -/

mutual

/-- The greatest number of bytes, slashes included, in the names that lead to a node of a tree. -/
def span : Node → ℕ
  | .directory entries => spanOf entries
  | _ => 0

/-- The greatest such number among the entries of a directory. -/
def spanOf : List (String × Node) → ℕ
  | [] => 0
  | (name, node) :: rest => max (name.utf8ByteSize + 1 + span node) (spanOf rest)

end

theorem span_le_of_mem {entries : List (String × Node)} {name : String} {node : Node}
    (h : (name, node) ∈ entries) :
    name.utf8ByteSize + 1 + span node ≤ spanOf entries := by
  induction entries with
  | nil => cases h
  | cons first entries ih =>
    obtain ⟨other, inner⟩ := first
    rw [spanOf]
    rcases List.mem_cons.1 h with heq | h
    · obtain ⟨rfl, rfl⟩ := Prod.mk.inj heq
      exact le_max_left _ _
    · exact (ih h).trans (le_max_right _ _)

theorem size_le_span {node inner : Node} {names : List String} (h : node.at? names = some inner) :
    (names.map fun name => name.utf8ByteSize + 1).sum ≤ span node := by
  induction names generalizing node with
  | nil => exact Nat.zero_le _
  | cons name names ih =>
    obtain ⟨entries, next, rfl, hlookup, hnext⟩ := Node.exists_entry_of_at? h
    have hentry := span_le_of_mem (Node.mem_of_lookup hlookup)
    have hnames := ih hnext
    rw [List.map_cons, List.sum_cons, span]
    omega

/-- Nothing stops a walk from which nothing is kept in a tree without long paths. -/
theorem Walk.not_stops_of_span (hold : walk.world.Holds walk.root tree)
    (haccess : walk.access = .full)
    (h : (walk.route []).text.utf8ByteSize + span tree ≤ Tree.pathLimit) (parents : List String)
    (f : Failure) :
    ¬ walk.Stops tree parents f := by
  rintro (⟨hmeets, hnot⟩ | ⟨-, -, -, -, hspent, -⟩)
  · obtain ⟨node, hat, -⟩ := hmeets.entry
    refine hnot ⟨by rw [haccess, Access.hides_full], ?_⟩
    have hsize := size_le_span hat
    rw [Walk.route_eq, Route.size_text_rooted hold.rooted] at h ⊢
    rw [List.map_append, List.sum_append] at h ⊢
    simp only [List.map_nil, List.sum_nil] at h
    omega
  · rw [haccess] at hspent
    cases hspent

/-! ## Sorted paths -/

theorem isLE_total (a b : String) : ((compare a b).isLE || (compare b a).isLE) = true := by
  have hswap : compare b a = (compare a b).swap := Std.OrientedCmp.eq_swap
  rw [hswap]
  cases compare a b <;> rfl

theorem lt_of_isLE {a b : String} (h : (compare a b).isLE = true) (hne : a ≠ b) : a < b := by
  have hlt : compare a b = .lt ↔ a < b := Std.LawfulLTCmp.eq_lt_iff_lt
  rw [← hlt]
  cases horder : compare a b with
  | lt => rfl
  | eq => exact absurd (Std.LawfulEqCmp.eq_of_compare horder) hne
  | gt =>
    rw [horder] at h
    cases h

/-- Different texts are sorted in strictly increasing order. -/
theorem pairwise_sortTexts {texts : List String} (h : texts.Nodup) :
    (sortTexts texts).Pairwise (· < ·) := by
  have hsorted : (sortTexts texts).Pairwise fun a b => (compare a b).isLE = true :=
    List.pairwise_mergeSort (fun _ _ _ => Std.TransCmp.isLE_trans) isLE_total texts
  have hnodup : (sortTexts texts).Nodup := (List.mergeSort_perm _ _).nodup_iff.2 h
  exact (hsorted.and hnodup).imp fun hab => lt_of_isLE hab.1 hab.2

theorem height_le_depthBound {w : World} {root : Route} (hold : w.Holds root tree) :
    height tree ≤ depthBound w.top := by
  obtain ⟨place, -, hplace⟩ := hold.place
  have hheight := height_le_of_at? hplace
  unfold depthBound Tree.linkLimit
  omega

/-- The paths below a directory, sorted, or the failure of the walk. -/
theorem filesBelow_spec (selection : Selection) (access : Access) {w : World} {root : Route}
    {dirs : List String} {entries : List (String × Node)} (hold : w.Holds root (.directory entries))
    (hdirs : selection.settings.excludedDirs = .ofTexts dirs)
    (hlinks : selection.settings.followLinks.truthy = false) :
    let walk := selection.walk w root dirs access
    (∃ parents f, walk.Stops (.directory entries) parents f ∧
      filesBelow w selection root access = .error f) ∨
      (¬ ∃ parents f, walk.Stops (.directory entries) parents f) ∧
        ∃ paths, filesBelow w selection root access = .ok paths ∧ paths.Pairwise (· < ·) ∧
          ∀ path, path ∈ paths ↔
            ∃ parents name data, walk.Finds (.directory entries) parents name data ∧
            path = pathOf parents name := by
  intro walk
  have hanswers : walk.Answers (.directory entries) [] (walk.filesBelow (depthBound w.top) []) := by
    refine Walk.filesBelow_answers hold hlinks (height_le_depthBound hold) rfl nofun ?_
    intro above habove hne
    exact absurd (List.prefix_nil.1 habove) hne
  have hfiles : filesBelow w selection root access =
      walk.filesBelow (depthBound w.top) [] >>= fun paths => .ok (sortTexts paths) := by
    rw [filesBelow, hdirs, excludedNames_eq]
    rfl
  rw [hfiles]
  cases hwalk : walk.filesBelow (depthBound w.top) [] with
  | error f =>
    rw [hwalk] at hanswers
    cases hanswers with
    | stopped _ hstops => exact .inl ⟨_, f, hstops, rfl⟩
  | ok paths =>
    rw [hwalk] at hanswers
    refine .inr ⟨?_, sortTexts paths, rfl, pairwise_sortTexts hanswers.nodup, fun path => ?_⟩
    · rintro ⟨parents, f, hstops⟩
      exact hanswers.free parents f List.nil_prefix hstops
    · rw [mem_sortTexts, hanswers.mem_iff]
      simp only [ List.nil_prefix, true_and]

end SourceSurvey.Corpus
