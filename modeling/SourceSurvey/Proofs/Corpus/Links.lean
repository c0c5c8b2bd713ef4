import SourceSurvey.Proofs.Corpus.Snapshot
import SourceSurvey.Proofs.Corpus.Ways

/-!
# Snapshots through links

A snapshot knows files by their paths.  With links followed, a regular file stands in it once for
each path that the walk takes and that leads to that file (`enumerate_links`), so a file and a link
to it are two files of the snapshot (`enumerate_links_twice`).

* `Walk.Offers`: the files that belong into a snapshot;
* `Walk.SameFile`, `Walk.Linked`: two files of a snapshot that are one regular file, and one with a
  link on its path;
* `Walk.linked_of_sameFile`: of two different files that are one regular file, one is linked.
-/

namespace SourceSurvey.Corpus

variable {walk : Walk} {parents names : List String} {name : String} {place : Place}

/-! ## One regular file under several paths -/

/-- Two files of a snapshot whose paths lead to the same place, at the end of all links. -/
def Walk.SameFile (walk : Walk) (f g : SourceFile) : Prop :=
  ∃ place, walk.locate (Route.ofText f.path).names = .ok place ∧
    walk.locate (Route.ofText g.path).names = .ok place

/-- A file of a snapshot whose path goes over a link. -/
def Walk.Linked (walk : Walk) (f : SourceFile) : Prop :=
  ∃ names, names ≠ [] ∧ names <+: (Route.ofText f.path).names ∧
    walk.world.isLink (walk.route names) = true

/-- A file that belongs into a snapshot: a walk takes it, it leads to a regular file that is not too
large, and no zero byte is near the start of that file. -/
def Walk.Offers (walk : Walk) (limit : ℤ) (f : SourceFile) : Prop :=
  ∃ parents name place data, walk.Reaches parents name place data ∧ (data.size : ℤ) ≤ limit ∧
    0 ∉ data.data.toList.take 8192 ∧ f = ⟨pathOf parents name, Text.Utf8.decode data⟩

theorem Walk.Allows.names_path (h : walk.Allows parents name) :
    Route.ofText (pathOf parents name) = ⟨"", parents ++ [name]⟩ :=
  Route.ofText_intercalate h.proper

/-- A link that stands straight below the root is seen there. -/
theorem Walk.isLink_of_at? (hrooted : walk.root.root ≠ "") {start : Place} {target : String}
    (hproper : ∀ part ∈ names ++ [name], Proper part) (hstart : walk.locate [] = .ok start)
    (h : walk.locate (names ++ [name]) = .ok place)
    (hlink : walk.world.top.at? (start ++ names ++ [name]) = some (.link target)) :
    walk.world.isLink (walk.route (names ++ [name])) = true := by
  obtain ⟨hname, hnames⟩ : Proper name ∧ ∀ part ∈ names, Proper part := by
    simpa [or_imp, forall_and, and_comm] using hproper
  obtain ⟨hzero, hfits, -⟩ := (Walk.locate_eq_ok_iff hrooted).1 h
  rw [Node.at?_append] at hlink
  obtain ⟨directory, hdirectory, hlast⟩ := Option.bind_eq_some_iff.1 hlink
  obtain ⟨entries, next, rfl, hentry, hnext⟩ := Node.exists_entry_of_at? hlast
  obtain rfl := Option.some.inj hnext
  -- the names before the link lead straight down to the directory that holds it
  obtain ⟨_, mid, -, hmid, -⟩ := Walk.locate_split hrooted h
  obtain rfl : mid = start ++ names := by
    obtain ⟨_, start', -, hstart', hleads⟩ :=
      Walk.locate_split hrooted (List.nil_append names ▸ hmid)
    obtain rfl := Except.ok.inj (hstart.symm.trans hstart')
    rw [Node.at?_append] at hdirectory
    obtain ⟨node, hnode, hat⟩ := Option.bind_eq_some_iff.1 hdirectory
    exact hleads.unique (.of_at? hnode hnames hat rfl)
  rw [World.isLink, Walk.findLink_of_locate hrooted hmid hdirectory hentry hname hzero hfits]
  rfl

/-- Where no link is met, names lead straight down from the root. -/
theorem Walk.locate_of_not_linked (hrooted : walk.root.root ≠ "")
    (hproper : ∀ part ∈ names, Proper part) (h : walk.locate names = .ok place)
    (hfree : ∀ first, first ≠ [] → first <+: names → walk.world.isLink (walk.route first) = false) :
    ∃ start, walk.locate [] = .ok start ∧ place = start ++ names := by
  obtain ⟨_, start, -, hstart, hleads⟩ :=
    Walk.locate_split hrooted ((List.nil_append names).symm ▸ h)
  refine ⟨start, hstart, ?_⟩
  rcases hleads.direct_or_link hproper with hdirect | ⟨before, last, target, hfront, hlink⟩
  · exact hdirect
  · obtain ⟨rest, rfl⟩ := hfront
    obtain ⟨_, _, -, hlast, -⟩ := Walk.locate_split hrooted h
    have hseen :=
      Walk.isLink_of_at? hrooted (fun part hpart => hproper part (List.mem_append_left rest hpart))
      hstart hlast hlink
    rw [hfree (before ++ [last]) (by simp) (List.prefix_append _ rest)] at hseen
    cases hseen

/-- Two different files that belong into a snapshot are the same regular file only over a link. -/
theorem Walk.linked_of_sameFile (hrooted : walk.root.root ≠ "") {limit : ℤ} {f g : SourceFile}
    (hf : walk.Offers limit f) (hg : walk.Offers limit g) (hsame : walk.SameFile f g)
    (hne : f ≠ g) :
    walk.Linked f ∨ walk.Linked g := by
  by_contra hfree
  rw [not_or] at hfree
  obtain ⟨place, hplace, hplace'⟩ := hsame
  obtain ⟨parents, name, _, data, hreaches, -, -, rfl⟩ := hf
  obtain ⟨parents', name', _, data', hreaches', -, -, rfl⟩ := hg
  have hfree_of {h : SourceFile} (hnot : ¬ walk.Linked h) (first : List String)
      (hfirst : first ≠ [])
      (hfront : first <+: (Route.ofText h.path).names) :
      walk.world.isLink (walk.route first) = false :=
    Bool.eq_false_iff.2 fun hlink => hnot ⟨first, hfirst, hfront, hlink⟩
  have hdirect := hfree_of hfree.1
  have hdirect' := hfree_of hfree.2
  simp only [hreaches.names_path, hreaches'.names_path] at hplace hplace' hdirect hdirect'
  obtain ⟨start, hstart, rfl⟩ := Walk.locate_of_not_linked hrooted hreaches.proper hplace hdirect
  obtain ⟨start', hstart', heq⟩ :=
    Walk.locate_of_not_linked hrooted hreaches'.proper hplace' hdirect'
  obtain rfl := Except.ok.inj (hstart.symm.trans hstart')
  -- the same names lead to the same file
  have hnames := List.append_cancel_left heq
  obtain ⟨rfl, hlast⟩ := List.append_inj' hnames rfl
  obtain rfl := List.singleton_injective hlast
  have hdata := hreaches.file
  rw [Except.ok.inj (hreaches.leads.symm.trans hreaches'.leads), hreaches'.file] at hdata
  cases hdata
  exact hne rfl

/-! ## Snapshots -/

theorem Walk.readsAt_eq_some_iff (h : walk.Allows parents name) {limit : ℤ} {content : String} :
    readsAt walk.world walk.root .full limit (pathOf parents name) = some content ↔
      ∃ place data, walk.Reaches parents name place data ∧ content? limit data = some content := by
  have hroute : walk.root.join (Route.ofText (pathOf parents name)) =
      walk.route (parents ++ [name]) := by
    rw [h.names_path, Walk.route]
  rw [readsAt, hroute, contentAt, Access.denies_full, Access.denies_full, Bool.or_self,
    if_neg Bool.false_ne_true]
  constructor
  · intro hcontent
    split at hcontent
    · rename_i data hfind
      obtain ⟨place, hplace, hfile⟩ := Walk.find_eq_ok_iff.1 hfind
      exact ⟨place, data, ⟨h, hplace, hfile⟩, hcontent⟩
    · cases hcontent
  · rintro ⟨place, data, hreaches, hcontent⟩
    rw [Walk.find_eq_ok_iff.2 ⟨place, hreaches.leads, hreaches.file⟩]
    exact hcontent

/-- The files that are read at the paths of a walk are all that belong into the snapshot. -/
theorem Walk.mem_filesAt_iff (walk : Walk) (limit : ℤ) {paths : List String}
    (hallowed : ∀ path ∈ paths, ∃ parents name, walk.Allows parents name ∧
      path = pathOf parents name)
    (hall : ∀ parents name place data, walk.Reaches parents name place data →
      pathOf parents name ∈ paths)
    (f : SourceFile) :
    f ∈ filesAt (readsAt walk.world walk.root .full limit) paths ↔ walk.Offers limit f := by
  rw [filesAt, List.mem_filterMap]
  constructor
  · rintro ⟨path, hpath, hf⟩
    obtain ⟨parents, name, hallows, rfl⟩ := hallowed path hpath
    obtain ⟨content, hcontent, rfl⟩ := Option.map_eq_some_iff.1 hf
    obtain ⟨place, data, hreaches, hcontent⟩ := (Walk.readsAt_eq_some_iff hallows).1 hcontent
    obtain ⟨hsize, hzero, rfl⟩ := content?_eq_some_iff.1 hcontent
    exact ⟨parents, name, place, data, hreaches, hsize, hzero, rfl⟩
  · rintro ⟨parents, name, place, data, hreaches, hsize, hzero, rfl⟩
    refine ⟨pathOf parents name, hall parents name place data hreaches, ?_⟩
    have hcontent := content?_eq_some_iff.2 ⟨hsize, hzero, rfl⟩
    rw [(Walk.readsAt_eq_some_iff hreaches.toAllows).2 ⟨place, data, hreaches, hcontent⟩]
    rfl

section Snapshot

variable {w : World} {selection : Selection} {root : Route} {excluded : List String}

/-- The paths below a directory with links followed: sorted, each of an entry that the walk takes,
and all that lead to a file. -/
theorem filesBelow_linked (hsound : w.top.Sound) (hrooted : root.root ≠ "")
    (hexcluded : excludedNames selection.settings.excludedDirs = .ok excluded)
    (hlinks : selection.settings.followLinks.truthy = true) {paths : List String}
    (h : filesBelow w selection root = .ok paths) :
    paths.Pairwise (· < ·) ∧
      (∀ path ∈ paths, ∃ parents name, (selection.walk w root excluded).Allows parents name ∧
        path = pathOf parents name) ∧
      ∀ parents name place data, (selection.walk w root excluded).Reaches parents name place data →
        pathOf parents name ∈ paths := by
  rw [filesBelow, hexcluded] at h
  obtain ⟨_, ⟨⟩, h⟩ := bind_eq_ok.1 h
  obtain ⟨found, hfound, h⟩ := bind_eq_ok.1 h
  obtain rfl := Except.ok.inj h
  have hwalk : (selection.walk w root excluded).filesBelow (depthBound w.top) [] = .ok found :=
    hfound
  have htaken : (selection.walk w root excluded).Taken [] found :=
    Walk.taken_filesBelow hsound hwalk (by simp)
  refine ⟨pairwise_sortTexts htaken.nodup, fun path hpath => ?_,
    fun parents name place data hreaches => ?_⟩
  · obtain ⟨parents, name, -, hallowed, rfl⟩ := htaken.allowed path (mem_sortTexts.1 hpath)
    exact ⟨parents, name, hallowed, rfl⟩
  · refine mem_sortTexts.2 (Walk.mem_filesBelow hrooted hlinks rfl hreaches hwalk
      List.nil_prefix ?_)
    rw [List.length_nil, Nat.zero_add]
    exact Walk.length_lt_depthBound hrooted hreaches

/-- **Snapshots through links.**  With links followed, a snapshot holds one file for each path that
a walk takes and that leads to a file, in the order of the paths and up to the limit: a regular file
that several such paths lead to stands in it several times.  All but one of these paths go over a
link. -/
theorem enumerate_links {path : String} {n : ℕ} {limit : ℤ} {files : List SourceFile}
    (hsound : w.top.Sound) (hroot : validateRoot w (Route.ofText path) = .ok root)
    (hexcluded : excludedNames selection.settings.excludedDirs = .ok excluded)
    (hlinks : selection.settings.followLinks.truthy = true)
    (hmax : selection.settings.maxFiles = .int n)
    (hlimit : selection.settings.maxFileBytes = .ok limit)
    (h : (enumerate w selection path).outcome = .ok files) :
    let walk := selection.walk w root excluded
    (∃ all : List SourceFile, all.Pairwise (fun f g => f.path < g.path) ∧
      (∀ f, f ∈ all ↔ walk.Offers limit f) ∧
        files = all.take n) ∧
      ∀ f ∈ files, ∀ g ∈ files, walk.SameFile f g → f ≠ g → walk.Linked f ∨ walk.Linked g := by
  intro walk
  have hrooted := (validateRoot_ok hroot).1
  rw [enumerate, Traced.outcome_bind_of_ok hroot, Traced.bind_ok] at h
  obtain ⟨paths, hpaths, h⟩ := h
  obtain ⟨hsorted, hallowed, hall⟩ := filesBelow_linked hsound hrooted hexcluded hlinks hpaths
  have hread : (readAll w selection.settings root .full [] paths).outcome =
      .ok ((filesAt (readsAt w root .full limit) paths).take n) :=
    readAll_outcome hmax (fun path _ => readOrSkip_readsAt hlimit path) [] (Nat.zero_le n)
  rw [Traced.outcome_bind_of_ok hread] at h
  obtain rfl : (filesAt (readsAt w root .full limit) paths).take n = files := Except.ok.inj h
  have hmem : ∀ f, f ∈ filesAt (readsAt w root .full limit) paths ↔ walk.Offers limit f :=
    walk.mem_filesAt_iff limit hallowed hall
  refine ⟨⟨_, pairwise_filesAt hsorted, hmem, rfl⟩, fun f hf g hg => ?_⟩
  exact Walk.linked_of_sameFile hrooted ((hmem f).1 (List.mem_of_mem_take hf))
    ((hmem g).1 (List.mem_of_mem_take hg))

end Snapshot

/-! ## A file under two names -/

/-- A file and a link to it. -/
def pair : List (String × Node) := [("a.js", .file "x\n".toUTF8), ("b.js", .link "a.js")]

/-- The usual settings with links followed. -/
def following : Settings := { Settings.default with followLinks := .bool true }

theorem sound_pair : (Node.directory pair).Sound := by
  refine .directory (by decide) ?_ ?_
  · simp only [pair, List.forall_mem_cons]
    decide
  · simp only [pair, List.forall_mem_cons]
    exact ⟨.file _, .link _, List.forall_mem_nil _⟩

theorem locate_pair : (walkIn following pair).locate ["a.js"] = .ok ["a.js"] ∧
    (walkIn following pair).locate ["b.js"] = .ok ["a.js"] := ⟨rfl, rfl⟩

theorem reaches_pair : (walkIn following pair).Reaches [] "a.js" ["a.js"] "x\n".toUTF8 ∧
    (walkIn following pair).Reaches [] "b.js" ["a.js"] "x\n".toUTF8 := by
  have hwanted : isSourceFile (pathOf [] "a.js") = true ∧
      isSourceFile (pathOf [] "b.js") = true := by
    decide +kernel
  exact ⟨⟨⟨by decide, nofun, by decide, hwanted.1⟩, locate_pair.1, rfl⟩,
    ⟨⟨by decide, nofun, by decide, hwanted.2⟩, locate_pair.2, rfl⟩⟩

theorem filesBelow_pair :
    filesBelow (standingIn pair) (.usual following) ⟨"/", []⟩ = .ok ["a.js", "b.js"] := by
  have hflat : ∀ entry ∈ pair,
      isDirectoryEntry (standingIn pair) ((walkIn following pair).route ([] ++ [entry.1])) entry.2 =
        false := by
    simp only [pair, List.forall_mem_cons]
    exact ⟨rfl, rfl, List.forall_mem_nil _⟩
  have hwalk (depth : ℕ) : (walkIn following pair).filesBelow (depth + 1) [] =
      .ok ["a.js", "b.js"] := by
    refine Walk.filesBelow_flat rfl (find_standingIn pair) hflat (?_ : _ = Except.ok pair) depth
    refine (filterM_eq_ok (q := fun _ => true) ?_).trans
      (congrArg Except.ok (List.filter_eq_self.2 fun _ _ => rfl))
    simp only [pair, List.forall_mem_cons]
    exact ⟨Walk.takes_of_allowed rfl rfl reaches_pair.1.toAllows rfl,
      Walk.takes_of_allowed rfl rfl reaches_pair.2.toAllows rfl, List.forall_mem_nil _⟩
  have hfiles : filesBelow (standingIn pair) (.usual following) ⟨"/", []⟩ =
      .ok (sortTexts ["a.js", "b.js"]) :=
    filesBelow_ok (excludedNames_eq Settings.defaultExcluded) hwalk
  rw [hfiles, sortTexts, List.mergeSort_of_pairwise (by decide)]

theorem maxFileBytes_following : following.maxFileBytes = .ok 10485760 :=
  toOption_eq_some.1 (by decide)

theorem enumerate_pair : (enumerate (standingIn pair) (.usual following) ".").outcome =
    .ok [⟨"a.js", "x\n"⟩, ⟨"b.js", "x\n"⟩] := by
  have hcontent : content? 10485760 "x\n".toUTF8 = some "x\n" := by decide +kernel
  have hfirst : readsAt (standingIn pair) ⟨"/", []⟩ .full 10485760 "a.js" = some "x\n" :=
    (Walk.readsAt_eq_some_iff reaches_pair.1.toAllows).2 ⟨_, _, reaches_pair.1, hcontent⟩
  have hsecond : readsAt (standingIn pair) ⟨"/", []⟩ .full 10485760 "b.js" = some "x\n" :=
    (Walk.readsAt_eq_some_iff reaches_pair.2.toAllows).2 ⟨_, _, reaches_pair.2, hcontent⟩
  have hread : (readAll (standingIn pair) following ⟨"/", []⟩ .full [] ["a.js", "b.js"]).outcome =
      _ :=
    readAll_outcome (n := 10000) rfl (fun path _ => readOrSkip_readsAt maxFileBytes_following path)
      [] (Nat.zero_le _)
  rw [filesAt_cons, filesAt_cons, hfirst, hsecond] at hread
  obtain ⟨message, henumerate⟩ :=
    enumerate_of_read (validateRoot_standingIn pair) filesBelow_pair hread
  rw [henumerate]
  rfl

/-- With links followed, a file and a link to it are both returned, though both paths lead to the
same file. -/
theorem enumerate_links_twice :
    (enumerate (standingIn pair) (.usual following) ".").outcome =
      .ok [⟨"a.js", "x\n"⟩, ⟨"b.js", "x\n"⟩] ∧
      (walkIn following pair).SameFile ⟨"a.js", "x\n"⟩ ⟨"b.js", "x\n"⟩ := by
  refine ⟨enumerate_pair, ["a.js"], ?_, ?_⟩
  · exact locate_pair.1
  · exact locate_pair.2

theorem enumerate_links_pair :
    (enumerate (standingIn pair) (.usual following) ".").outcome =
      .ok [⟨"a.js", "x\n"⟩, ⟨"b.js", "x\n"⟩] ∧
      (walkIn following pair).Offers 10485760 ⟨"b.js", "x\n"⟩ ∧
      ((walkIn following pair).Linked ⟨"a.js", "x\n"⟩ ∨
        (walkIn following pair).Linked ⟨"b.js", "x\n"⟩) := by
  obtain ⟨⟨all, -, hmem, hfiles⟩, hlinked⟩ :=
    enumerate_links (n := 10000) sound_pair (validateRoot_standingIn pair)
    (excludedNames_eq Settings.defaultExcluded) rfl rfl maxFileBytes_following enumerate_pair
  have hsecond : ⟨"b.js", "x\n"⟩ ∈ all.take 10000 :=
    hfiles ▸ List.mem_cons_of_mem _ List.mem_cons_self
  refine ⟨enumerate_pair, (hmem _).1 (List.mem_of_mem_take hsecond), ?_⟩
  exact hlinked _ (by simp) _ (by simp) ⟨["a.js"], locate_pair⟩ (by decide)

end SourceSurvey.Corpus
