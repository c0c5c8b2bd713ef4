import SourceSurvey.Proofs.Trace
import SourceSurvey.World

/-!
# Places below a directory

What names below a directory lead to.  A tree that a file system can hold (`Node.Sound`) has proper
names, each once in its directory.  In such a tree names joined by slashes spell a route with these
names (`Route.ofText_intercalate`), and a route that goes on below a directory leads to what the
names lead to in the tree of that directory, unless its text is too long (`find_below`,
`findLink_below`).
-/

namespace SourceSurvey

/-- A name that a file system can hold. -/
structure Proper (name : String) : Prop where
  ne_nil : name ≠ ""
  ne_here : name ≠ "."
  ne_up : name ≠ ".."
  slash : '/' ∉ name.toList
  zero : '\x00' ∉ name.toList
  size : name.utf8ByteSize ≤ Tree.nameLimit

instance (name : String) : Decidable (Proper name) :=
  decidable_of_iff (name ≠ "" ∧ name ≠ "." ∧ name ≠ ".." ∧ '/' ∉ name.toList ∧
    '\x00' ∉ name.toList ∧
      name.utf8ByteSize ≤ Tree.nameLimit)
    ⟨fun ⟨h₁, h₂, h₃, h₄, h₅, h₆⟩ => ⟨h₁, h₂, h₃, h₄, h₅, h₆⟩,
      fun ⟨h₁, h₂, h₃, h₄, h₅, h₆⟩ => ⟨h₁, h₂, h₃, h₄, h₅, h₆⟩⟩

/-! ## Routes and their texts -/

namespace Route

theorem cut_of_not_mem {cs : List Char} (h : '/' ∉ cs) : cut cs = [cs] := by
  induction cs with
  | nil => rfl
  | cons c cs ih =>
    obtain ⟨hc, hcs⟩ := not_or.1 (fun hmem => h (List.mem_cons.2 hmem))
    rw [cut, if_neg (Ne.symm hc), ih hcs]

theorem cut_append_slash {cs : List Char} (h : '/' ∉ cs) (rest : List Char) :
    cut (cs ++ '/' :: rest) = cs :: cut rest := by
  induction cs with
  | nil => rfl
  | cons c cs ih =>
    obtain ⟨hc, hcs⟩ := not_or.1 (fun hmem => h (List.mem_cons.2 hmem))
    rw [List.cons_append, cut, if_neg (Ne.symm hc), ih hcs]

/-- Parts that are joined by slashes are found again. -/
theorem cut_intercalate {parts : List (List Char)} (hne : parts ≠ [])
    (h : ∀ part ∈ parts, '/' ∉ part) :
    cut (['/'].intercalate parts) = parts := by
  induction parts with
  | nil => exact absurd rfl hne
  | cons part parts ih =>
    have hpart := h part List.mem_cons_self
    cases parts with
    | nil => rw [List.intercalate_singleton, cut_of_not_mem hpart]
    | cons next parts =>
      rw [List.intercalate_cons_cons, List.append_assoc, List.singleton_append,
        cut_append_slash hpart, ih (List.cons_ne_nil _ _) fun p hp =>
          h p (List.mem_cons_of_mem _ hp)]

theorem namesOf_intercalate {names : List String} (h : ∀ name ∈ names, Proper name) :
    namesOf (String.intercalate "/" names).toList = names := by
  rw [namesOf, String.toList_intercalate]
  by_cases hne : names = []
  · subst hne
    rfl
  have hslash : ∀ part ∈ names.map String.toList, '/' ∉ part := by
    intro part hpart
    obtain ⟨name, hname, rfl⟩ := List.mem_map.1 hpart
    exact (h name hname).slash
  have hcut : cut ("/".toList.intercalate (names.map String.toList)) = names.map String.toList :=
    cut_intercalate (by simpa using hne) hslash
  rw [hcut, List.map_map]
  have hself : names.map (String.ofList ∘ String.toList) = names := by
    simp [Function.comp_def]
  rw [hself, List.filter_eq_self]
  intro name hname
  simp [(h name hname).ne_nil, (h name hname).ne_here]

theorem rootOf_of_head {c : Char} (h : c ≠ '/') (cs : List Char) : rootOf (c :: cs) = "" := by
  unfold rootOf
  split <;> simp_all

theorem rootOf_append {cs : List Char} (hne : cs ≠ []) (hslash : '/' ∉ cs) (rest : List Char) :
    rootOf (cs ++ rest) = "" := by
  obtain ⟨c, cs, rfl⟩ := List.exists_cons_of_ne_nil hne
  exact rootOf_of_head (fun hc => hslash (hc ▸ List.mem_cons_self)) _

theorem rootOf_intercalate {names : List String} (h : ∀ name ∈ names, Proper name) :
    rootOf (String.intercalate "/" names).toList = "" := by
  cases names with
  | nil => rfl
  | cons name names =>
    have hname := h name List.mem_cons_self
    have hroot := rootOf_append (mt String.toList_eq_nil_iff.1 hname.ne_nil) hname.slash
    rw [String.toList_intercalate, List.map_cons]
    cases names.map String.toList with
    | nil => simpa using hroot []
    | cons next rest =>
      rw [List.intercalate_cons_cons, List.append_assoc]
      exact hroot _

/-- A text without a slash spells a single name. -/
theorem ofText_of_not_mem {name : String} (hne : name ≠ "") (hhere : name ≠ ".")
    (hslash : '/' ∉ name.toList) :
    ofText name = ⟨"", [name]⟩ := by
  have hroot := rootOf_append (mt String.toList_eq_nil_iff.1 hne) hslash []
  rw [List.append_nil] at hroot
  rw [ofText, hroot, namesOf, cut_of_not_mem hslash]
  simp [hne, hhere]

/-- Proper names joined by slashes spell the route with these names. -/
theorem ofText_intercalate {names : List String} (h : ∀ name ∈ names, Proper name) :
    ofText (String.intercalate "/" names) = ⟨"", names⟩ := by
  rw [ofText, rootOf_intercalate h, namesOf_intercalate h]

/-- Each name takes its bytes and one for the slash behind it, which the last does not have. -/
theorem size_intercalate (names : List String) :
    (String.intercalate "/" names).utf8ByteSize =
      (names.map fun name => name.utf8ByteSize + 1).sum - 1 := by
  induction names with
  | nil => rfl
  | cons name names ih =>
    cases names with
    | nil => simp
    | cons next names =>
      rw [String.intercalate_cons_cons, String.utf8ByteSize_append, String.utf8ByteSize_append, ih]
      simp only [List.map_cons, List.sum_cons]
      have hslash : "/".utf8ByteSize = 1 := rfl
      omega

/-- A route below another. -/
def below (root : Route) (names : List String) : Route := root.join ⟨"", names⟩

theorem below_eq (root : Route) (names : List String) :
    root.below names = ⟨root.root, root.names ++ names⟩ := rfl

/-- The text of a route is short enough to be looked at. -/
def Fits (route : Route) : Prop := route.text.utf8ByteSize ≤ Tree.pathLimit

theorem size_text_rooted {root : Route} (h : root.root ≠ "") (names : List String) :
    (root.below names).text.utf8ByteSize = root.root.utf8ByteSize +
      (((root.names ++ names).map fun name => name.utf8ByteSize + 1).sum - 1) := by
  rw [below_eq, text, if_neg (by simp [h]), String.utf8ByteSize_append, size_intercalate]

theorem Fits.of_append {root : Route} (h : root.root ≠ "") {names more : List String}
    (hfits : (root.below (names ++ more)).Fits) : (root.below names).Fits := by
  unfold Fits at *
  rw [size_text_rooted h] at *
  simp only [List.map_append, List.sum_append] at *
  omega

end Route

/-! ## Trees -/

namespace Node

@[simp] theorem at?_append (node : Node) (names more : List String) :
    node.at? (names ++ more) = (node.at? names).bind (·.at? more) := by
  induction names generalizing node with
  | nil => rfl
  | cons name names ih =>
    rw [List.cons_append, at?, at?]
    cases node.entry? name with
    | none => rfl
    | some inner => exact ih inner

theorem at?_cons {entries : List (String × Node)} {name : String} {inner : Node}
    (h : entries.lookup name = some inner) (names : List String) :
    (Node.directory entries).at? (name :: names) = inner.at? names := by
  rw [at?, entry?, h]

theorem mem_of_lookup {entries : List (String × Node)} {name : String} {node : Node}
    (h : entries.lookup name = some node) : (name, node) ∈ entries := by
  obtain ⟨before, after, rfl, -⟩ := List.lookup_eq_some_iff.1 h
  exact List.mem_append_right _ List.mem_cons_self

/-- Names below a node lead through an entry of it. -/
theorem exists_entry_of_at? {node inner : Node} {name : String} {names : List String}
    (h : node.at? (name :: names) = some inner) :
    ∃ entries next, node = .directory entries ∧ entries.lookup name = some next ∧
    next.at? names = some inner := by
  cases node with
  | directory entries =>
    rw [at?, entry?] at h
    cases hlookup : entries.lookup name with
    | none =>
      rw [hlookup] at h
      cases h
    | some next =>
      rw [hlookup] at h
      exact ⟨entries, next, rfl, hlookup, h⟩
  | file data => cases h
  | link target => cases h

/-- A tree that a file system can hold: proper names, each once in its directory. -/
inductive Sound : Node → Prop where
  | file (data : ByteArray) : Sound (.file data)
  | link (target : String) : Sound (.link target)
  | directory {entries : List (String × Node)} (hnodup : (entries.map Prod.fst).Nodup)
    (hproper : ∀ entry ∈ entries, Proper entry.1) (hsound : ∀ entry ∈ entries, Sound entry.2) :
    Sound (.directory entries)

theorem Sound.nodup {entries : List (String × Node)} (h : Sound (.directory entries)) :
    (entries.map Prod.fst).Nodup := by
  cases h with
  | directory hnodup _ _ => exact hnodup

theorem Sound.entry {entries : List (String × Node)} (h : Sound (.directory entries))
    {name : String} {node : Node} (hmem : (name, node) ∈ entries) : Proper name ∧ Sound node := by
  cases h with
  | directory _ hproper hsound => exact ⟨hproper _ hmem, hsound _ hmem⟩

/-- In a directory of a sound tree each entry is found by its name. -/
theorem Sound.lookup_iff {entries : List (String × Node)} (h : Sound (.directory entries))
    {name : String} {node : Node} : entries.lookup name = some node ↔ (name, node) ∈ entries := by
  refine ⟨mem_of_lookup, fun hmem => ?_⟩
  obtain ⟨before, after, rfl⟩ := List.append_of_mem hmem
  refine List.lookup_eq_some_iff.2 ⟨before, after, rfl, fun entry hentry => ?_⟩
  have hnodup := h.nodup
  rw [List.map_append, List.map_cons] at hnodup
  rw [bne_iff_ne]
  intro hname
  exact List.disjoint_of_nodup_append hnodup (List.mem_map_of_mem hentry)
    (hname ▸ List.mem_cons_self)

theorem Sound.at? {node inner : Node} (h : Sound node) {names : List String}
    (hat : node.at? names = some inner) :
    Sound inner ∧ ∀ name ∈ names, Proper name := by
  induction names generalizing node with
  | nil =>
    obtain rfl := Option.some.inj hat
    exact ⟨h, nofun⟩
  | cons name names ih =>
    obtain ⟨entries, next, rfl, hlookup, hnext⟩ := exists_entry_of_at? hat
    obtain ⟨hname, hsound⟩ := h.entry (h.lookup_iff.1 hlookup)
    obtain ⟨hinner, hnames⟩ := ih hsound hnext
    exact ⟨hinner, List.forall_mem_cons.2 ⟨hname, hnames⟩⟩

end Node

/-! ## Walks -/

namespace Tree

variable {top : Node} {follow : Bool}

/-- Where a walk goes on behind the names that it has gone. -/
theorem walkWith_append {onLink onLink' : Place → List String → Except Obstacle Place}
    {more : List String} (hmore : follow = true ∨ more ≠ [])
    (hself : ∀ here, ∃ links, walkWith top follow onLink' here more =
      walk top follow links here more)
    (hlink : ∀ here names place, onLink here names = .ok place →
      ∃ links, onLink' here (names ++ more) = walk top follow links place more)
    {names : List String} {here place : Place}
    (h : walkWith top true onLink here names = .ok place) :
    ∃ links, walkWith top follow onLink' here (names ++ more) =
      walk top follow links place more := by
  induction names generalizing here with
  | nil =>
    obtain rfl := Except.ok.inj h
    exact hself here
  | cons name names ih =>
    have hgoesOn : ((names ++ more).isEmpty && !follow) = false := by
      rcases hmore with rfl | hmore
      · simp
      · simp [hmore]
    rw [List.cons_append]
    rw [walkWith] at h ⊢
    cases hhere : top.at? here with
    | none =>
      rw [hhere] at h
      cases h
    | some node =>
      cases node with
      | file data =>
        rw [hhere] at h
        cases h
      | link target =>
        rw [hhere] at h
        cases h
      | directory entries =>
        rw [hhere] at h
        simp only [hgoesOn, Bool.not_true, Bool.and_false, Bool.false_eq_true, if_false] at h ⊢
        split_ifs at h ⊢ with hlong hdot hup
        · exact ih h
        · exact ih h
        · cases hlookup : entries.lookup name with
          | none =>
            rw [hlookup] at h
            cases h
          | some inner =>
            rw [hlookup] at h
            cases inner with
            | file data => exact ih h
            | directory inner => exact ih h
            | link target =>
              dsimp only
              rw [← List.append_assoc]
              exact hlink _ _ _ h

/-- A walk along names and more names goes on from where the first names lead. -/
theorem walk_append {more : List String} (hmore : follow = true ∨ more ≠ []) {links : ℕ}
    {here place : Place} {names : List String} (h : walk top true links here names = .ok place) :
    ∃ spare, walk top follow links here (names ++ more) = walk top follow spare place more := by
  induction links generalizing here names place with
  | zero => exact walkWith_append hmore (fun _ => ⟨0, rfl⟩) (fun _ _ _ hlink => by cases hlink) h
  | succ links ih =>
    exact walkWith_append hmore (fun _ => ⟨links + 1, rfl⟩) (fun _ _ _ hlink => ih hlink) h

/-- Names that lead through directories lead to their place. -/
theorem walkWith_of_at? {onLink : Place → List String → Except Obstacle Place} {node inner : Node}
    {here : Place} {names : List String} (hhere : top.at? here = some node)
    (hnames : ∀ name ∈ names, Proper name) (hat : node.at? names = some inner)
    (hlast : follow = true → inner.isLink = false) :
    walkWith top follow onLink here names = .ok (here ++ names) := by
  induction names generalizing node here with
  | nil => rw [walkWith, List.append_nil]
  | cons name names ih =>
    obtain ⟨entries, next, rfl, hlookup, hnext⟩ := Node.exists_entry_of_at? hat
    obtain ⟨hname, hrest⟩ := List.forall_mem_cons.1 hnames
    have hthere : top.at? (here ++ [name]) = some next := by
      rw [Node.at?_append, hhere, Option.bind_some, Node.at?_cons hlookup]
      rfl
    have hgoesOn := ih hthere hrest hnext
    rw [List.append_assoc, List.singleton_append] at hgoesOn
    rw [walkWith, hhere]
    dsimp only
    rw [if_neg (Nat.not_lt.2 hname.size), if_neg hname.ne_here, if_neg hname.ne_up, hlookup]
    cases next with
    | file data => exact hgoesOn
    | directory inner => exact hgoesOn
    | link target =>
      -- nothing lies below a link, so it is the last of the names
      cases names with
      | cons _ _ => cases hnext
      | nil =>
        obtain rfl := Option.some.inj hnext
        cases follow with
        | false => rfl
        | true => cases hlast rfl

theorem walk_of_at? {node inner : Node} {here : Place} {names : List String}
    (hhere : top.at? here = some node) (hnames : ∀ name ∈ names, Proper name)
    (hat : node.at? names = some inner) (hlast : follow = true → inner.isLink = false) (links : ℕ) :
    walk top follow links here names = .ok (here ++ names) := by
  cases links with
  | zero => exact walkWith_of_at? hhere hnames hat hlast
  | succ links => exact walkWith_of_at? hhere hnames hat hlast

section Find

variable {directory : Place} {route : Route} {node : Node}

theorem find_eq_ok_iff : find top directory route = .ok node ↔
    ∃ place, locate top directory true route = .ok place ∧ top.at? place = some node := by
  rw [find, bind_eq_ok]
  refine exists_congr fun place => and_congr_right fun _ => ?_
  cases top.at? place <;> simp [Pure.pure, Except.pure]

theorem findLink_eq_ok_iff : findLink top directory route = .ok node ↔
    ∃ place, locate top directory false route = .ok place ∧ top.at? place = some node := by
  rw [findLink, bind_eq_ok]
  refine exists_congr fun place => and_congr_right fun _ => ?_
  cases top.at? place <;> simp [Pure.pure, Except.pure]

end Find

end Tree

/-! ## Routes below a directory -/

/-- A route that leads to a sound tree. -/
structure World.Holds (w : World) (root : Route) (tree : Node) : Prop where
  rooted : root.root ≠ ""
  found : w.find root = .ok tree
  sound : tree.Sound

namespace World.Holds

variable {w : World} {root : Route} {tree inner : Node} {names : List String}

theorem place (h : w.Holds root tree) :
    ∃ place, Tree.locate w.top w.here true root = .ok place ∧ w.top.at? place = some tree :=
  Tree.find_eq_ok_iff.1 h.found

theorem hasZero_below (h : w.Holds root tree) (hnames : ∀ name ∈ names, Proper name) :
    (root.below names).hasZero = false := by
  obtain ⟨place, hplace, -⟩ := h.place
  have hroot : root.hasZero = false := by
    refine Bool.eq_false_iff.2 fun hzero => ?_
    rw [Tree.locate, if_pos hzero] at hplace
    cases hplace
  rw [Route.hasZero] at hroot ⊢
  rw [Route.below_eq, List.any_append, hroot, Bool.false_or, List.any_eq_false]
  intro name hname
  simpa using (hnames name hname).zero

/-- A route below a directory leads to what its names lead to there. -/
theorem locate_below (h : w.Holds root tree) (follow : Bool) (hat : tree.at? names = some inner)
    (hfits : (root.below names).Fits) (hmore : follow = true ∨ names ≠ [])
    (hlast : follow = true → inner.isLink = false) :
    ∃ place, Tree.locate w.top w.here follow (root.below names) = .ok place ∧
    w.top.at? place = some inner := by
  obtain ⟨place, hplace, htree⟩ := h.place
  have hnames := (h.sound.at? hat).2
  have hwalk : Tree.walk w.top true Tree.linkLimit
      (if root.root = "" then w.here else []) root.names =
      .ok place := by
    unfold Tree.locate at hplace
    split_ifs at hplace ⊢ <;> exact hplace
  obtain ⟨spare, hspare⟩ := Tree.walk_append hmore hwalk
  refine ⟨place ++ names, ?_, ?_⟩
  · rw [Tree.locate, h.hasZero_below hnames, if_neg Bool.false_ne_true, if_neg (Nat.not_lt.2 hfits),
      Route.below_eq]
    exact hspare.trans (Tree.walk_of_at? htree hnames hat hlast spare)
  · rw [Node.at?_append, htree, Option.bind_some, hat]

theorem find_below (h : w.Holds root tree) (hat : tree.at? names = some inner)
    (hfits : (root.below names).Fits) (hlast : inner.isLink = false) :
    w.find (root.below names) = .ok inner :=
  Tree.find_eq_ok_iff.2 (h.locate_below true hat hfits (.inl rfl) fun _ => hlast)

theorem findLink_below (h : w.Holds root tree) (hat : tree.at? names = some inner)
    (hfits : (root.below names).Fits) (hne : names ≠ []) :
    Tree.findLink w.top w.here (root.below names) = .ok inner :=
  Tree.findLink_eq_ok_iff.2 (h.locate_below false hat hfits (.inr hne) nofun)

theorem locate_of_long (h : w.Holds root tree) (hnames : ∀ name ∈ names, Proper name)
    (hlong : ¬ (root.below names).Fits) (follow : Bool) :
    Tree.locate w.top w.here follow (root.below names) = .error .nameTooLong := by
  rw [Tree.locate, h.hasZero_below hnames, if_neg Bool.false_ne_true, if_pos (Nat.not_le.1 hlong)]

theorem find_of_long (h : w.Holds root tree) (hnames : ∀ name ∈ names, Proper name)
    (hlong : ¬ (root.below names).Fits) : w.find (root.below names) = .error .nameTooLong := by
  rw [World.find, Tree.find, h.locate_of_long hnames hlong]
  rfl

theorem findLink_of_long (h : w.Holds root tree) (hnames : ∀ name ∈ names, Proper name)
    (hlong : ¬ (root.below names).Fits) :
    Tree.findLink w.top w.here (root.below names) = .error .nameTooLong := by
  rw [Tree.findLink, h.locate_of_long hnames hlong]
  rfl

end World.Holds

/-- A link to a text without a slash leads along this one name. -/
theorem Tree.targetNames_of_not_mem {target : String} (hne : target ≠ "") (hself : target ≠ ".")
    (hslash : '/' ∉ target.toList) : targetNames target = [target] := by
  have hnames : Route.namesOf target.toList = [target] :=
    congrArg Route.names (Route.ofText_of_not_mem hne hself hslash)
  have hasks : asksDirectory target = false := by
    unfold asksDirectory
    split
    · exact absurd (List.mem_reverse.1 (by simp_all)) hslash
    · exact absurd (List.mem_reverse.1 (by simp_all)) hslash
    · rfl
  rw [targetNames, hasks, hnames]
  rfl

section LongNames

variable {w : World} {entries : List (String × Node)} {name : String}

theorem Tree.walk_of_long_name (hhere : w.top.at? w.here = some (.directory entries))
    (hlong : nameLimit < name.utf8ByteSize) (links : ℕ) :
    walk w.top true (links + 1) w.here [name] = .error .nameTooLong := by
  rw [walk, walkWith, hhere]
  exact if_pos hlong

theorem World.reaches_of_walk_long (hzero : '\x00' ∉ name.toList)
    (hwalk : Tree.walk w.top true Tree.linkLimit w.here [name] = .error .nameTooLong) :
    w.reaches ⟨"", [name]⟩ = .error (.unreachable .nameTooLong (Route.text ⟨"", [name]⟩)) := by
  have hfree : Route.hasZero ⟨"", [name]⟩ = false := by simpa [Route.hasZero] using hzero
  have hlocate : Tree.locate w.top w.here true ⟨"", [name]⟩ = .error .nameTooLong := by
    rw [Tree.locate, hfree, if_neg Bool.false_ne_true, if_pos rfl]
    split_ifs
    · rfl
    · exact hwalk
  rw [World.reaches, Tree.reaches, Tree.find, hlocate]
  rfl

/-- Nothing can be found out about a name that is too long. -/
theorem World.reaches_of_long_name (hhere : w.top.at? w.here = some (.directory entries))
    (hzero : '\x00' ∉ name.toList) (hlong : Tree.nameLimit < name.utf8ByteSize) :
    w.reaches ⟨"", [name]⟩ = .error (.unreachable .nameTooLong (Route.text ⟨"", [name]⟩)) :=
  reaches_of_walk_long hzero (Tree.walk_of_long_name hhere hlong 39)

/-- Nothing can be found out about a link to a name that is too long. -/
theorem World.reaches_of_long_target (hhere : w.top.at? w.here = some (.directory entries))
    (hname : Proper name) {target : String} (hlink : entries.lookup name = some (.link target))
    (hslash : '/' ∉ target.toList) (hlong : Tree.nameLimit < target.utf8ByteSize) :
    w.reaches ⟨"", [name]⟩ = .error (.unreachable .nameTooLong (Route.text ⟨"", [name]⟩)) := by
  have hne : target ≠ "" := by
    rintro rfl
    cases hlong
  have hself : target ≠ "." := by
    rintro rfl
    exact absurd hlong (by decide)
  have hstart : Tree.linkStart w.here (Route.ofText target) = w.here := by
    rw [Route.ofText_of_not_mem hne hself hslash]
    rfl
  refine reaches_of_walk_long hname.zero ?_
  rw [show Tree.linkLimit = 39 + 1 from rfl, Tree.walk, Tree.walkWith, hhere]
  simp only [hname.size.not_gt, hname.ne_here, hname.ne_up, hlink, if_false, List.isEmpty_nil,
    Bool.not_true, Bool.and_false, Bool.false_eq_true, List.append_nil, hstart,
    Tree.targetNames_of_not_mem hne hself hslash]
  exact Tree.walk_of_long_name hhere hlong 38

end LongNames

end SourceSurvey
