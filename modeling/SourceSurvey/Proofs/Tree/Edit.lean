import Mathlib.Logic.Function.Basic
import SourceSurvey.Proofs.Tree.Place
import SourceSurvey.Tree.Edit

/-!
# Files after a change

A tree is seen as the files in it, by their places (`Node.fileAt`).  Through this view a change of a
tree is a change of one file: text that is added to a file goes to its end (`fileAt_append`), and
opening a file makes it, empty, where it was missing (`fileAt_openFile`).  All other files stay as
they were.
-/

namespace SourceSurvey

/-- The bytes of the file at a place. -/
def Node.fileAt (top : Node) (place : Place) : Option ByteArray :=
  match top.at? place with
  | some (.file data) => some data
  | _ => none

namespace Tree

variable {top inner : Node} {entries : List (String × Node)} {name key : String} {data : ByteArray}
  {place : Place}

/-! ## Entries -/

theorem lookup_alter_self {change : Option Node → Option Node}
    (h : change (entries.lookup name) = some inner) :
    (alter change name entries).lookup name = some inner := by
  induction entries with
  | nil =>
    rw [List.lookup_nil] at h
    simp [alter, h]
  | cons entry entries ih =>
    obtain ⟨other, node⟩ := entry
    by_cases hname : other = name
    · rw [hname, List.lookup_cons_self] at h
      simp [alter, hname, h]
    · have hother : (name == other) = false := by simpa using Ne.symm hname
      rw [List.lookup_cons, hother] at h
      rw [alter, if_neg hname, List.lookup_cons, hother]
      exact ih h

theorem lookup_alter_of_ne {change : Option Node → Option Node} (h : key ≠ name) :
    (alter change name entries).lookup key = entries.lookup key := by
  have hkey : (key == name) = false := by simpa using h
  induction entries with
  | nil =>
    rw [alter]
    cases change none with
    | none => rfl
    | some node => simp [List.lookup_cons, hkey]
  | cons entry entries ih =>
    obtain ⟨other, node⟩ := entry
    by_cases hname : other = name
    · rw [alter, if_pos hname, hname, List.lookup_cons, hkey]
      cases change (some node) with
      | none => rfl
      | some node => simp [List.lookup_cons, hkey]
    · rw [alter, if_neg hname, List.lookup_cons, List.lookup_cons, ih]

/-! ## Files -/

@[simp] theorem fileAt_eq_some_iff :
    top.fileAt place = some data ↔ top.at? place = some (.file data) := by
  unfold Node.fileAt
  split <;> simp_all

theorem fileAt_file (data : ByteArray) :
    (Node.file data).fileAt = Function.update (fun _ => none) [] (some data) := by
  funext place
  cases place with
  | nil => rfl
  | cons name rest => rfl

@[simp] theorem fileAt_cons (entries : List (String × Node)) (key : String) (rest : Place) :
    (Node.directory entries).fileAt (key :: rest) = (entries.lookup key).bind (·.fileAt rest) := by
  rw [Node.fileAt, Node.at?, Node.entry?]
  cases entries.lookup key <;> rfl

/-- A change of one file below an entry is a change of one file of the directory. -/
theorem fileAt_alter {change : Option Node → Option Node} {rest : Place} {value : Option ByteArray}
    (h : change (entries.lookup name) = some inner)
    (hinner : inner.fileAt = Function.update
      (fun place => (entries.lookup name).bind (·.fileAt place)) rest value) :
    (Node.directory (alter change name entries)).fileAt =
      Function.update (Node.directory entries).fileAt (name :: rest) value := by
  funext place
  cases place with
  | nil =>
    rw [Function.update_of_ne (List.cons_ne_nil _ _).symm]
    rfl
  | cons key place =>
    rw [fileAt_cons]
    by_cases hkey : key = name
    · subst hkey
      rw [lookup_alter_self h, Option.bind_some, hinner]
      by_cases hrest : place = rest
      · rw [hrest, Function.update_self, Function.update_self]
      · rw [Function.update_of_ne hrest, Function.update_of_ne (by simpa using hrest), fileAt_cons]
    · rw [lookup_alter_of_ne hkey, Function.update_of_ne (by simp [hkey]), fileAt_cons]

/-- A file can be put at a place: its directory is there, and no directory is in its way. -/
structure Free (top : Node) (place : Place) : Prop where
  parent : ∃ directory name entries, place = directory ++ [name] ∧
    top.at? directory = some (.directory entries)
  file : ∀ node, top.at? place = some node → ∃ data, node = .file data

theorem fileAt_update {directory : Place}
    (hdirectory : top.at? directory = some (.directory entries))
    (hfile : ∀ node, top.at? (directory ++ [name]) = some node → ∃ data, node = .file data)
    (data : ByteArray) :
    ∃ top', update (fun _ => some (.file data)) (directory ++ [name]) (some top) = some top' ∧
      top'.fileAt = Function.update top.fileAt (directory ++ [name]) (some data) := by
  induction directory generalizing top with
  | nil =>
    obtain rfl := Option.some.inj hdirectory
    refine ⟨_, rfl, fileAt_alter rfl ?_⟩
    rw [fileAt_file]
    funext place
    cases place with
    | nil => rfl
    | cons key rest =>
      rw [Function.update_of_ne (List.cons_ne_nil _ _),
        Function.update_of_ne (List.cons_ne_nil _ _)]
      -- a file that stood there has nothing below it
      cases hlookup : entries.lookup name with
      | none => rfl
      | some node =>
        obtain ⟨old, rfl⟩ := hfile node (Node.at?_cons hlookup [])
        rfl
  | cons first directory ih =>
    obtain ⟨outer, next, rfl, hlookup, hnext⟩ := Node.exists_entry_of_at? hdirectory
    have hbelow : ∀ names, (Node.directory outer).at? (first :: names) = next.at? names :=
      Node.at?_cons hlookup
    obtain ⟨next', hupdate, hfiles⟩ :=
      ih hnext fun node hnode => hfile node ((hbelow _).trans hnode)
    refine ⟨_, rfl, fileAt_alter (hlookup ▸ hupdate) ?_⟩
    rw [hlookup]
    exact hfiles

/-- A file that is put at a free place is there, and all others stay. -/
theorem fileAt_put (h : Free top place) (data : ByteArray) :
    (put top place (.file data)).fileAt = Function.update top.fileAt place (some data) := by
  obtain ⟨directory, name, entries, rfl, hdirectory⟩ := h.parent
  obtain ⟨top', hupdate, hfiles⟩ := fileAt_update hdirectory h.file data
  rw [put, hupdate]
  exact hfiles

theorem free_of_fileAt {directory : Place} (h : top.fileAt (directory ++ [name]) = some data) :
    Free top (directory ++ [name]) := by
  rw [fileAt_eq_some_iff] at h
  refine ⟨?_, fun node hnode => ⟨data, Option.some.inj (hnode.symm.trans h)⟩⟩
  rw [Node.at?_append, Option.bind_eq_some_iff] at h
  obtain ⟨parent, hparent, hname⟩ := h
  obtain ⟨entries, next, rfl, -⟩ := Node.exists_entry_of_at? hname
  exact ⟨directory, name, entries, rfl, hparent⟩

/-- **Text goes to the end of its file**, and all other files stay. -/
theorem fileAt_append (h : top.fileAt place = some data) (more : ByteArray) :
    (append top place more).fileAt = Function.update top.fileAt place (some (data ++ more)) := by
  rw [append, fileAt_eq_some_iff.1 h]
  dsimp only
  rcases List.eq_nil_or_concat' place with rfl | ⟨directory, name, rfl⟩
  · obtain rfl : top = .file data := Option.some.inj (fileAt_eq_some_iff.1 h)
    change (Node.file (data ++ more)).fileAt = _
    rw [fileAt_file, fileAt_file, Function.update_idem]
  · exact fileAt_put (free_of_fileAt h) _

/-! ## Opening files -/

theorem free_of_openWith {onLink : Bool → Place → List String → Except Obstacle Place}
    {slash : Bool}
    (honLink : ∀ {slash here names place}, onLink slash here names = .ok place → Free top place)
    {here : Place} {names : List String} (h : openWith top onLink slash here names = .ok place) :
    Free top place := by
  induction names generalizing here with
  | nil => cases h
  | cons name rest ih =>
    rw [openWith] at h
    cases hhere : top.at? here with
    | none =>
      rw [hhere] at h
      cases h
    | some node =>
      rw [hhere] at h
      cases node with
      | file data => cases h
      | link target => cases h
      | directory entries =>
        have hentry : top.at? (here ++ [name]) = entries.lookup name := by
          rw [Node.at?_append, hhere, Option.bind_some, Node.at?, Node.entry?]
          cases entries.lookup name <;> rfl
        have hfree : (∀ node, entries.lookup name = some node → ∃ data, node = .file data) →
            Free top (here ++ [name]) :=
          fun hfile => ⟨⟨here, name, entries, rfl, hhere⟩, hentry ▸ hfile⟩
        dsimp only at h
        split_ifs at h with hslash hlong hdot hup hlast
        · exact ih h
        · exact ih h
        · -- the last name: a file, there or not, or a link to one
          cases hlookup : entries.lookup name with
          | none =>
            rw [hlookup] at h hfree
            obtain rfl := Except.ok.inj h
            exact hfree fun node hnode => by cases hnode
          | some inner =>
            rw [hlookup] at h hfree
            cases inner with
            | file data =>
              obtain rfl := Except.ok.inj h
              exact hfree fun node hnode => ⟨data, (Option.some.inj hnode).symm⟩
            | directory inner => exact ih h
            | link target => exact honLink h
        · cases hlookup : entries.lookup name with
          | none =>
            rw [hlookup] at h
            cases h
          | some inner =>
            rw [hlookup] at h
            cases inner with
            | file data => cases h
            | directory inner => exact ih h
            | link target => exact honLink h

theorem free_of_openWalk {links : ℕ} {slash : Bool} {here : Place} {names : List String}
    (h : openWalk top links slash here names = .ok place) : Free top place := by
  induction links generalizing slash here names place with
  | zero => exact free_of_openWith (fun hlink => by cases hlink) h
  | succ links ih => exact free_of_openWith (fun hlink => ih hlink) h

/-- **A file that is opened** is there, empty when it was missing, and all other files stay. -/
theorem fileAt_openFile {route : Route} {top' : Node} (h : openFile top route = .ok (top', place)) :
    top'.fileAt = Function.update top.fileAt
      place (some ((top.fileAt place).getD ByteArray.empty)) := by
  rw [openFile] at h
  cases hplace : filePlace top route with
  | error obstacle =>
    rw [hplace] at h
    cases h
  | ok found =>
    have hfree : Free top found := by
      unfold filePlace at hplace
      split_ifs at hplace
      exact free_of_openWalk hplace
    rw [hplace] at h
    dsimp only at h
    cases hat : top.at? found with
    | some node =>
      rw [hat] at h
      obtain ⟨rfl, rfl⟩ := Prod.mk.inj (Except.ok.inj h)
      obtain ⟨data, rfl⟩ := hfree.file node hat
      rw [fileAt_eq_some_iff.2 hat, Option.getD_some, ← fileAt_eq_some_iff.2 hat,
        Function.update_eq_self]
    | none =>
      rw [hat] at h
      obtain ⟨rfl, rfl⟩ := Prod.mk.inj (Except.ok.inj h)
      have hnone : top.fileAt found = none := by rw [Node.fileAt, hat]
      rw [hnone]
      exact fileAt_put hfree ByteArray.empty

end Tree

end SourceSurvey
