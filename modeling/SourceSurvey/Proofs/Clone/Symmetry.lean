import SourceSurvey.Proofs.Clone.Site

/-!
# The order of files

A search goes through the lines of one file and looks them up in the other, and takes the files of a
pair in the order in which they are given.  None of this shows in what it finds: the window from two
lines is the same from both sides, so at a site with its two sides swapped stands the same clone
with its two ranges swapped (`clone?_swap`), and a permutation of the files permutes the sites up to
such swaps (`search_perm`).
-/

namespace SourceSurvey

/-- The clone with its two ranges in the other order. -/
def Clone.swap (c : Clone) : Clone := ⟨c.second, c.first, c.size, c.similarity⟩

/-- A clone whose two ranges have no order. -/
structure UnorderedClone where
  ranges : Sym2 Range
  size : ℕ
  similarity : Double

/-- The clone without the order of its two ranges. -/
def Clone.unordered (c : Clone) : UnorderedClone := ⟨s(c.first, c.second), c.size, c.similarity⟩

@[simp] theorem Clone.unordered_swap (c : Clone) : c.swap.unordered = c.unordered := by
  simp only [Clone.unordered, Clone.swap, Sym2.eq_swap]

/-- The two lines of a site in the other order. -/
def Site.swap (s : Site) : Site := ⟨s.b, s.a, s.j, s.i⟩

namespace Clone

/-! ## One site -/

variable {b : Bounds} {accepts : Double → Bool}

theorem reach_comm (b : Bounds) (as bs : List Line)
    (i j : ℕ) : reach b as bs i j = reach b bs as j i := by
  simp only [reach, min_comm (as.length - i)]

/-- Equal lines have equal lengths, so that it does not matter in which file the length is taken. -/
theorem equalLines_comm (b : Bounds) (as bs : List Line) (i j size : ℕ) :
    equalLines b as bs i j size = equalLines b bs as j i size := by
  refine List.countP_congr fun k _ => ?_
  simp only [decide_eq_true_eq]
  constructor
  · rintro ⟨hline, hlength⟩
    exact ⟨hline.symm, hline ▸ hlength⟩
  · rintro ⟨hline, hlength⟩
    exact ⟨hline.symm, hline ▸ hlength⟩

/-- **From both sides stands the same clone.** -/
@[simp] theorem clone?_swap (s : Site) :
    s.swap.clone? b accepts = (s.clone? b accepts).map swap := by
  simp only [Site.clone?, cloneAt, Site.swap, reach_comm b s.b.lines, equalLines_comm b s.b.lines]
  by_cases hline : s.a.lines.getD s.i [] = s.b.lines.getD s.j []
  · rw [← hline]
    simp only [true_and]
    split_ifs with hall
    · rfl
    · rfl
  · rw [if_neg fun hall => hline hall.1.symm, if_neg fun hall => hline hall.1]
    rfl

end Clone

/-! ## Two files -/

namespace Site

/-- The sites of two files in the other order are the same, swapped. -/
theorem map_swap_ofPair_perm (a b : NormalFile) : ((ofPair b a).map swap).Perm (ofPair a b) := by
  unfold ofPair
  by_cases hpath : a.path = b.path
  · simp [hpath]
  · rw [if_pos (Ne.symm hpath), if_pos hpath, List.map_flatMap]
    simp only [List.map_map, Function.comp_def, swap]
    rw [← Multiset.coe_eq_coe, ← Multiset.coe_bind, ← Multiset.coe_bind]
    simp only [← Multiset.map_coe]
    exact Multiset.bind_map_comm _ _

variable {β : Type} {find : Site → Option β}

/-- What is found at sites from both sides alike does not depend on the order of two files. -/
theorem filterMap_ofPair_perm (hfind : ∀ s, find s.swap = find s) (a b : NormalFile) :
    ((ofPair b a).filterMap find).Perm ((ofPair a b).filterMap find) := by
  have hperm := (map_swap_ofPair_perm a b).filterMap find
  rw [List.filterMap_map] at hperm
  exact (List.filterMap_congr fun s _ => hfind s) ▸ hperm

/-! ## All files -/

/-- What is found at sites from both sides alike does not depend on the order of the files. -/
theorem filterMap_all_perm (hfind : ∀ s, find s.swap = find s) {files files' : List NormalFile}
    (h : files.Perm files') : ((all files).filterMap find).Perm ((all files').filterMap find) := by
  induction h with
  | nil => exact .rfl
  | cons a h ih =>
    simp only [all, List.filterMap_append]
    exact ((h.flatMap_right (ofPair a)).filterMap find).append ih
  | swap a b rest =>
    simp only [all, List.flatMap_cons, List.filterMap_append, List.append_assoc]
    -- the pair itself comes first in both orders, and then the pairs with the other files
    refine (filterMap_ofPair_perm hfind a b).append ?_
    rw [← List.append_assoc, ← List.append_assoc]
    exact List.perm_append_comm.append_right _
  | trans _ _ ih ih' => exact ih.trans ih'

end Site

namespace Clone

variable {limits : Limits} {g : Gauge}

theorem unordered_gauged?_swap (g : Gauge) (n : ℕ) (s : Site) :
    (s.swap.gauged? g n).map unordered = (s.gauged? g n).map unordered := by
  rw [Site.gauged?, clone?_swap, Option.map_map]
  exact congrArg (fun f => Option.map f _) (funext unordered_swap)

/-- The search in two files finds the same clones from both sides. -/
theorem comparePair_swap (h : limits.Gauged g) (hsize : 1 ≤ g.minSize) (a b : NormalFile) :
    (comparePair limits none b a).clones.Perm ((comparePair limits none a b).clones.map swap) := by
  obtain ⟨n, hn⟩ := exists_within [a, b]
  have hgauged : (fun s : Site => s.swap.gauged? g n) = fun s => (s.gauged? g n).map swap :=
    funext fun s => clone?_swap s
  rw [comparePair_eq_sites h hsize (hn a (by simp)), comparePair_eq_sites h hsize (hn b (by simp)),
    List.map_filterMap, ← hgauged]
  have hperm := (Site.map_swap_ofPair_perm b a).filterMap (Site.gauged? g n)
  rw [List.filterMap_map] at hperm
  exact hperm.symm

/-- **The order of files** does not show in the clones, when their two ranges have no order. -/
theorem search_perm (limits : Limits) (g : Gauge) (h : limits.Gauged g) (hsize : 1 ≤ g.minSize)
    (files files' : List NormalFile) (hfiles : files.Perm files') :
    ((search limits files).stopped = none ∧ (search limits files').stopped = none) ∧
      ((search limits files).clones.map unordered).Perm
        ((search limits files').clones.map unordered) ∧
      (search limits files).clones.length = (search limits files').clones.length ∧
      ∀ a b, (comparePair limits none a b).stopped = none ∧
      (comparePair limits none b a).stopped = none ∧
        (comparePair limits none b a).clones.Perm
          ((comparePair limits none a b).clones.map swap) := by
  obtain ⟨n, hn⟩ := exists_within files
  have hn' : ∀ f ∈ files', f.Within n := fun f hf => hn f (hfiles.mem_iff.2 hf)
  have hsearch := search_eq_sites h hsize hn
  have hsearch' := search_eq_sites h hsize hn'
  have hperm : ((search limits files).clones.map unordered).Perm
      ((search limits files').clones.map unordered) := by
    rw [hsearch, hsearch', List.map_filterMap, List.map_filterMap]
    exact Site.filterMap_all_perm (unordered_gauged?_swap g n) hfiles
  refine ⟨⟨by rw [hsearch], by rw [hsearch']⟩, hperm, by simpa using hperm.length_eq, fun a b => ?_⟩
  obtain ⟨k, hk⟩ := exists_within [a, b]
  refine ⟨?_, ?_, comparePair_swap h hsize a b⟩
  · rw [comparePair_eq_sites h hsize (hk a (by simp))]
  · rw [comparePair_eq_sites h hsize (hk b (by simp))]

/-- Three files give four clones, in whichever of two orders they stand. -/
theorem search_perm_three_files :
    let limits : Limits := ⟨.int 1, .int 0, .int 50, .int 50, .int 1, .int 0, .scan⟩
    let g : Gauge := ⟨1, .int 50, .int 1, .int 0, .int 0⟩
    let files : List NormalFile := [⟨"a", [['x'], ['y']]⟩, ⟨"b", [['y'], ['x']]⟩, ⟨"c", [['x']]⟩]
    limits.Gauged g ∧ 1 ≤ g.minSize ∧ files.Perm files.reverse ∧
    (search limits files).clones.length = 4 ∧
      ((search limits files).clones.map unordered).Perm
      ((search limits files.reverse).clones.map unordered) := by
  intro limits g files
  have h : limits.Gauged g := ⟨rfl, rfl, rfl, rfl, rfl⟩
  have hfiles : files.Perm files.reverse := (List.reverse_perm files).symm
  exact ⟨h, le_rfl, hfiles, by decide +kernel,
    (search_perm limits g h le_rfl files files.reverse hfiles).2.1⟩

end Clone

end SourceSurvey
