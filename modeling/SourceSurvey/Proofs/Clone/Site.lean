import SourceSurvey.Proofs.Clone.Gauge

/-!
# Where clones start

A site is a pair of lines in two files with different paths.  All sites of a list of files,
`Site.all`, stand in the order in which a search looks at them, and a search finds at each of them
its clone or none (`search_eq_sites`).  So laws about searches follow from laws about single sites.

* `Site`, `Site.ofPair`, `Site.all`;
* `Site.clone?`: the clone at a site, with `Clone.StandsAt`, what it says of the two files;
* `comparePair_eq_sites`, `search_eq_sites`.
-/

namespace SourceSurvey

/-- Two lines of two files, at which a clone may start. -/
structure Site where
  a : NormalFile
  b : NormalFile
  i : ℕ
  j : ℕ
  deriving DecidableEq

/-- A clone that starts at a site and ends within both files. -/
structure Clone.StandsAt (c : Clone) (s : Site) : Prop where
  first : c.first = ⟨s.a.path, s.i + 1, s.i + c.size⟩
  second : c.second = ⟨s.b.path, s.j + 1, s.j + c.size⟩
  inFirst : s.i + c.size ≤ s.a.lines.length
  inSecond : s.j + c.size ≤ s.b.lines.length

namespace Site

/-- The line of the first file. -/
def anchor (s : Site) : Line := s.a.lines.getD s.i []

/-- The sites of two files, row by row. -/
def ofPair (a b : NormalFile) : List Site :=
  if a.path ≠ b.path then
    (List.range a.lines.length).flatMap fun i =>
      (List.range b.lines.length).map fun j => ⟨a, b, i, j⟩
  else []

/-- The sites of all pairs of files: each file with those behind it. -/
def all : List NormalFile → List Site
  | [] => []
  | a :: rest => rest.flatMap (ofPair a) ++ all rest

variable {s : Site} {a b : NormalFile} {files : List NormalFile}

theorem mem_ofPair : s ∈ ofPair a b ↔
    a.path ≠ b.path ∧ s.a = a ∧ s.b = b ∧ s.i < a.lines.length ∧ s.j < b.lines.length := by
  unfold ofPair
  split_ifs with hpath
  · simp only [List.mem_flatMap, List.mem_map, List.mem_range]
    constructor
    · rintro ⟨i, hi, j, hj, rfl⟩
      exact ⟨hpath, rfl, rfl, hi, hj⟩
    · rintro ⟨-, rfl, rfl, hi, hj⟩
      exact ⟨s.i, hi, s.j, hj, rfl⟩
  · simp [not_not.1 hpath]

/-- The first file of a site has another one behind it. -/
theorem mem_dropLast_of_mem_all (h : s ∈ all files) : s.a ∈ files.dropLast := by
  induction files with
  | nil => simp [all] at h
  | cons a rest ih =>
    rw [all, List.mem_append, List.mem_flatMap] at h
    rcases h with ⟨b, hb, hs⟩ | hs
    · rw [List.dropLast_cons_of_ne_nil (List.ne_nil_of_mem hb), (mem_ofPair.1 hs).2.1]
      exact List.mem_cons_self
    · have hmem := ih hs
      have hne : rest ≠ [] := by
        rintro rfl
        simp at hmem
      rw [List.dropLast_cons_of_ne_nil hne]
      exact List.mem_cons_of_mem _ hmem

/-- The clone at a site. -/
def clone? (b : Bounds) (accepts : Double → Bool) (s : Site) : Option Clone :=
  Clone.cloneAt b accepts s.a s.b s.i s.j

/-- The clone at a site under a gauge, in files of at most `n` lines with at most `n` characters. -/
def gauged? (g : Gauge) (n : ℕ) (s : Site) : Option Clone :=
  s.clone? (g.within n).widened (Clone.notBelow (g.within n))

variable {bounds : Bounds} {accepts : Double → Bool}

theorem standsAt_of_clone? (hsize : 1 ≤ bounds.minSize) {c : Clone}
    (h : s.clone? bounds accepts = some c) :
    c.StandsAt s := by
  simp only [clone?, Clone.cloneAt] at h
  split_ifs at h with hall
  obtain rfl := Option.some.inj h
  have hleast := hall.2.2.1
  have hreach : Clone.reach bounds s.a.lines s.b.lines s.i s.j ≤ s.a.lines.length - s.i ∧
      Clone.reach bounds s.a.lines s.b.lines s.i s.j ≤ s.b.lines.length - s.j := by
    simp only [Clone.reach]
    omega
  exact ⟨rfl, rfl, by dsimp only; omega, by dsimp only; omega⟩

end Site

namespace Clone

variable {bounds : Bounds} {accepts : Double → Bool}

theorem exhaustivePair_eq_sites (a b : NormalFile) :
    (if a.path ≠ b.path then exhaustivePair bounds accepts a b else []) =
      (Site.ofPair a b).filterMap (Site.clone? bounds accepts) := by
  unfold Site.ofPair
  split_ifs with hpath
  · rw [exhaustivePair, List.filterMap_flatMap]
    refine List.flatMap_congr fun i _ => ?_
    rw [List.filterMap_map]
    rfl
  · rfl

theorem exhaustive_eq_sites (files : List NormalFile) :
    exhaustive bounds accepts files = (Site.all files).filterMap (Site.clone? bounds accepts) := by
  -- files are numbered from any start, as in the search
  have hpairs : ∀ n,
      orderedPairs (fun a b => (Site.ofPair a b).filterMap (Site.clone? bounds accepts))
      (files.zipIdx n) = (Site.all files).filterMap (Site.clone? bounds accepts) := by
    induction files with
    | nil => exact fun n => rfl
    | cons a files ih =>
      intro n
      rw [orderedPairs_cons, ih (n + 1), Site.all, List.filterMap_append, List.filterMap_flatMap]
  rw [← hpairs 0, exhaustive, orderedPairs]
  simp only [← exhaustivePair_eq_sites, ite_and]

variable {limits : Limits} {g : Gauge} {n : ℕ}

/-- The search in two files goes through their sites. -/
theorem comparePair_eq_sites (h : limits.Gauged g) (hsize : 1 ≤ g.minSize) {a : NormalFile}
    (ha : a.Within n) (b : NormalFile) :
    comparePair limits none a b = ⟨(Site.ofPair a b).filterMap (Site.gauged? g n), none⟩ := by
  rw [comparePair_within h hsize ha, exhaustivePair_eq_sites]
  rfl

/-- **A search goes through all sites**, and finds the clone at each of them or none. -/
theorem search_eq_sites (h : limits.Gauged g) (hsize : 1 ≤ g.minSize) {files : List NormalFile}
    (hfiles : ∀ f ∈ files, f.Within n) :
    search limits files = ⟨(Site.all files).filterMap (Site.gauged? g n), none⟩ := by
  rw [search_within h hsize hfiles, exhaustive_eq_sites]
  rfl

end Clone

end SourceSurvey
