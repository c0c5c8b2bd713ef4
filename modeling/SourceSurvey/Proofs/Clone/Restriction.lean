import SourceSurvey.Proofs.Clone.Tally

/-!
# Fewer files

What a search finds in two files depends on these two files alone.  So when some files are left out
and the others stay in their order, the sites that remain are those with both files among the others
(`Site.all_filter`), and the clones that remain are those with both ranges in them, unchanged and in
the same order (`search_restrict`).  Files with different paths are told apart by their paths, as
the ranges of a clone do.
-/

namespace SourceSurvey

/-! ## Sites -/

namespace Site

variable (keeps : NormalFile → Bool)

theorem filter_ofPair (a b : NormalFile) :
    (ofPair a b).filter (fun s => keeps s.a && keeps s.b) =
      if keeps a && keeps b then ofPair a b else [] := by
  split_ifs with hkeeps
  · refine List.filter_eq_self.2 fun s hs => ?_
    obtain ⟨-, rfl, rfl, -⟩ := mem_ofPair.1 hs
    exact hkeeps
  · refine List.filter_eq_nil_iff.2 fun s hs => ?_
    obtain ⟨-, rfl, rfl, -⟩ := mem_ofPair.1 hs
    exact hkeeps

/-- The partners of a file that stays are those that stay. -/
theorem filter_flatMap_ofPair (a : NormalFile) (files : List NormalFile) :
    (files.flatMap (ofPair a)).filter (fun s => keeps s.a && keeps s.b) =
      if keeps a then (files.filter keeps).flatMap (ofPair a) else [] := by
  induction files with
  | nil => simp
  | cons b files ih =>
    rw [List.flatMap_cons, List.filter_append, ih, filter_ofPair]
    by_cases ha : keeps a = true
    · by_cases hb : keeps b = true
      · simp [ha, hb]
      · simp [ha, hb]
    · simp [ha]

/-- The sites of some of the files are the sites with both files among them. -/
theorem all_filter (files : List NormalFile) :
    all (files.filter keeps) = (all files).filter fun s => keeps s.a && keeps s.b := by
  induction files with
  | nil => rfl
  | cons a files ih =>
    rw [all, List.filter_append, filter_flatMap_ofPair, ← ih]
    by_cases ha : keeps a = true
    · rw [List.filter_cons_of_pos ha, all, if_pos ha]
    · rw [List.filter_cons_of_neg ha, if_neg ha, List.nil_append]

end Site

/-- Files with different paths that stay in their order are those that have one of the paths. -/
theorem filter_path_mem {files files' : List NormalFile} (h : files'.Sublist files)
    (hpaths : (files.map (·.path)).Nodup) :
    files.filter (fun f => decide (f.path ∈ files'.map (·.path))) = files' := by
  induction h with
  | slnil => rfl
  | @cons files' files f h ih =>
    obtain ⟨hnew, hpaths⟩ := List.nodup_cons.1 hpaths
    have hout : f.path ∉ files'.map (·.path) := fun hmem => hnew ((h.map _).subset hmem)
    rw [List.filter_cons_of_neg (by simpa using hout), ih hpaths]
  | @cons_cons files' files f h ih =>
    obtain ⟨hnew, hpaths⟩ := List.nodup_cons.1 hpaths
    rw [List.filter_cons_of_pos (by simp)]
    refine congrArg (List.cons f) (Eq.trans (List.filter_congr fun f' hf' => ?_) (ih hpaths))
    -- no other file has the path of the first one
    have hne : f'.path ≠ f.path := fun heq => hnew (List.mem_map.2 ⟨f', hf', heq⟩)
    simp [hne]

namespace Clone

/-! ## Clones -/

/-- Whether both ranges of a clone lie in files with one of the paths. -/
def liesIn (paths : List String) (c : Clone) : Bool :=
  decide (c.first.file ∈ paths) && decide (c.second.file ∈ paths)

variable {limits : Limits} {g : Gauge}

/-- The clones of the files that stay are those that lie in them. -/
theorem clones_restrict (h : limits.Gauged g) (hsize : 1 ≤ g.minSize)
    {files files' : List NormalFile} (hpaths : (files.map (·.path)).Nodup)
    (hsub : files'.Sublist files) :
    (search limits files').clones = (search limits files).clones.filter
      (liesIn (files'.map (·.path))) := by
  obtain ⟨n, hn⟩ := exists_within files
  have hn' : ∀ f ∈ files', f.Within n := fun f hf => hn f (hsub.subset hf)
  rw [search_eq_sites h hsize hn, search_eq_sites h hsize hn']
  dsimp only
  conv_lhs => rw [← filter_path_mem hsub hpaths, Site.all_filter]
  rw [List.filterMap_filter, List.filter_filterMap]
  refine List.filterMap_congr fun s _ => ?_
  cases hc : s.gauged? g n with
  | none => simp
  | some c =>
    have hstands := Site.standsAt_of_clone? hsize hc
    have hfirst : c.first.file = s.a.path := by rw [hstands.first]
    have hsecond : c.second.file = s.b.path := by rw [hstands.second]
    simp [liesIn, hfirst, hsecond, Option.filter]

/-- **Fewer files.**  When files are left out and the others stay in their order, the clones that
lie in the others are found as before, and no others.  So more files never remove or change a clone,
and the lines that a detection counts never become fewer. -/
theorem search_restrict (limits : Limits) (g : Gauge) (h : limits.Gauged g)
    (hsize : 1 ≤ g.minSize) :
    (∀ files files' : List NormalFile, (files.map (·.path)).Nodup → files'.Sublist files →
      (search limits files).stopped = none ∧ (search limits files').stopped = none ∧
      (search limits files').clones = (search limits files).clones.filter
        (liesIn (files'.map (·.path))) ∧
      (search limits files').clones.Sublist (search limits files).clones) ∧
    ∀ files files' : List SourceFile, (files.map (·.path)).Nodup → files'.Sublist files →
      (limits.Keeps → ∃ d, (Duplication.detect limits files).outcome = .ok d) ∧
      ∀ d, (Duplication.detect limits files).outcome = .ok d →
        ∃ d', (Duplication.detect limits files').outcome = .ok d' ∧ d'.lines ≤ d.lines := by
  constructor
  · intro files files' hpaths hsub
    obtain ⟨n, hn⟩ := exists_within files
    have hrestrict := clones_restrict h hsize hpaths hsub
    refine ⟨by rw [search_eq_sites h hsize hn], ?_, hrestrict, hrestrict ▸ List.filter_sublist⟩
    rw [search_eq_sites h hsize fun f hf => hn f (hsub.subset hf)]
  · intro files files' hpaths hsub
    have hnormal : ((files.map SourceFile.normal).map (·.path)).Nodup := by
      rw [List.map_map]
      exact hpaths
    have hrestrict := clones_restrict h hsize hnormal (hsub.map SourceFile.normal)
    refine ⟨fun hkeeps => detect_ok_of_gauged h hsize files (.inr hkeeps), fun d hd => ?_⟩
    have hkeeps : (search limits (files'.map SourceFile.normal)).clones = [] ∨ limits.Keeps := by
      refine (detect_ok_iff.1 ⟨d, hd⟩).2.imp_left fun hnone => ?_
      rw [hrestrict, hnone, List.filter_nil]
    obtain ⟨d', hd'⟩ := detect_ok_of_gauged h hsize files' hkeeps
    refine ⟨d', hd', ?_⟩
    rw [lines_of_detect h hsize hd, lines_of_detect h hsize hd', hrestrict]
    exact Finset.card_le_card (coveredLines_mono fun c hc => ⟨c, List.mem_of_mem_filter hc, rfl⟩)

/-- Without the second of three files, two of four clones of one line remain. -/
theorem search_restrict_three_files :
    let limits : Limits := ⟨.int 1, .float (.infinite true), .int 1, .int 50, .int 1, .int 0, .scan⟩
    let g : Gauge := ⟨1, .int 1, .int 1, .int 0, .float (.infinite true)⟩
    let files : List NormalFile := [⟨"a", [['x'], ['y']]⟩, ⟨"b", [['x']]⟩, ⟨"c", [['x'], ['y']]⟩]
    let files' : List NormalFile := [⟨"a", [['x'], ['y']]⟩, ⟨"c", [['x'], ['y']]⟩]
    let sources : List SourceFile := [⟨"a", "x\ny"⟩, ⟨"b", "x"⟩, ⟨"c", "x\ny"⟩]
    limits.Gauged g ∧ 1 ≤ g.minSize ∧ (files.map (·.path)).Nodup ∧ files'.Sublist files ∧
    limits.Keeps ∧
      ((search limits files).clones.length = 4 ∧ (search limits files').clones.length = 2) ∧
      (search limits files').clones = (search limits files).clones.filter (liesIn ["a", "c"]) ∧
      ∃ d d', (Duplication.detect limits sources).outcome = .ok d ∧
        (Duplication.detect limits (sources.eraseIdx 1)).outcome = .ok d' ∧ d'.lines ≤ d.lines := by
  intro limits g files files' sources
  have h : limits.Gauged g := ⟨rfl, rfl, rfl, rfl, rfl⟩
  have hkeeps : limits.Keeps := ⟨true, rfl, .inl rfl⟩
  have hpaths : (files.map (·.path)).Nodup := by decide
  have hsub : files'.Sublist files := List.eraseIdx_sublist files 1
  obtain ⟨hfiles, hsources⟩ := search_restrict limits g h le_rfl
  obtain ⟨hfound, hlines⟩ :=
    hsources sources (sources.eraseIdx 1) (by decide) (List.eraseIdx_sublist sources 1)
  obtain ⟨d, hd⟩ := hfound hkeeps
  obtain ⟨d', hd', hle⟩ := hlines d hd
  exact ⟨h, le_rfl, hpaths, hsub, hkeeps, by decide, (hfiles files files' hpaths hsub).2.2.1, d, d',
    hd, hd', hle⟩

end Clone

end SourceSurvey
