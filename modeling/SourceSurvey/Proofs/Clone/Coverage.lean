import SourceSurvey.Proofs.Clone.Tally
import SourceSurvey.Proofs.SourceFile

/-!
# Lines that clones cover

The number of lines that a detection reports is that of the lines in the first ranges of all clones
that are found, so neither the ranking nor the number of clones to keep has a part in it.  A first
range lies in a file that has another one behind it, and ends within that file; hence the lines of
the last file are never counted, and less than all lines are (`detect_lines`).  Files with the same
path share their lines, which only makes the number smaller.
-/

namespace SourceSurvey

/-- The number of lines of all files. -/
def lineCount (files : List SourceFile) : ℕ := (files.map fun f => f.lines.length).sum

theorem lineCount_dropLast {files : List SourceFile} (h : files ≠ []) :
    lineCount files.dropLast + (files.getLast h).lines.length = lineCount files := by
  conv_rhs => rw [← List.dropLast_append_getLast h]
  simp [lineCount]

namespace Clone

/-- The lines of a file as keys. -/
def keys (f : NormalFile) : List (String × ℤ) :=
  (List.range f.lines.length).map fun k : ℕ => (f.path, (k : ℤ) + 1)

/-- A line in the first range of a clone is one of the first file at its site. -/
theorem mem_keys_of_mem_linesIn {c : Clone} {s : Site} (h : c.StandsAt s) {key : String × ℤ}
    (hkey : key ∈ linesIn c.first) : key ∈ keys s.a := by
  obtain ⟨file, line⟩ := key
  rw [mem_linesIn, h.first] at hkey
  obtain ⟨rfl, hfirst, hlast⟩ := hkey
  have hin := h.inFirst
  dsimp only at hfirst hlast
  exact List.mem_map.2 ⟨(line - 1).toNat, List.mem_range.2 (by omega), by simp; omega⟩

/-- The covered lines are at most those of the files that have another one behind them. -/
theorem card_coveredLines_le {clones : List Clone} {files : List NormalFile}
    (h : ∀ c ∈ clones, ∃ s ∈ Site.all files, c.StandsAt s) :
    (coveredLines clones).card ≤ (files.dropLast.map fun f => f.lines.length).sum := by
  have hsubset : coveredLines clones ⊆ (files.dropLast.flatMap keys).toFinset := by
    intro key hkey
    obtain ⟨c, hc, hline⟩ := mem_coveredLines.1 hkey
    obtain ⟨s, hs, hstands⟩ := h c hc
    rw [List.mem_toFinset, List.mem_flatMap]
    exact ⟨s.a, Site.mem_dropLast_of_mem_all hs, mem_keys_of_mem_linesIn hstands hline⟩
  calc (coveredLines clones).card ≤ (files.dropLast.flatMap keys).toFinset.card :=
    Finset.card_le_card hsubset
    _ ≤ (files.dropLast.flatMap keys).length := List.toFinset_card_le _
    _ = (files.dropLast.map fun f => f.lines.length).sum := by simp [List.length_flatMap, keys]

variable {limits : Limits} {g : Gauge}

/-- With the lines of the last file, the covered lines are at most all lines. -/
theorem card_coveredLines_add_le (h : limits.Gauged g) (hsize : 1 ≤ g.minSize)
    {files : List SourceFile} (hfiles : files ≠ []) :
    (coveredLines (search limits (files.map SourceFile.normal)).clones).card +
      (files.getLast hfiles).lines.length ≤
      lineCount files := by
  have hcard : (coveredLines (search limits (files.map SourceFile.normal)).clones).card ≤
      ((files.map SourceFile.normal).dropLast.map fun f => f.lines.length).sum :=
    card_coveredLines_le fun c hc => standsAt_of_search h hsize hc
  have hnormal : ((files.map SourceFile.normal).dropLast.map fun f => f.lines.length).sum =
      lineCount files.dropLast := by
    rw [← List.map_dropLast, List.map_map]
    simp [lineCount, SourceFile.normal, Function.comp_def]
  have hall := lineCount_dropLast hfiles
  omega

theorem keeps_of_number {x : Number} (hx : limits.maxKept.number? = some x)
    (hroom : Comparison.ge.ofNumbers x (.int 1) = true) : limits.Keeps := by
  obtain ⟨hnan, -, hge⟩ := (Comparison.ofNumbers_iff _ _ _).1 hroom
  refine ⟨true, ?_, .inr rfl⟩
  rw [hasRoom_of_number hx, isBelow_iff.2 ⟨hnan, ?_⟩]
  exact (Number.place_int_strictMono (by norm_num : ((0 : ℕ) : ℤ) < 1)).trans_le hge

/-- **The lines that are counted** are those in the first ranges of all clones, whatever the ranking
and the number of clones to keep.  With the lines of the last file they are at most all lines, so
that their share is below the whole. -/
theorem detect_lines (limits : Limits) (g : Gauge) (h : limits.Gauged g) (hsize : 1 ≤ g.minSize)
    (files : List SourceFile) (hfiles : files ≠ []) (ranking : Ranking) (kept : Value) (x : Number)
    (hkept : kept.number? = some x) (hroom : Comparison.ge.ofNumbers x (.int 1) = true) :
    ∃ d,
      (Duplication.detect { limits with ranking := ranking, maxKept := kept } files).outcome =
        .ok d ∧
      d.lines = (coveredLines (search limits (files.map SourceFile.normal)).clones).card ∧
      d.lines + (files.getLast hfiles).lines.length ≤ lineCount files ∧
      0 ≤ (d.lines : ℚ) / lineCount files * 100 ∧ (d.lines : ℚ) / lineCount files * 100 < 100 := by
  set other : Limits := { limits with ranking := ranking, maxKept := kept } with hother
  have hgauged : other.Gauged g := ⟨h.minSize, h.maxWindow, h.minAnchor, h.minMatch, h.similarity⟩
  obtain ⟨d, hd⟩ := detect_ok_of_gauged hgauged hsize files (.inr (keeps_of_number hkept hroom))
  have hlines := lines_of_detect hgauged hsize hd
  have hsame : search other (files.map SourceFile.normal) =
      search limits (files.map SourceFile.normal) := by
    obtain ⟨n, hn⟩ := exists_within (files.map SourceFile.normal)
    rw [search_eq_sites hgauged hsize hn, search_eq_sites h hsize hn]
  have hbound : d.lines + (files.getLast hfiles).lines.length ≤ lineCount files :=
    hlines ▸ card_coveredLines_add_le hgauged hsize hfiles
  have hlast : 0 < (files.getLast hfiles).lines.length :=
    List.length_pos_of_ne_nil (linesOf_ne_nil _)
  have hless : (d.lines : ℚ) < lineCount files := by
    exact_mod_cast (by omega : d.lines < lineCount files)
  have hpos : (0 : ℚ) < lineCount files := lt_of_le_of_lt (Nat.cast_nonneg _) hless
  refine ⟨d, hd, hlines.trans (by rw [hsame]), hbound, by positivity, ?_⟩
  have hshare : (d.lines : ℚ) / lineCount files < 1 := (div_lt_one hpos).2 hless
  linarith

/-- In two files of two equal lines each, four clones with windows of at most two and a half lines
cover the two lines of the first file, and one of them is kept. -/
theorem detect_lines_two_files :
    let limits : Limits :=
      ⟨.int 1, .int 0, .float (.ofRatio false 5 2), .int 50, .int 1, .int 0, .scan⟩
    let g : Gauge := ⟨1, .float (.ofRatio false 5 2), .int 1, .int 0, .int 0⟩
    let files : List SourceFile := [⟨"a", "x\nx"⟩, ⟨"b", "x\nx"⟩]
    limits.Gauged g ∧ 1 ≤ g.minSize ∧ Comparison.ge.ofNumbers (.int 1) (.int 1) = true ∧
      (coveredLines (search limits (files.map SourceFile.normal)).clones).card = 2 ∧
      ∃ d,
        (Duplication.detect { limits with ranking := .value, maxKept := .int 1 } files).outcome =
          .ok d ∧
        d.lines = (coveredLines (search limits (files.map SourceFile.normal)).clones).card ∧
        d.lines + (SourceFile.lines ⟨"b", "x\nx"⟩).length ≤ lineCount files := by
  intro limits g files
  have h : limits.Gauged g := ⟨rfl, rfl, rfl, rfl, rfl⟩
  obtain ⟨d, hd, hlines, hbound, -⟩ :=
    detect_lines limits g h le_rfl files (by simp [files]) .value (.int 1) (.int 1) rfl rfl
  exact ⟨h, le_rfl, rfl, by decide +kernel, d, hd, hlines, hbound⟩

end Clone

end SourceSurvey
