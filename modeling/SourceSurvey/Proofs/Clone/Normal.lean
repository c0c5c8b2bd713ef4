import SourceSurvey.Clone.Search
import SourceSurvey.Proofs.SourceFile

/-!
# Clones of normal lines

Files are compared by the normal forms of their lines.  A normal line holds no line feed, so a file
can be written with normal lines (`SourceFile.normalized`), and since a second pass changes nothing,
it is compared in the same form (`normal_normalized`).  All that is found and counted is then the
same (`detect_normalized`).
-/

namespace SourceSurvey

open Text

/-- A file with each line in its normal form. -/
def SourceFile.normalized (f : SourceFile) : SourceFile :=
  ⟨f.path, String.ofList (['\n'].intercalate (f.lines.map normalLine))⟩

theorem lineFeed_not_mem_normalLine (line : List Char) : '\n' ∉ normalLine line := by
  intro hmem
  have hspace := (isNormal_normalLine line).space '\n' hmem (by decide)
  exact absurd hspace (by decide)

@[simp] theorem lines_normalized (f : SourceFile) :
    f.normalized.lines = f.lines.map normalLine := by
  have hne : f.lines.map normalLine ≠ [] :=
    mt List.map_eq_nil_iff.1 (linesOf_ne_nil f.content.toList)
  rw [SourceFile.lines, SourceFile.normalized, String.toList_ofList, linesOf_intercalate hne]
  intro line hline
  obtain ⟨own, -, rfl⟩ := List.mem_map.1 hline
  exact lineFeed_not_mem_normalLine own

@[simp] theorem normal_normalized (f : SourceFile) : f.normalized.normal = f.normal := by
  have hlines : f.normalized.lines.map normalLine = f.lines.map normalLine := by
    rw [lines_normalized, List.map_map]
    exact List.map_congr_left fun line _ => normalLine_normalLine line
  rw [SourceFile.normal, hlines]
  rfl

/-- **Normal lines.**  A normal line has no blanks at its ends, single spaces only, and is left as
it is by a second pass; and files with all lines in their normal form have the clones that they
had. -/
theorem detect_normalized :
    (∀ line, IsTrim (normalLine line) ∧ IsSqueezed (normalLine line) ∧
      normalLine (normalLine line) = normalLine line) ∧
    ∀ limits files, Duplication.detect limits (files.map SourceFile.normalized) =
      Duplication.detect limits files := by
  constructor
  · intro line
    have hnormal := isNormal_normalLine line
    exact ⟨hnormal.toIsTrim, hnormal.toIsSqueezed, normalLine_normalLine line⟩
  · intro limits files
    have hfiles : (files.map SourceFile.normalized).map SourceFile.normal =
      files.map SourceFile.normal := by
      rw [List.map_map]
      exact List.map_congr_left fun f _ => normal_normalized f
    rw [Duplication.detect, hfiles]
    rfl

end SourceSurvey
