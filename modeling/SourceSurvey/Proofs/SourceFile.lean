import Mathlib.Tactic
import SourceSurvey.Proofs.Text.Lower
import SourceSurvey.SourceFile

/-!
# Lines and their normal form

The lines of a text are its parts between line feeds, so that joining and splitting undo each other
(`linesOf_intercalate`), and an edit within a line leaves all other lines as they are
(`linesOf_edit`).

The form in which lines are compared is a normal form: it has no blanks at its ends and single
spaces only (`isNormal_normalLine`), its characters are settled, and a line with these properties is
left as it is.  So a second pass changes nothing (`normalLine_normalLine`).
-/

namespace SourceSurvey

/-! ## Lines -/

theorem linesOf_eq_splitOn (text : List Char) : linesOf text = text.splitOn '\n' := by
  induction text with
  | nil => rfl
  | cons c text ih =>
    rw [linesOf, ih, List.splitOn, List.splitOn, List.splitOnP_cons_eq_if_modifyHead]
    by_cases hc : c = '\n'
    · simp [hc]
    · simp only [hc, if_false, beq_iff_eq]
      cases hlines : text.splitOnP (· == '\n') with
      | nil => exact absurd hlines (List.splitOnP_ne_nil _ _)
      | cons line rest => rfl

/-- A line feed divides the lines. -/
@[simp] theorem linesOf_append (a b : List Char) :
    linesOf (a ++ '\n' :: b) = linesOf a ++ linesOf b := by
  simp only [linesOf_eq_splitOn]
  exact List.splitOnP_append_cons a b (by simp)

/-- Lines that are joined come apart again. -/
theorem linesOf_intercalate {lines : List (List Char)} (hne : lines ≠ [])
    (h : ∀ line ∈ lines, '\n' ∉ line) :
    linesOf (['\n'].intercalate lines) = lines := by
  rw [linesOf_eq_splitOn]
  exact List.splitOn_intercalate '\n' h hne

theorem linesOf_ne_nil (text : List Char) : linesOf text ≠ [] := by
  rw [linesOf_eq_splitOn]
  exact List.splitOnP_ne_nil _ _

theorem linesOf_cons_of_ne {c : Char} (h : c ≠ '\n') (cs : List Char) :
    linesOf (c :: cs) = (linesOf cs).modifyHead (c :: ·) := by
  simp only [linesOf_eq_splitOn, List.splitOn, List.splitOnP_cons_eq_if_modifyHead,
    beq_iff_eq, h, if_false]

/-- **An edit within a line** leaves the lines before and behind it, and of its own line what stands
around it. -/
theorem linesOf_edit (u v : List Char) :
    ∃ front left right back, front.length + 1 = (linesOf u).length ∧
    ∀ w, '\n' ∉ w → linesOf (u ++ (w ++ v)) = front ++ (left ++ (w ++ right)) :: back := by
  induction u with
  | nil =>
    obtain ⟨right, back, hv⟩ := List.exists_cons_of_ne_nil (linesOf_ne_nil v)
    refine ⟨[], [], right, back, rfl, fun w hw => ?_⟩
    induction w with
    | nil => exact hv
    | cons c w ih =>
      obtain ⟨hc, hw⟩ := List.ne_and_not_mem_of_not_mem_cons hw
      have hrest : linesOf (w ++ v) = (w ++ right) :: back := ih hw
      change linesOf (c :: (w ++ v)) = (c :: (w ++ right)) :: back
      rw [linesOf_cons_of_ne hc.symm, hrest]
      rfl
  | cons c u ih =>
    obtain ⟨front, left, right, back, hlength, hlines⟩ := ih
    by_cases hc : c = '\n'
    · refine ⟨[] :: front, left, right, back, by simp [linesOf, hc, hlength], fun w hw => ?_⟩
      rw [List.cons_append, linesOf, if_pos hc, hlines w hw]
      rfl
    · rw [linesOf_cons_of_ne hc, List.length_modifyHead]
      -- the character belongs to the first line, which is the edited one if no other comes before
      -- it
      cases front with
      | nil =>
        refine ⟨[], c :: left, right, back, hlength, fun w hw => ?_⟩
        rw [List.cons_append, linesOf_cons_of_ne hc, hlines w hw]
        rfl
      | cons line front =>
        refine ⟨(c :: line) :: front, left, right, back, hlength, fun w hw => ?_⟩
        rw [List.cons_append, linesOf_cons_of_ne hc, hlines w hw]
        rfl

end SourceSurvey

namespace SourceSurvey.Text

/-! ## Blanks -/

/-- A text without blanks at its ends. -/
structure IsTrim (cs : List Char) : Prop where
  head : ∀ c ∈ cs.head?, isBlank c = false
  last : ∀ c ∈ cs.getLast?, isBlank c = false

variable {cs : List Char}

theorem not_isBlank_of_mem_head? (cs : List Char) :
    ∀ c ∈ (cs.dropWhile isBlank).head?, isBlank c = false := by
  intro c hc
  have hhead := List.head?_dropWhile_not isBlank cs
  rwa [Option.mem_def.1 hc] at hhead

theorem dropWhile_eq_self (h : ∀ c ∈ cs.head?, isBlank c = false) : cs.dropWhile isBlank = cs := by
  cases cs with
  | nil => rfl
  | cons c cs => exact List.dropWhile_cons_of_neg (by simp [h c rfl])

theorem isTrim_trim (cs : List Char) : IsTrim (trim cs) := by
  constructor
  · intro c hc
    -- what is cut off at the end leaves a text in front, with the same first character
    have hprefix : trim cs <+: cs.dropWhile isBlank := by
      have hsuffix := List.dropWhile_suffix isBlank (l := (cs.dropWhile isBlank).reverse)
      rwa [← List.reverse_prefix, List.reverse_reverse] at hsuffix
    obtain ⟨rest, hrest⟩ := hprefix
    refine not_isBlank_of_mem_head? cs c ?_
    rw [← hrest, List.head?_append, Option.mem_def.1 hc]
    rfl
  · intro c hc
    rw [trim, trimEnd, List.getLast?_reverse] at hc
    exact not_isBlank_of_mem_head? _ c hc

theorem trim_of_isTrim (h : IsTrim cs) : trim cs = cs := by
  have hlast : ∀ c ∈ cs.reverse.head?, isBlank c = false := by
    rw [List.head?_reverse]
    exact h.last
  rw [trim, trimEnd, dropWhile_eq_self h.head, dropWhile_eq_self hlast, List.reverse_reverse]

theorem isTrim_lower (h : IsTrim cs) : IsTrim (lower cs) := by
  constructor
  · intro c hc
    have hhead : (lower cs).head?.map isBlank = _ := head?_lowerAfter
    rw [Option.mem_def.1 hc, eq_comm, Option.map_some, Option.map_eq_some_iff] at hhead
    obtain ⟨d, hd, hblank⟩ := hhead
    exact hblank ▸ h.head d hd
  · intro c hc
    have hlast : (lower cs).getLast?.map isBlank = _ := getLast?_lowerAfter
    rw [Option.mem_def.1 hc, eq_comm, Option.map_some, Option.map_eq_some_iff] at hlast
    obtain ⟨d, hd, hblank⟩ := hlast
    exact hblank ▸ h.last d hd

/-! ## Runs of blanks -/

/-- A text whose blanks are single spaces. -/
structure IsSqueezed (cs : List Char) : Prop where
  space : ∀ c ∈ cs, isBlank c = true → c = ' '
  apart : ¬ [' ', ' '] <:+: cs

variable {inRun : Bool} {c : Char}

theorem squeezeFrom_of_isBlank (h : isBlank c = true) :
    squeezeFrom inRun (c :: cs) = (if inRun then [] else [' ']) ++ squeezeFrom true cs := by
  rw [squeezeFrom, if_pos h]
  cases inRun <;> rfl

theorem squeezeFrom_of_not_isBlank (h : isBlank c = false) :
    squeezeFrom inRun (c :: cs) = c :: squeezeFrom false cs := by
  rw [squeezeFrom, if_neg (by simp [h])]

theorem mem_squeezeFrom (h : c ∈ squeezeFrom inRun cs) : c = ' ' ∨ c ∈ cs ∧ isBlank c = false := by
  induction cs generalizing inRun with
  | nil => simp [squeezeFrom] at h
  | cons d cs ih =>
    by_cases hd : isBlank d = true
    · rw [squeezeFrom_of_isBlank hd, List.mem_append] at h
      rcases h with hspace | hrest
      · cases inRun <;> simp_all
      · exact (ih hrest).imp_right fun hc => ⟨List.mem_cons_of_mem _ hc.1, hc.2⟩
    · rw [Bool.not_eq_true] at hd
      rw [squeezeFrom_of_not_isBlank hd, List.mem_cons] at h
      rcases h with rfl | hrest
      · exact .inr ⟨List.mem_cons_self, hd⟩
      · exact (ih hrest).imp_right fun hc => ⟨List.mem_cons_of_mem _ hc.1, hc.2⟩

theorem infix_cons_of_ne {w : List Char} {a : Char} (h : a ≠ c) :
    a :: w <:+: c :: cs ↔ a :: w <:+: cs := by
  rw [List.infix_cons_iff, List.cons_prefix_cons]
  simp [h]

/-- Within a run of blanks, what is left of it does not start with one. -/
theorem squeezeFrom_apart : ¬ [' ', ' '] <:+: squeezeFrom inRun cs ∧
    (inRun = true → ∀ c ∈ (squeezeFrom inRun cs).head?, isBlank c = false) := by
  induction cs generalizing inRun with
  | nil => simp [squeezeFrom]
  | cons d cs ih =>
    by_cases hd : isBlank d = true
    · obtain ⟨hapart, hhead⟩ : ¬ [' ', ' '] <:+: squeezeFrom true cs ∧
          (true = true → ∀ c ∈ (squeezeFrom true cs).head?, isBlank c = false) := ih
      rw [squeezeFrom_of_isBlank hd]
      cases inRun with
      | true => exact ⟨hapart, hhead⟩
      | false =>
        refine ⟨?_, by simp⟩
        simp only [Bool.false_eq_true, if_false, List.singleton_append, List.infix_cons_iff,
          hapart, or_false, List.cons_prefix_cons, true_and]
        -- a second space would be the first character of what is left of the run
        rintro ⟨rest, hrest⟩
        have hspace := hhead rfl ' ' (by rw [← hrest]; rfl)
        exact absurd hspace (by decide)
    · rw [Bool.not_eq_true] at hd
      have hne : ' ' ≠ d := by
        rintro rfl
        exact absurd hd (by decide)
      rw [squeezeFrom_of_not_isBlank hd, infix_cons_of_ne hne]
      exact ⟨ih.1, fun _ c hc => Option.some.inj hc ▸ hd⟩

theorem isSqueezed_squeeze (cs : List Char) : IsSqueezed (squeeze cs) := by
  refine ⟨fun c hc hblank => ?_, squeezeFrom_apart.1⟩
  rcases mem_squeezeFrom hc with hspace | ⟨-, hother⟩
  · exact hspace
  · rw [hblank] at hother
    cases hother

theorem squeezeFrom_of_isSqueezed (h : IsSqueezed cs)
    (hrun : inRun = true → ∀ c ∈ cs.head?, isBlank c = false) :
    squeezeFrom inRun cs = cs := by
  induction cs generalizing inRun with
  | nil => rfl
  | cons d cs ih =>
    have hrest : IsSqueezed cs := by
      refine ⟨fun c hc => h.space c (List.mem_cons_of_mem _ hc), fun hin => h.apart ?_⟩
      exact List.infix_cons_iff.2 (.inr hin)
    by_cases hd : isBlank d = true
    · obtain rfl : d = ' ' := h.space d List.mem_cons_self hd
      have hfirst : inRun = false := by
        cases inRun with
        | false => rfl
        | true => exact absurd (hrun rfl ' ' rfl) (by decide)
      rw [squeezeFrom_of_isBlank hd, hfirst, ih hrest]
      · rfl
      · intro _ c hc
        by_contra hblank
        rw [Bool.not_eq_false] at hblank
        obtain rfl : c = ' ' := hrest.space c (List.mem_of_mem_head? hc) hblank
        refine h.apart (List.infix_cons_iff.2 (.inl (List.cons_prefix_cons.2 ⟨rfl, ?_⟩)))
        obtain ⟨rest, rfl⟩ := List.head?_eq_some_iff.1 hc
        exact List.cons_prefix_cons.2 ⟨rfl, List.nil_prefix⟩
    · rw [Bool.not_eq_true] at hd
      rw [squeezeFrom_of_not_isBlank hd, ih hrest (by simp)]

/-- The last character stays if it is no blank. -/
theorem getLast?_squeezeFrom (h : ∀ c ∈ cs.getLast?, isBlank c = false) :
    (squeezeFrom inRun cs).getLast? = cs.getLast? := by
  induction cs generalizing inRun with
  | nil => rfl
  | cons d cs ih =>
    cases cs with
    | nil => rw [squeezeFrom_of_not_isBlank (h d rfl), squeezeFrom]
    | cons e cs =>
      rw [List.getLast?_cons_cons] at h ⊢
      have hfront : ∀ (front : List Char) (r : Bool),
          (front ++ squeezeFrom r (e :: cs)).getLast? = (e :: cs).getLast? := by
        intro front r
        rw [List.getLast?_append, ih h, List.getLast?_eq_some_getLast (List.cons_ne_nil e cs)]
        rfl
      by_cases hd : isBlank d = true
      · rw [squeezeFrom_of_isBlank hd]
        exact hfront _ true
      · rw [squeezeFrom_of_not_isBlank (by simpa using hd)]
        exact hfront [d] false

theorem isTrim_squeeze (h : IsTrim cs) : IsTrim (squeeze cs) := by
  constructor
  · cases cs with
    | nil => simp [squeeze, squeezeFrom]
    | cons c cs =>
      rw [squeeze, squeezeFrom_of_not_isBlank (h.head c rfl)]
      exact h.head
  · rw [squeeze, getLast?_squeezeFrom h.last]
    exact h.last

end SourceSurvey.Text

namespace SourceSurvey

open Text

/-! ## The normal form of a line -/

/-- What a line is after it has been brought into its normal form. -/
structure IsNormal (cs : List Char) : Prop extends IsTrim cs, IsSqueezed cs where
  settled : ∀ c ∈ cs, IsSettled c

theorem isNormal_normalLine (line : List Char) : IsNormal (normalLine line) := by
  have htrim : IsTrim (normalLine line) := isTrim_squeeze (isTrim_lower (isTrim_trim line))
  refine ⟨htrim, isSqueezed_squeeze _, fun c hc => ?_⟩
  rcases mem_squeezeFrom hc with rfl | ⟨hmem, -⟩
  · exact ⟨by decide, by decide, by decide⟩
  · exact isSettled_of_mem_lowerAfter hmem

theorem normalLine_of_isNormal {line : List Char} (h : IsNormal line) : normalLine line = line := by
  have hlower : lower line = line := lowerAfter_of_isSettled h.settled
  rw [normalLine, trim_of_isTrim h.toIsTrim, hlower]
  exact squeezeFrom_of_isSqueezed h.toIsSqueezed (by simp)

@[simp] theorem normalLine_normalLine (line : List Char) :
    normalLine (normalLine line) = normalLine line :=
  normalLine_of_isNormal (isNormal_normalLine line)

example : normalLine "\u3000ΟΔΟΣ\t İ ".toList = "οδος i\u0307".toList := by decide

end SourceSurvey
