import Mathlib.Tactic
import SourceSurvey.Span.Block

/-!
# Where a block closes

A block closes at the end of a text that has an opening brace in it, as many closing ones, and a
closing one in the end (`IsBlock`).  The scan finds the shortest such text in front
(`closing_eq_some_iff`).  So more characters behind a text do not move the end of a block that
closes in it, and when none does, the scan goes on beyond it (`closing_append`,
`lt_of_closing_append`).
-/

namespace SourceSurvey.Span

/-- A text at the end of which a block closes. -/
structure IsBlock (cs : List Char) : Prop where
  opened : '\x7b' ∈ cs
  balanced : cs.count '\x7b' = cs.count '\x7d'
  last : cs.getLast? = some '\x7d'

/-- A text at the end of which a block closes that may have begun before: it is read on from a
depth, and an opening brace may have been met. -/
structure Ends (depth : ℤ) (opened : Bool) (cs : List Char) : Prop where
  opened : opened = true ∨ '\x7b' ∈ cs
  balanced : depth + cs.count '\x7b' = cs.count '\x7d'
  last : cs.getLast? = some '\x7d'

theorem ends_zero {cs : List Char} : Ends 0 false cs ↔ IsBlock cs := by
  constructor
  · rintro ⟨hopened, hbalanced, hlast⟩
    exact ⟨by simpa using hopened, by omega, hlast⟩
  · rintro ⟨hopened, hbalanced, hlast⟩
    exact ⟨.inr hopened, by omega, hlast⟩

variable {depth : ℤ} {opened : Bool} {c : Char} {cs u v : List Char} {k : ℕ}

theorem not_ends_nil : ¬ Ends depth opened [] := fun h => by simpa using h.last

/-! ## One character -/

/-- By how much a character changes the depth. -/
def weight (c : Char) : ℤ := if c = '\x7b' then 1 else if c = '\x7d' then -1 else 0

theorem closing_cons : closing depth opened (c :: cs) =
    if c = '\x7d' ∧ opened = true ∧ depth = 1 then some 1
    else (closing (depth + weight c) (opened || c == '\x7b') cs).map (· + 1) := by
  rw [closing]
  by_cases hopen : c = '\x7b'
  · simp [hopen, weight]
  · by_cases hclose : c = '\x7d'
    · simp [hclose, weight, sub_eq_zero, ← sub_eq_add_neg]
    · have hother : (c == '\x7b') = false := by simpa using hopen
      simp [hopen, hclose, weight, hother]

theorem count_cons_sub (c : Char) (cs : List Char) :
    ((c :: cs).count '\x7b' : ℤ) - (c :: cs).count '\x7d' =
    weight c + (cs.count '\x7b' - cs.count '\x7d') := by
  by_cases hopen : c = '\x7b'
  · simp [hopen, weight]
    omega
  · by_cases hclose : c = '\x7d'
    · simp [hclose, weight]
      omega
    · simp [hopen, hclose, weight]

theorem ends_cons : Ends depth opened (c :: cs) ↔
    (cs = [] ∧ c = '\x7d' ∧ opened = true ∧ depth = 1) ∨
    Ends (depth + weight c) (opened || c == '\x7b') cs := by
  by_cases hnil : cs = []
  · subst hnil
    simp only [not_ends_nil, or_false, true_and]
    constructor
    · rintro ⟨hopened, hbalanced, hlast⟩
      obtain rfl : c = '\x7d' := by simpa using hlast
      refine ⟨rfl, by simpa using hopened, ?_⟩
      simp at hbalanced
      omega
    · rintro ⟨rfl, rfl, rfl⟩
      exact ⟨.inl rfl, by decide, rfl⟩
  · have hlast : (c :: cs).getLast? = cs.getLast? := List.getLast?_cons_of_ne_nil hnil
    have hcount := count_cons_sub c cs
    have hmet : (opened = true ∨ '\x7b' ∈ c :: cs) ↔
        ((opened || c == '\x7b') = true ∨ '\x7b' ∈ cs) := by
      rw [List.mem_cons, Bool.or_eq_true, beq_iff_eq, or_assoc, @eq_comm _ c]
    simp only [hnil, false_and, false_or]
    constructor
    · rintro ⟨hopened, hbalanced, hclosed⟩
      exact ⟨hmet.1 hopened, by omega, hlast ▸ hclosed⟩
    · rintro ⟨hopened, hbalanced, hclosed⟩
      exact ⟨hmet.2 hopened, by omega, hlast.trans hclosed⟩

/-! ## The whole text -/

/-- **The scan finds the shortest text in front at the end of which a block closes.** -/
theorem closing_eq_some_iff : closing depth opened cs = some k ↔
    k ≤ cs.length ∧ Ends depth opened (cs.take k) ∧ ∀ j < k, ¬ Ends depth opened (cs.take j) := by
  induction cs generalizing depth opened k with
  | nil => simp [closing, not_ends_nil]
  | cons c cs ih =>
    rw [closing_cons]
    by_cases hclose : c = '\x7d' ∧ opened = true ∧ depth = 1
    · have hone : Ends depth opened ((c :: cs).take 1) := ends_cons.2 (.inl ⟨by simp, hclose⟩)
      rw [if_pos hclose, Option.some.injEq]
      constructor
      · rintro rfl
        refine ⟨by simp, hone, fun j hj => ?_⟩
        obtain rfl : j = 0 := by omega
        exact not_ends_nil
      · rintro ⟨-, hends, hleast⟩
        have hpos : k ≠ 0 := by
          rintro rfl
          exact not_ends_nil hends
        by_contra hne
        exact hleast 1 (by omega) hone
    · have hstep : ∀ n, Ends depth opened ((c :: cs).take (n + 1)) ↔
          Ends (depth + weight c) (opened || c == '\x7b') (cs.take n) := by
        intro n
        rw [List.take_succ_cons, ends_cons]
        exact or_iff_right fun hall => hclose hall.2
      rw [if_neg hclose, Option.map_eq_some_iff]
      constructor
      · rintro ⟨n, hn, rfl⟩
        obtain ⟨hlength, hends, hleast⟩ := ih.1 hn
        refine ⟨by simpa using hlength, (hstep n).2 hends, fun j hj => ?_⟩
        cases j with
        | zero => exact not_ends_nil
        | succ j => exact fun hj' => hleast j (by omega) ((hstep j).1 hj')
      · rintro ⟨hlength, hends, hleast⟩
        cases k with
        | zero => exact absurd hends not_ends_nil
        | succ n =>
          refine ⟨n, ih.2 ⟨by simpa using hlength, (hstep n).1 hends, fun j hj hj' => ?_⟩, rfl⟩
          exact hleast (j + 1) (by omega) ((hstep j).2 hj')

/-- There is no end of a block when none closes at the end of a text in front. -/
theorem closing_eq_none_iff :
    closing depth opened cs = none ↔ ∀ k, ¬ Ends depth opened (cs.take k) := by
  constructor
  · intro hnone k hends
    obtain ⟨n, hn, hleast⟩ :=
      WellFounded.has_min wellFounded_lt {n | Ends depth opened (cs.take n)} ⟨k, hends⟩
    have hlength : n ≤ cs.length := by
      by_contra hlong
      refine hleast cs.length ?_ (by omega)
      rw [Set.mem_ofPred_eq, List.take_of_length_le (by omega)] at hn
      rwa [Set.mem_ofPred_eq, List.take_length]
    rw [closing_eq_some_iff.2 ⟨hlength, hn, fun j hj hj' => hleast j hj' hj⟩] at hnone
    cases hnone
  · intro hends
    cases hclosing : closing depth opened cs with
    | none => rfl
    | some k => exact absurd (closing_eq_some_iff.1 hclosing).2.1 (hends k)

theorem closing_zero_eq_none_iff : closing 0 false cs = none ↔ ∀ p, p <+: cs → ¬ IsBlock p := by
  rw [closing_eq_none_iff]
  constructor
  · intro hends p hp hblock
    rw [List.prefix_iff_eq_take.1 hp] at hblock
    exact hends _ (ends_zero.2 hblock)
  · intro hblock k hends
    exact hblock _ (List.take_prefix k cs) (ends_zero.1 hends)

/-- What follows does not move the end of a block. -/
theorem closing_append (h : closing depth opened u = some k) (v : List Char) :
    closing depth opened (u ++ v) = some k := by
  obtain ⟨hlength, hends, hleast⟩ := closing_eq_some_iff.1 h
  have htake : ∀ j ≤ k, (u ++ v).take j = u.take j :=
    fun j hj => List.take_append_of_le_length (by omega)
  refine closing_eq_some_iff.2 ⟨?_, ?_, fun j hj => ?_⟩
  · rw [List.length_append]
    omega
  · rwa [htake k le_rfl]
  · rw [htake j hj.le]
    exact hleast j hj

/-- A block that does not close in a text closes beyond it. -/
theorem lt_of_closing_append (hnone : closing depth opened u = none)
    (h : closing depth opened (u ++ v) = some k) :
    u.length < k := by
  by_contra hle
  have hends := (closing_eq_some_iff.1 h).2.1
  rw [List.take_append_of_le_length (by omega)] at hends
  exact closing_eq_none_iff.1 hnone k hends

end SourceSurvey.Span
