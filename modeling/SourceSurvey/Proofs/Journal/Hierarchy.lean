import Mathlib.Tactic
import SourceSurvey.Journal

/-!
# The hierarchy of loggers

The loggers above one are looked for at the points of its name (`above_append`), and records are
handed on from each to the next that is there.  `Heard` says that they come to the program's own
logger.

What stands above a name that begins with the program's own begins with it too and goes on in the
same way (`cut_above`).  So a name that goes on with a point and then with something else than a
point is heard, whatever other loggers there are (`heard_of_below`), and one that goes on with
something else than a point is not (`not_heard_of_ne`).  With two points it depends on the other
loggers (`heard_of_all`, `not_heard_of_all`).

* `Under`: the loggers below the program's own, by the parts of their names.
-/

namespace SourceSurvey

open Text (CodePoint Wide)

theorem point_not_mem_rootLogger : point ∉ rootLogger := by decide

namespace Logger

variable {name up front rest tail : Wide} {loggers : List Wide} {c : CodePoint}

/-! ## What is above a name -/

theorem stems_cons_of_ne (h : c ≠ point) (name : Wide) : stems (c :: name) = stems name := by
  cases name with
  | nil => rfl
  | cons d rest => rw [stems, if_neg h]

theorem stems_of_not_mem (h : point ∉ name) : stems name = [] := by
  induction name with
  | nil => rfl
  | cons c name ih =>
    obtain ⟨hc, hname⟩ := not_or.1 (List.mem_cons.not.1 h)
    rw [stems_cons_of_ne (Ne.symm hc), ih hname]

theorem stems_append (htail : point ∉ tail) (hfront : front ≠ []) :
    stems (tail ++ point :: front) = front :: stems front.tail := by
  induction tail with
  | nil =>
    obtain ⟨d, rest, rfl⟩ := List.exists_cons_of_ne_nil hfront
    exact if_pos rfl
  | cons c tail ih =>
    obtain ⟨hc, htail⟩ := not_or.1 (List.mem_cons.not.1 htail)
    rw [List.cons_append, stems_cons_of_ne (Ne.symm hc), ih htail]

theorem mem_stems {stem : Wide} (h : stem ∈ stems name) : ∃ tail, name = tail ++ point :: stem := by
  induction name using stems.induct with
  | case1 => cases h
  | case2 c => cases h
  | case3 d rest ih =>
    rw [stems, if_pos rfl] at h
    rcases List.mem_cons.1 h with rfl | h
    · exact ⟨[], rfl⟩
    · obtain ⟨tail, rfl⟩ := ih h
      exact ⟨point :: d :: tail, rfl⟩
  | case4 c d rest hc ih =>
    rw [stems, if_neg hc] at h
    obtain ⟨tail, htail⟩ := ih h
    exact ⟨c :: tail, by rw [htail, List.cons_append]⟩

theorem above_of_not_mem (h : point ∉ name) : above name = [] := by
  rw [above, stems_of_not_mem (by simpa using h), List.map_nil]

/-- **What is above a name**: what stands before its last point, and then what is above that without
its own last code point. -/
theorem above_append (htail : point ∉ tail) (hfront : front ≠ []) :
    above (front ++ point :: tail) = front :: above front.dropLast := by
  have hreverse : (front ++ point :: tail).reverse = tail.reverse ++ point :: front.reverse := by
    simp
  rw [above, hreverse, stems_append (by simpa using htail) (by simpa using hfront), List.map_cons,
    List.reverse_reverse, List.tail_reverse, above]

theorem mem_above (h : up ∈ above name) : ∃ tail, name = up ++ point :: tail := by
  obtain ⟨stem, hstem, rfl⟩ := List.mem_map.1 h
  obtain ⟨tail, htail⟩ := mem_stems hstem
  exact ⟨tail.reverse, by simpa using congrArg List.reverse htail⟩

theorem exists_last_point (h : point ∈ name) :
    ∃ front tail, name = front ++ point :: tail ∧ point ∉ tail := by
  obtain ⟨tail, front, hname, htail⟩ := List.eq_append_cons_of_mem (List.mem_reverse.2 h)
  exact ⟨front.reverse, tail.reverse, by simpa using congrArg List.reverse hname,
    by simpa using htail⟩

/-! ## Parents -/

theorem mem_above_of_parent? (h : parent? loggers name = some up) : up ∈ above name :=
  List.mem_of_find?_eq_some h

/-- The nearest name above is the parent if there is such a logger. -/
theorem parent?_append (htail : point ∉ tail) (hfront : front ≠ [])
    (hthere : front = rootLogger ∨ front ∈ loggers) :
    parent? loggers (front ++ point :: tail) = some front := by
  rw [parent?, above_append htail hfront]
  exact List.find?_cons_of_pos (by simpa using hthere)

/-- Otherwise the search goes on above it. -/
theorem parent?_append_of_not (htail : point ∉ tail) (hfront : front ≠ [])
    (hroot : front ≠ rootLogger) (hnot : front ∉ loggers) :
    parent? loggers (front ++ point :: tail) = parent? loggers front.dropLast := by
  rw [parent?, above_append htail hfront, parent?]
  exact List.find?_cons_of_neg (by simp [hroot, hnot])

/-! ## Who is heard -/

/-- The records of a logger come to the program's own. -/
inductive Heard (loggers : List Wide) : Wide → Prop where
  | root : Heard loggers rootLogger
  | child {name up : Wide} (hparent : parent? loggers name = some up) (h : Heard loggers up) :
    Heard loggers name

@[simp] theorem isHeard_iff : isHeard loggers name = true ↔ Heard loggers name := by
  constructor
  · intro h
    fun_induction isHeard loggers name with
    | case1 => exact .root
    | case2 => cases h
    | case3 name hroot up hparent ih => exact .child hparent (ih h)
  · intro h
    induction h with
    | root =>
      rw [isHeard]
      exact if_pos rfl
    | @child name up hparent h ih =>
      rw [isHeard]
      split_ifs
      · rfl
      · split
        · rename_i hnone
          cases hnone.symm.trans hparent
        · rename_i found hfound
          obtain rfl := Option.some.inj (hfound.symm.trans hparent)
          exact ih

/-- A logger itself does not count among those above it. -/
theorem heard_cons_iff (h : up.length ≤ name.length) :
    Heard (name :: loggers) up ↔ Heard loggers up := by
  have hparent {up : Wide} (h : up.length ≤ name.length) :
      parent? (name :: loggers) up = parent? loggers up := by
    refine List.find?_congr fun other hother => ?_
    obtain ⟨tail, rfl⟩ := mem_above hother
    have hne : other ≠ name := by
      rintro rfl
      simp at h
    simp [hne]
  constructor
  · intro hheard
    induction hheard with
    | root => exact .root
    | child hup _ ih =>
      rw [hparent h] at hup
      exact .child hup (ih ((length_lt_of_parent? hup).le.trans h))
  · intro hheard
    induction hheard with
    | root => exact .root
    | child hup _ ih =>
      rw [← hparent h] at hup
      exact .child hup (ih ((length_lt_of_parent? hup).le.trans h))

/-! ## Below the program's own logger -/

/-- What stands above a name that begins with the program's own is that, or begins with it and goes
on in the same way. -/
theorem cut_above (h : rootLogger ++ c :: rest = up ++ point :: tail) :
    up = rootLogger ∧ c = point ∨
      ∃ more, up = rootLogger ++ c :: more ∧ rest = more ++ point :: tail := by
  rcases List.append_eq_append_iff.1 h with ⟨more, rfl, hmore⟩ | ⟨more, hroot, hmore⟩
  · cases more with
    | nil => exact .inl ⟨List.append_nil _, (List.cons.inj hmore).1⟩
    | cons d more =>
      obtain ⟨rfl, hrest⟩ := List.cons.inj hmore
      exact .inr ⟨more, rfl, hrest⟩
  · cases more with
    | nil => exact .inl ⟨by simpa using hroot.symm, (List.cons.inj hmore).1.symm⟩
    | cons d more =>
      obtain ⟨rfl, -⟩ := List.cons.inj hmore
      have hmem : point ∈ rootLogger := by simp [hroot]
      exact absurd hmem point_not_mem_rootLogger

theorem rootLogger_ne_append (c : CodePoint) (rest : Wide) :
    rootLogger ++ c :: rest ≠ rootLogger := by
  simp

/-- A name that goes on with something else than a point is not heard. -/
theorem not_heard_of_ne (hc : c ≠ point) : ¬ Heard loggers (rootLogger ++ c :: rest) := by
  intro h
  generalize hname : rootLogger ++ c :: rest = name at h
  induction h generalizing rest with
  | root => exact rootLogger_ne_append c rest hname
  | child hparent _ ih =>
    obtain ⟨tail, htail⟩ := mem_above (mem_above_of_parent? hparent)
    rcases cut_above (hname.trans htail) with ⟨-, hpoint⟩ | ⟨more, hup, -⟩
    · exact hc hpoint
    · exact ih hup.symm

theorem rootLogger_mem_above (h : rest.head? ≠ some point) :
    rootLogger ∈ above (rootLogger ++ point :: rest) := by
  induction hn : rest.length using Nat.strong_induction_on generalizing rest with
  | _ n ih =>
    by_cases hpoint : point ∈ rest
    · obtain ⟨front, tail, rfl, htail⟩ := exists_last_point hpoint
      have hfront : front ≠ [] := by
        rintro rfl
        exact h rfl
      have hname : rootLogger ++ point :: (front ++ point :: tail) =
          (rootLogger ++ point :: front) ++ point :: tail := by simp
      have hdrop : (rootLogger ++ point :: front).dropLast =
          rootLogger ++ point :: front.dropLast := by
        rw [List.dropLast_append_of_ne_nil (List.cons_ne_nil _ _),
          List.dropLast_cons_of_ne_nil hfront]
      have hhead : front.dropLast.head? ≠ some point := by
        intro hhead
        have hsome : front.head? = some point := by
          rw [← List.dropLast_append_getLast hfront, List.head?_append, hhead]
          rfl
        rw [List.head?_append, hsome] at h
        exact h rfl
      rw [hname, above_append htail (by simp), hdrop]
      refine List.mem_cons_of_mem _ (ih front.dropLast.length ?_ hhead rfl)
      simp only [← hn, List.length_append, List.length_cons, List.length_dropLast]
      omega
    · rw [above_append hpoint (by decide)]
      exact List.mem_cons_self

/-- **A name that goes on with a point, and then not with another, is heard.** -/
theorem heard_of_below (h : rest.head? ≠ some point) :
    Heard loggers (rootLogger ++ point :: rest) := by
  induction hn : rest.length using Nat.strong_induction_on generalizing rest with
  | _ n ih =>
    obtain ⟨up, hparent⟩ : ∃ up, parent? loggers (rootLogger ++ point :: rest) = some up :=
      Option.isSome_iff_exists.1 (List.find?_isSome.2 ⟨_, rootLogger_mem_above h, by simp⟩)
    obtain ⟨tail, htail⟩ := mem_above (mem_above_of_parent? hparent)
    refine .child hparent ?_
    rcases cut_above htail with ⟨rfl, -⟩ | ⟨more, rfl, rfl⟩
    · exact .root
    · refine ih more.length (by simp [← hn]) ?_ rfl
      intro hmore
      rw [List.head?_append, hmore] at h
      exact h rfl

/-- With loggers at all the names before its points, a name that goes on with a point is heard. -/
theorem heard_of_all
    (hall : ∀ front tail, rest = front ++ point :: tail → rootLogger ++ point :: front ∈ loggers) :
    Heard loggers (rootLogger ++ point :: rest) := by
  induction hn : rest.length using Nat.strong_induction_on generalizing rest with
  | _ n ih =>
    by_cases hpoint : point ∈ rest
    · obtain ⟨front, tail, rfl, htail⟩ := exists_last_point hpoint
      have hparent := parent?_append htail (by simp) (.inr (hall front tail rfl))
      rw [List.append_assoc, List.cons_append] at hparent
      refine .child hparent (ih front.length (by simp [← hn]) (fun other more hmore => ?_) rfl)
      exact hall other (more ++ point :: tail) (by simp [hmore])
    · exact .child (parent?_append hpoint (by decide) (.inl rfl)) .root

/-- With two points, and loggers at all the names before its later points but none at the one with a
single point, a name is not heard. -/
theorem not_heard_of_all
    (hall : ∀ front tail, rest = front ++ point :: tail →
      rootLogger ++ point :: point :: front ∈ loggers)
    (hnot : rootLogger ++ [point] ∉ loggers) :
    ¬ Heard loggers (rootLogger ++ point :: point :: rest) := by
  induction hn : rest.length using Nat.strong_induction_on generalizing rest with
  | _ n ih =>
    intro h
    generalize hname : rootLogger ++ point :: point :: rest = name at h
    cases h with
    | root => exact rootLogger_ne_append _ _ hname
    | child hparent h =>
      subst hname
      by_cases hpoint : point ∈ rest
      · obtain ⟨front, tail, rfl, htail⟩ := exists_last_point hpoint
        have hnearest := parent?_append htail (by simp) (.inr (hall front tail rfl))
        rw [List.append_assoc, List.cons_append, List.cons_append, hparent] at hnearest
        obtain rfl := Option.some.inj hnearest
        refine ih front.length (by simp [← hn]) (fun other more hmore => ?_) rfl h
        exact hall other (more ++ point :: tail) (by simp [hmore])
      · have hnone : parent? loggers rootLogger = none := by
          rw [parent?, above_of_not_mem point_not_mem_rootLogger, List.find?_nil]
        have hnext := parent?_append_of_not hpoint (by simp) (rootLogger_ne_append _ _) hnot
        rw [List.append_assoc, List.singleton_append, List.dropLast_concat, hnone, hparent] at hnext
        cases hnext

end Logger

/-- The program's own logger and those below it: the name of a child is that of its parent, a point,
and a part without points. -/
inductive Under : Wide → Prop where
  | root : Under rootLogger
  | child {parent part : Wide} (h : Under parent) (hne : part ≠ []) (hpart : point ∉ part) :
    Under (parent ++ point :: part)

theorem Under.head {name : Wide} (h : Under name) :
    name = rootLogger ∨ ∃ rest, name = rootLogger ++ point :: rest ∧ rest ≠ [] ∧
      rest.head? ≠ some point := by
  induction h with
  | root => exact .inl rfl
  | @child parent part h hne hpart ih =>
    right
    rcases ih with rfl | ⟨rest, rfl, hrest, hhead⟩
    · exact ⟨part, rfl, hne, fun hhead => hpart (List.mem_of_mem_head? hhead)⟩
    · refine ⟨rest ++ point :: part, by simp, by simp, ?_⟩
      rwa [List.head?_append_of_ne_nil _ hrest]

/-- **The loggers below the program's own are heard**, whatever other loggers there are. -/
theorem Under.heard {name : Wide} (h : Under name)
    (loggers : List Wide) : Logger.Heard loggers name := by
  rcases h.head with rfl | ⟨rest, rfl, -, hhead⟩
  · exact .root
  · exact Logger.heard_of_below hhead

end SourceSurvey
