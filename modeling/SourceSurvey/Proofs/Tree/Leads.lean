import SourceSurvey.Proofs.Tree.Place

/-!
# Ways through links

`Leads top k here names place` says that names lead from one place of a tree to another through `k`
links, as rules: what each name does where it is met.  A walk with a number of links to spare finds
just these places (`walk_eq_ok_iff`).  So a way can be cut behind any of its names (`Leads.split`),
which is not seen from the walk itself, where the names that a link stands for come before those
that are left.
-/

namespace SourceSurvey.Tree

/-- A name that is looked up in a directory. -/
structure Sought (name : String) : Prop where
  ne_here : name ≠ "."
  ne_up : name ≠ ".."
  size : name.utf8ByteSize ≤ nameLimit

/-- Names lead from a place to another through a number of links. -/
inductive Leads (top : Node) : ℕ → Place → List String → Place → Prop where
  | done (here : Place) : Leads top 0 here [] here
  | stay {k : ℕ} {here place : Place} {rest : List String} {entries : List (String × Node)}
    (hhere : top.at? here = some (.directory entries)) (h : Leads top k here rest place) :
    Leads top k here ("." :: rest) place
  | up {k : ℕ} {here place : Place} {rest : List String} {entries : List (String × Node)}
    (hhere : top.at? here = some (.directory entries)) (h : Leads top k here.dropLast rest place) :
    Leads top k here (".." :: rest) place
  | step {k : ℕ} {here place : Place} {name : String} {rest : List String}
    {entries : List (String × Node)}
    {node : Node} (hhere : top.at? here = some (.directory entries)) (hname : Sought name)
    (hentry : entries.lookup name = some node) (hnode : node.isLink = false)
    (h : Leads top k (here ++ [name]) rest place) : Leads top k here (name :: rest) place
  | link {k : ℕ} {here place : Place} {name target : String} {rest : List String}
    {entries : List (String × Node)} (hhere : top.at? here = some (.directory entries))
    (hname : Sought name)
    (hentry : entries.lookup name = some (.link target))
    (h : Leads top k (linkStart here (Route.ofText target)) (targetNames target ++ rest) place) :
    Leads top (k + 1) here (name :: rest) place

variable {top : Node}

/-! ## Walks as rules -/

theorem leads_of_walkWith {onLink : Place → List String → Except Obstacle Place} {links : ℕ}
    (honLink : ∀ {here names place}, onLink here names = .ok place →
      ∃ k < links, Leads top k here names place)
    {here place : Place} {names : List String}
    (h : walkWith top true onLink here names = .ok place) :
    ∃ k ≤ links, Leads top k here names place := by
  induction names generalizing here with
  | nil =>
    obtain rfl := Except.ok.inj h
    exact ⟨0, Nat.zero_le links, .done here⟩
  | cons name rest ih =>
    rw [walkWith] at h
    cases hhere : top.at? here with
    | none =>
      rw [hhere] at h
      cases h
    | some node =>
      rw [hhere] at h
      cases node with
      | file data => cases h
      | link target => cases h
      | directory entries =>
        simp only [Bool.not_true, Bool.and_false, Bool.false_eq_true, if_false] at h
        split_ifs at h with hlong hdot hup
        · obtain ⟨k, hk, hrest⟩ := ih h
          exact ⟨k, hk, hdot ▸ .stay hhere hrest⟩
        · obtain ⟨k, hk, hrest⟩ := ih h
          exact ⟨k, hk, hup ▸ .up hhere hrest⟩
        · have hname : Sought name := ⟨hdot, hup, not_lt.1 hlong⟩
          cases hentry : entries.lookup name with
          | none =>
            rw [hentry] at h
            cases h
          | some inner =>
            rw [hentry] at h
            cases inner with
            | file data =>
              obtain ⟨k, hk, hrest⟩ := ih h
              exact ⟨k, hk, .step hhere hname hentry rfl hrest⟩
            | directory inner =>
              obtain ⟨k, hk, hrest⟩ := ih h
              exact ⟨k, hk, .step hhere hname hentry rfl hrest⟩
            | link target =>
              obtain ⟨k, hk, hrest⟩ := honLink h
              exact ⟨k + 1, hk, .link hhere hname hentry hrest⟩

theorem leads_of_walk {links : ℕ} {here place : Place} {names : List String}
    (h : walk top true links here names = .ok place) :
    ∃ k ≤ links, Leads top k here names place := by
  induction links generalizing here names place with
  | zero => exact leads_of_walkWith (fun hlink => by cases hlink) h
  | succ links ih =>
    refine leads_of_walkWith (fun hlink => ?_) h
    obtain ⟨k, hk, hleads⟩ := ih hlink
    exact ⟨k, Nat.lt_succ_of_le hk, hleads⟩

theorem Leads.walkWith {onLink : Place → List String → Except Obstacle Place} {k : ℕ}
    (honLink : ∀ {j here names place}, j < k → Leads top j here names place →
      onLink here names = .ok place)
    {here place : Place} {names : List String} (h : Leads top k here names place) :
    walkWith top true onLink here names = .ok place := by
  induction h with
  | done here => rfl
  | stay hhere h ih =>
    rw [Tree.walkWith, hhere]
    exact ih honLink
  | up hhere h ih =>
    rw [Tree.walkWith, hhere]
    exact ih honLink
  | step hhere hname hentry hnode h ih =>
    rename_i node
    rw [Tree.walkWith, hhere]
    dsimp only
    rw [if_neg (Nat.not_lt.2 hname.size), if_neg hname.ne_here, if_neg hname.ne_up, hentry]
    cases node with
    | file data => exact ih honLink
    | directory entries => exact ih honLink
    | link target => cases hnode
  | link hhere hname hentry h ih =>
    rw [Tree.walkWith, hhere]
    dsimp only
    rw [if_neg (Nat.not_lt.2 hname.size), if_neg hname.ne_here, if_neg hname.ne_up, hentry]
    simp only [Bool.not_true, Bool.and_false, Bool.false_eq_true, if_false]
    exact honLink (Nat.lt_succ_self _) h

theorem Leads.walk {k links : ℕ} {here place : Place} {names : List String}
    (h : Leads top k here names place) (hlinks : k ≤ links) :
    walk top true links here names = .ok place := by
  induction links generalizing k here names place with
  | zero => exact h.walkWith fun hj _ => absurd (hj.trans_le hlinks) (Nat.not_lt_zero _)
  | succ links ih => exact h.walkWith fun hj hleads => ih hleads (by omega)

/-- A walk finds the places that names lead to through no more links than it has to spare. -/
theorem walk_eq_ok_iff {links : ℕ} {here place : Place} {names : List String} :
    Tree.walk top true links here names = .ok place ↔ ∃ k ≤ links, Leads top k here names place :=
  ⟨leads_of_walk, fun ⟨_, hk, h⟩ => h.walk hk⟩

/-! ## Parts of ways -/

namespace Leads

variable {i j k : ℕ} {here mid place : Place} {names more : List String}

/-- A way along names and more names goes over the place that the first names lead to. -/
theorem split (h : Leads top k here (names ++ more) place) :
    ∃ i j mid, i + j = k ∧ Leads top i here names mid ∧ Leads top j mid more place := by
  generalize hall : names ++ more = all at h
  -- at the end of the first names the way that is left is the second part
  have hcut {k : ℕ} {here place : Place} {all : List String}
      (hall : [] ++ more = all) (h : Leads top k here all place) :
      ∃ i j mid, i + j = k ∧ Leads top i here [] mid ∧ Leads top j mid more place :=
    ⟨0, k, here, Nat.zero_add k, .done here, ((List.nil_append more).symm.trans hall) ▸ h⟩
  induction h generalizing names with
  | done here =>
    obtain ⟨rfl, rfl⟩ := List.append_eq_nil_iff.1 hall
    exact ⟨0, 0, here, rfl, .done here, .done here⟩
  | stay hhere h ih =>
    cases names with
    | nil => exact hcut hall (.stay hhere h)
    | cons name names =>
      obtain ⟨rfl, hrest⟩ := List.cons.inj hall
      obtain ⟨i, j, mid, hk, hnames, hmore⟩ := ih hrest
      exact ⟨i, j, mid, hk, .stay hhere hnames, hmore⟩
  | up hhere h ih =>
    cases names with
    | nil => exact hcut hall (.up hhere h)
    | cons name names =>
      obtain ⟨rfl, hrest⟩ := List.cons.inj hall
      obtain ⟨i, j, mid, hk, hnames, hmore⟩ := ih hrest
      exact ⟨i, j, mid, hk, .up hhere hnames, hmore⟩
  | step hhere hname hentry hnode h ih =>
    cases names with
    | nil => exact hcut hall (.step hhere hname hentry hnode h)
    | cons name names =>
      obtain ⟨rfl, hrest⟩ := List.cons.inj hall
      obtain ⟨i, j, mid, hk, hnames, hmore⟩ := ih hrest
      exact ⟨i, j, mid, hk, .step hhere hname hentry hnode hnames, hmore⟩
  | @link k here place name target rest entries hhere hname hentry h ih =>
    cases names with
    | nil => exact hcut hall (.link hhere hname hentry h)
    | cons name names =>
      obtain ⟨rfl, hrest⟩ := List.cons.inj hall
      have htarget : (targetNames target ++ names) ++ more = targetNames target ++ rest :=
        (List.append_assoc _ _ _).trans (congrArg _ hrest)
      obtain ⟨i, j, mid, hk, hnames, hmore⟩ := ih htarget
      exact ⟨i + 1, j, mid, by omega, .link hhere hname hentry hnames, hmore⟩

theorem unique {place' : Place} (h : Leads top i here names place)
    (h' : Leads top j here names place') :
    place = place' :=
  Except.ok.inj ((h.walk (le_max_left i j)).symm.trans (h'.walk (le_max_right i j)))

/-- Names that lead through directories lead to their place without links. -/
theorem of_at? {node inner : Node} (hhere : top.at? here = some node)
    (hnames : ∀ name ∈ names, Proper name) (hat : node.at? names = some inner)
    (hlast : inner.isLink = false) : Leads top 0 here names (here ++ names) := by
  obtain ⟨k, hk, h⟩ := leads_of_walk (walk_of_at? hhere hnames hat (fun _ => hlast) 0)
  exact Nat.le_zero.1 hk ▸ h

/-- A way along proper names goes straight on, or over a link that is met after some of them. -/
theorem direct_or_link (h : Leads top k here names place) (hnames : ∀ name ∈ names, Proper name) :
    place = here ++ names ∨ ∃ before name target,
      before ++ [name] <+: names ∧ top.at? (here ++ before ++ [name]) = some (.link target) := by
  induction h with
  | done here => exact .inl (List.append_nil here).symm
  | stay hhere h ih => exact absurd rfl (hnames "." List.mem_cons_self).ne_here
  | up hhere h ih => exact absurd rfl (hnames ".." List.mem_cons_self).ne_up
  | @step k here place name rest entries node hhere hname hentry hnode h ih =>
    rcases ih fun part hpart => hnames part (List.mem_cons_of_mem _ hpart) with
      rfl | ⟨before, last, target, hbefore, hlink⟩
    · exact .inl (List.append_assoc here [name] rest)
    · refine .inr ⟨name :: before, last, target, List.cons_prefix_cons.2 ⟨rfl, hbefore⟩, ?_⟩
      rwa [List.append_assoc here [name] before] at hlink
  | @link k here place name target rest entries hhere hname hentry h ih =>
    refine .inr ⟨[], name, target, ⟨rest, rfl⟩, ?_⟩
    rw [List.append_nil, Node.at?_append, hhere, Option.bind_some, Node.at?_cons hentry]
    rfl

end Leads

end SourceSurvey.Tree
