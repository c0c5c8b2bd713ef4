import Mathlib.Tactic
import SourceSurvey.Trace

/-!
# Outcomes of traced computations

A traced computation is taken apart in two ways.  Its outcome alone is a computation that may fail,
and `outcome_bind` and its companions carry the operations over to it; where the trail matters too,
`bind_of_ok`, `rescue_of_some` and their companions give the whole computation.

* `bind_ok` and its companions, for computations that succeed;
* `mapM_eq_ok`, `mapM_eq_error`, `filterM_eq_ok`, `filterM_eq_error`: runs through a list.
-/

namespace SourceSurvey

/-! ## Computations that may fail -/

section Except

variable {ε α β : Type}

theorem bind_eq_ok {x : Except ε α} {f : α → Except ε β} {b : β} :
    x >>= f = .ok b ↔ ∃ a, x = .ok a ∧ f a = .ok b := by
  cases x <;> simp [bind, Except.bind]

theorem bind_eq_error {x : Except ε α} {f : α → Except ε β} {e : ε} :
    x >>= f = .error e ↔ x = .error e ∨ ∃ a, x = .ok a ∧ f a = .error e := by
  cases x <;> simp [bind, Except.bind]

theorem map_eq_ok {x : Except ε α} {f : α → β} {b : β} :
    x.map f = .ok b ↔ ∃ a, x = .ok a ∧ f a = b := by
  cases x <;> simp [Except.map]

@[simp] theorem toOption_eq_some {x : Except ε α} {a : α} : x.toOption = some a ↔ x = .ok a := by
  cases x <;> simp [Except.toOption]

/-- A run through a list succeeds when it does so at each item. -/
theorem mapM_eq_ok {f : α → Except ε β} {l : List α} {bs : List β} :
    l.mapM f = .ok bs ↔ List.Forall₂ (fun a b => f a = .ok b) l bs := by
  induction l generalizing bs with
  | nil =>
    rw [List.forall₂_nil_left_iff]
    exact ⟨fun h => (Except.ok.inj h).symm, fun h => h ▸ rfl⟩
  | cons a l ih =>
    simp only [List.mapM_cons, bind_eq_ok, ih, List.forall₂_cons_left_iff]
    constructor
    · rintro ⟨b, hb, bs', hbs, h⟩
      exact ⟨b, bs', hb, hbs, (Except.ok.inj h).symm⟩
    · rintro ⟨b, bs', hb, hbs, rfl⟩
      exact ⟨b, hb, bs', hbs, rfl⟩

theorem exists_right_of_mapM {f : α → Except ε β} {l : List α} {bs : List β}
    (h : l.mapM f = .ok bs) {a : α} (ha : a ∈ l) : ∃ b ∈ bs, f a = .ok b := by
  induction mapM_eq_ok.1 h with
  | nil => cases ha
  | cons hb hbs ih =>
    rcases List.mem_cons.1 ha with rfl | ha
    · exact ⟨_, List.mem_cons_self, hb⟩
    · obtain ⟨b, hmem, hb⟩ := ih (mapM_eq_ok.2 hbs) ha
      exact ⟨b, List.mem_cons_of_mem _ hmem, hb⟩

theorem exists_left_of_mapM {f : α → Except ε β} {l : List α} {bs : List β}
    (h : l.mapM f = .ok bs) {b : β} (hb : b ∈ bs) : ∃ a ∈ l, f a = .ok b := by
  induction mapM_eq_ok.1 h with
  | nil => cases hb
  | cons ha has ih =>
    rcases List.mem_cons.1 hb with rfl | hb
    · exact ⟨_, List.mem_cons_self, ha⟩
    · obtain ⟨a, hmem, ha⟩ := ih (mapM_eq_ok.2 has) hb
      exact ⟨a, List.mem_cons_of_mem _ hmem, ha⟩

theorem mapM_eq_ok_map {f : α → Except ε β} {g : α → β} {l : List α}
    (h : ∀ a ∈ l, f a = .ok (g a)) :
    l.mapM f = .ok (l.map g) := by
  rw [mapM_eq_ok, List.forall₂_map_right_iff]
  exact List.forall₂_same.2 h

/-- A run through a list that fails does so at one of its items. -/
theorem mapM_eq_error {f : α → Except ε β} {l : List α} {e : ε} (h : l.mapM f = .error e) :
    ∃ a ∈ l, f a = .error e := by
  induction l with
  | nil => cases h
  | cons a l ih =>
    rw [List.mapM_cons, bind_eq_error] at h
    rcases h with h | ⟨b, -, h⟩
    · exact ⟨a, List.mem_cons_self, h⟩
    · rcases bind_eq_error.1 h with h | ⟨bs, -, h⟩
      · obtain ⟨c, hc, hfail⟩ := ih h
        exact ⟨c, List.mem_cons_of_mem _ hc, hfail⟩
      · cases h

/-- A filter whose test fails does so at an item, with whatever was kept before. -/
theorem filterAuxM_eq_error {p : α → Except ε Bool} {l kept : List α} {e : ε}
    (h : l.filterAuxM p kept = .error e) : ∃ a ∈ l, p a = .error e := by
  induction l generalizing kept with
  | nil => cases h
  | cons a l ih =>
    rw [List.filterAuxM, bind_eq_error] at h
    rcases h with h | ⟨b, -, h⟩
    · exact ⟨a, List.mem_cons_self, h⟩
    · obtain ⟨c, hc, hfail⟩ := ih h
      exact ⟨c, List.mem_cons_of_mem _ hc, hfail⟩

theorem filterM_eq_error {p : α → Except ε Bool} {l : List α} {e : ε} (h : l.filterM p = .error e) :
    ∃ a ∈ l, p a = .error e := by
  rcases bind_eq_error.1 h with h | ⟨kept, -, h⟩
  · exact filterAuxM_eq_error h
  · cases h

theorem exists_ok_of_filterAuxM {p : α → Except ε Bool} {l kept r : List α}
    (h : l.filterAuxM p kept = .ok r) {a : α} (ha : a ∈ l) : ∃ b, p a = .ok b := by
  induction l generalizing kept with
  | nil => cases ha
  | cons c l ih =>
    rw [List.filterAuxM, bind_eq_ok] at h
    obtain ⟨b, hb, h⟩ := h
    rcases List.mem_cons.1 ha with rfl | ha
    · exact ⟨b, hb⟩
    · exact ih h ha

/-- A filter that succeeds has a test that succeeds at each item. -/
theorem exists_ok_of_filterM {p : α → Except ε Bool} {l r : List α} (h : l.filterM p = .ok r)
    {a : α} (ha : a ∈ l) :
    ∃ b, p a = .ok b := by
  obtain ⟨kept, hkept, -⟩ := bind_eq_ok.1 h
  exact exists_ok_of_filterAuxM hkept ha

theorem filterAuxM_eq_ok {p : α → Except ε Bool} {q : α → Bool} {l : List α}
    (h : ∀ a ∈ l, p a = .ok (q a)) (kept : List α) :
    l.filterAuxM p kept = .ok ((l.filter q).reverse ++ kept) := by
  induction l generalizing kept with
  | nil => rfl
  | cons a l ih =>
    rw [List.filterAuxM, h a List.mem_cons_self]
    change l.filterAuxM p (cond (q a) (a :: kept) kept) = _
    rw [ih fun b hb => h b (List.mem_cons_of_mem a hb), List.filter_cons]
    cases q a <;> simp

/-- A filter whose test succeeds everywhere. -/
theorem filterM_eq_ok {p : α → Except ε Bool} {q : α → Bool} {l : List α}
    (h : ∀ a ∈ l, p a = .ok (q a)) :
    l.filterM p = .ok (l.filter q) := by
  refine bind_eq_ok.2 ⟨_, filterAuxM_eq_ok h [], ?_⟩
  simp [Pure.pure, Except.pure]

theorem eq_filter_of_filterM {p : α → Except ε Bool} {l r : List α} (h : l.filterM p = .ok r) :
    r = l.filter fun a => (p a).toOption.getD false := by
  refine Except.ok.inj (h.symm.trans (filterM_eq_ok fun a ha => ?_))
  obtain ⟨b, hb⟩ := exists_ok_of_filterM h ha
  rw [hb]
  rfl

/-- A filter that succeeds keeps the items whose test holds. -/
theorem mem_filterM {p : α → Except ε Bool} {l r : List α} (h : l.filterM p = .ok r) {a : α} :
    a ∈ r ↔ a ∈ l ∧ p a = .ok true := by
  rw [eq_filter_of_filterM h, List.mem_filter]
  refine and_congr_right fun _ => ?_
  cases p a <;> simp [Except.toOption]

end Except

@[simp] theorem orFail_ok {α : Type} {x : Except Misuse α} {a : α} :
    orFail x = .ok a ↔ x = .ok a := by
  cases x <;> simp [orFail]

theorem orFail_error {α : Type} {x : Except Misuse α} {f : Failure} :
    orFail x = .error f ↔ ∃ m, x = .error m ∧ f = .misuse m := by
  cases x <;> simp [orFail, eq_comm]

namespace Traced

variable {α β : Type}

/-! ## Outcomes -/

@[simp] theorem outcome_bind (x : Traced α) (f : α → Traced β) :
    (x >>= f).outcome = x.outcome >>= fun a => (f a).outcome := by
  change (Traced.bind x f).outcome = _
  unfold Traced.bind
  cases x.outcome <;> rfl

theorem outcome_bind_of_ok {x : Traced α} {a : α} (h : x.outcome = .ok a) (f : α → Traced β) :
    (x >>= f).outcome = (f a).outcome := by
  rw [outcome_bind, h]
  rfl

theorem outcome_bind_of_error {x : Traced α} {e : Failure} (h : x.outcome = .error e)
    (f : α → Traced β) :
    (x >>= f).outcome = .error e := by
  rw [outcome_bind, h]
  rfl

@[simp] theorem outcome_liftM (x : Except Failure α) : (liftM x : Traced α).outcome = x := rfl

@[simp] theorem outcome_liftM_misuse (x : Except Misuse α) :
    (liftM x : Traced α).outcome = orFail x := rfl

@[simp] theorem outcome_note_bind (e : Event) (f : Unit → Traced β) :
    (Traced.note e >>= f).outcome = (f ()).outcome := rfl

@[simp] theorem outcome_log_bind (level : Level) (message : String) (f : Unit → Traced β) :
    (Traced.log level message >>= f).outcome = (f ()).outcome := rfl

/-! ## Whole computations -/

theorem bind_of_ok {x : Traced α} {a : α} (h : x.outcome = .ok a) (f : α → Traced β) :
    x >>= f = ⟨x.trail ++ (f a).trail, (f a).outcome⟩ := by
  change Traced.bind x f = _
  rw [Traced.bind, h]

theorem bind_pure (x : Traced α) (f : α → β) :
    (x >>= fun a => Pure.pure (f a)) = ⟨x.trail, x.outcome.map f⟩ := by
  obtain ⟨trail, outcome⟩ := x
  cases outcome with
  | error e => rfl
  | ok a =>
    rw [bind_of_ok rfl]
    exact congrArg (fun t => Traced.mk t _) (List.append_nil trail)

theorem rescue_of_ok {x : Traced α} {a : α} (h : x.outcome = .ok a)
    (handler : Failure → Option (Traced α)) : x.rescue handler = x := by
  rw [rescue, h]

theorem rescue_of_some {x y : Traced α} {e : Failure} {handler : Failure → Option (Traced α)}
    (h : x.outcome = .error e) (hy : handler e = some y) :
    x.rescue handler = ⟨x.trail ++ y.trail, y.outcome⟩ := by
  simp only [rescue, h, hy]

theorem rescue_of_none {x : Traced α} {e : Failure} {handler : Failure → Option (Traced α)}
    (h : x.outcome = .error e) (hnone : handler e = none) : x.rescue handler = x := by
  simp only [rescue, h, hnone]

/-! ## Computations that succeed -/

theorem bind_ok {x : Traced α} {f : α → Traced β} {b : β} :
    (x >>= f).outcome = .ok b ↔ ∃ a, x.outcome = .ok a ∧ (f a).outcome = .ok b := by
  rw [outcome_bind, bind_eq_ok]

@[simp] theorem pure_ok {a b : α} : (Pure.pure a : Traced α).outcome = .ok b ↔ a = b := by
  change Except.ok a = Except.ok b ↔ _
  simp

@[simp] theorem log_bind_ok {level : Level} {message : String} {f : Unit → Traced β} {b : β} :
    (Traced.log level message >>= f).outcome = .ok b ↔ (f ()).outcome = .ok b := by
  rw [outcome_log_bind]

end Traced

end SourceSurvey
