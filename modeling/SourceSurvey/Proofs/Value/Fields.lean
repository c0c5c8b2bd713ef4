import Mathlib.Tactic
import SourceSurvey.Value.Access

/-!
# Fields of objects

The fields of a value that is an object (`fields?`), and what a field holds after others have been
set: `lookup_putField` for a single one, and `lookup_putFields` for a whole list of them, of which
the last under a name counts.  Setting a field names none twice (`nodup_putField`).
-/

namespace SourceSurvey.Value

/-- The fields of an object. -/
def fields? : Value → Option (List (String × Value))
  | .obj fields => some fields
  | _ => none

@[simp] theorem fields?_eq_some {v : Value} {fields : List (String × Value)} :
    v.fields? = some fields ↔ v = .obj fields := by
  cases v <;> simp [fields?]

@[simp] theorem fields?_eq_none {v : Value} : v.fields? = none ↔ v.kind ≠ .obj := by
  cases v with
  | moment m => cases m <;> simp [fields?, kind]
  | _ => simp [fields?, kind]

/-- What is left out of a table under other names does not matter. -/
theorem lookup_filter {α β : Type} [BEq α] [LawfulBEq α] {p : α × β → Bool} {name : α}
    (h : ∀ b, p (name, b) = true) (table : List (α × β)) :
    (table.filter p).lookup name = table.lookup name := by
  induction table with
  | nil => rfl
  | cons entry table ih =>
    obtain ⟨key, b⟩ := entry
    by_cases hp : p (key, b) = true
    · rw [List.filter_cons_of_pos hp, List.lookup_cons, List.lookup_cons, ih]
    · have hname : (name == key) = false := beq_false_of_ne fun heq => hp (heq ▸ h b)
      rw [List.filter_cons_of_neg hp, ih, List.lookup_cons, hname]

theorem mem_of_lookup {fields : List (String × Value)} {name : String} {v : Value}
    (h : fields.lookup name = some v) : (name, v) ∈ fields := by
  obtain ⟨before, after, rfl, -⟩ := List.lookup_eq_some_iff.1 h
  exact List.mem_append_right before List.mem_cons_self

theorem lookup_cons_eq (key name : String) (v : Value) (fields : List (String × Value)) :
    ((key, v) :: fields).lookup name = if name = key then some v else fields.lookup name := by
  rw [List.lookup_cons]
  by_cases h : name = key
  · simp [h]
  · simp [h, beq_false_of_ne h]

@[simp] theorem lookup_putField (key name : String) (v : Value) (fields : List (String × Value)) :
    (putField key v fields).lookup name = if name = key then some v else fields.lookup name := by
  induction fields with
  | nil => exact lookup_cons_eq key name v []
  | cons field fields ih =>
    obtain ⟨k, old⟩ := field
    by_cases hkey : k = key
    · subst hkey
      rw [putField, if_pos rfl, lookup_cons_eq, lookup_cons_eq]
      split_ifs <;> rfl
    · rw [putField, if_neg hkey, lookup_cons_eq, lookup_cons_eq, ih]
      split_ifs with h h' <;> simp_all

theorem mem_names_putField {fields : List (String × Value)} {key name : String} {v : Value} :
    name ∈ (putField key v fields).map Prod.fst ↔ name = key ∨ name ∈ fields.map Prod.fst := by
  induction fields with
  | nil => simp [putField]
  | cons field fields ih =>
    obtain ⟨k, old⟩ := field
    by_cases hk : k = key
    · simp [putField, hk]
    · rw [putField, if_neg hk, List.map_cons, List.mem_cons, ih, List.map_cons, List.mem_cons,
        or_left_comm]

theorem nodup_putField {fields : List (String × Value)} (h : (fields.map Prod.fst).Nodup)
    (key : String) (v : Value) : ((putField key v fields).map Prod.fst).Nodup := by
  induction fields with
  | nil => simp [putField]
  | cons field fields ih =>
    obtain ⟨k, old⟩ := field
    obtain ⟨hk, hfields⟩ := List.nodup_cons.1 h
    by_cases hkey : k = key
    · rw [putField, if_pos hkey]
      exact h
    · rw [putField, if_neg hkey]
      refine List.nodup_cons.2 ⟨?_, ih hfields⟩
      rw [mem_names_putField]
      exact fun hmem => hmem.elim hkey hk

theorem mem_putField {fields : List (String × Value)} {key : String} {v : Value}
    {f : String × Value} (h : f ∈ putField key v fields) : f.2 = v ∨ f ∈ fields := by
  induction fields with
  | nil => exact Or.inl (congrArg Prod.snd (List.mem_singleton.1 h))
  | cons field fields ih =>
    obtain ⟨k, old⟩ := field
    by_cases hkey : k = key
    · rw [putField, if_pos hkey] at h
      rcases List.mem_cons.1 h with rfl | h
      · exact Or.inl rfl
      · exact Or.inr (List.mem_cons_of_mem _ h)
    · rw [putField, if_neg hkey] at h
      rcases List.mem_cons.1 h with rfl | h
      · exact Or.inr List.mem_cons_self
      · exact (ih h).imp_right (List.mem_cons_of_mem _)

/-- Of fields that are added one after the other the last under a name counts. -/
theorem lookup_putFields (fields more : List (String × Value)) (name : String) :
    (putFields fields more).lookup name = (more.reverse.lookup name).or (fields.lookup name) := by
  induction more generalizing fields with
  | nil => rfl
  | cons field more ih =>
    obtain ⟨k, v⟩ := field
    change (putFields (putField k v fields) more).lookup name = _
    rw [ih, lookup_putField, List.reverse_cons, List.lookup_append, lookup_cons_eq, Option.or_assoc]
    split_ifs <;> rfl

end SourceSurvey.Value
