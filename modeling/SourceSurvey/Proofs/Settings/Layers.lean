import SourceSurvey.Proofs.Settings.Checked
import SourceSurvey.Proofs.Value.Fields

/-!
# Thresholds of several sources

Each source of settings may have an entry for the thresholds.  Layered over each other, the entries
give every threshold the value of the first entry that sets it (`layered`).  What is loaded is the
first entry alone, over the defaults: the others are dropped, and a first entry that is no table
counts as nothing (`load_thresholds`).
-/

namespace SourceSurvey.Settings

/-- What an entry says about a threshold. -/
def setting (key : String) (entry : Value) : Option Value := entry.fields?.bind (·.lookup key)

/-- The entries for the thresholds, those that count more first. -/
def thresholdEntries (tables : List Toml.Table) (overrides : Overrides) : List Value :=
  (overrides.thresholds.map Thresholds.toValue).toList ++
    tables.reverse.filterMap fun table => table.reverse.lookup "thresholds"

/-- The thresholds of entries over each other: of each the first value that is set, or the
default. -/
def layered (entries : List Value) : Value :=
  .obj (Thresholds.shape.defaults.map fun (key, default) =>
    (key, (entries.findSome? (setting key)).getD default))

/-! ## Merged tables -/

/-- Of tables that are merged the last that has a field decides it. -/
theorem lookup_foldl_putFields (tables : List Toml.Table) (fields : Toml.Table) (name : String) :
    (tables.foldl Value.putFields fields).lookup name =
      (tables.reverse.findSome? fun table => table.reverse.lookup name).or
        (fields.lookup name) := by
  induction tables generalizing fields with
  | nil => rfl
  | cons table tables ih =>
    rw [List.foldl_cons, ih, Value.lookup_putFields, List.reverse_cons, List.findSome?_append,
      List.findSome?_singleton, Option.or_assoc]

theorem lookup_merged (tables : List Toml.Table) :
    (tables.foldl Value.putFields []).lookup "thresholds" =
      (tables.reverse.filterMap fun table => table.reverse.lookup "thresholds").head? := by
  rw [lookup_foldl_putFields, List.head?_filterMap]
  simp

/-! ## Thresholds of an entry -/

theorem toValue_eq_layered (t : Thresholds) : t.toValue = layered [t.toValue] := by
  rfl

theorem layered_obj (fields : List (String × Value)) :
    layered [.obj fields] =
      .obj (Thresholds.shape.defaults.map fun (key, default) =>
        (key, (fields.lookup key).getD default)) := by
  simp only [layered, List.findSome?_singleton]
  rfl

theorem toValue_ofFields {fields : List (String × Value)} {t : Thresholds}
    (h : Thresholds.ofFields fields = .ok t) : t.toValue = layered [.obj fields] := by
  simp only [Thresholds.ofFields, RecordShape.fill, bind_eq_ok] at h
  obtain ⟨filled, ⟨_, -, hfilled⟩, _, -, ht⟩ := h
  obtain rfl := Except.ok.inj hfilled
  obtain rfl := Except.ok.inj ht
  rw [layered_obj]
  rfl

theorem default_toValue : Thresholds.default.toValue = layered [] := by
  rfl

/-- An entry that is no table sets nothing. -/
theorem layered_of_not_obj {entry : Value} (h : entry.kind ≠ .obj) (entries : List Value) :
    layered (entry :: entries) = layered entries := by
  have hnone : ∀ key, setting key entry = none := by
    intro key
    rw [setting, Value.fields?_eq_none.2 h]
    rfl
  simp only [layered, List.findSome?_cons, hnone]

/-- **The thresholds that are merged**: those of the first entry over the defaults. -/
theorem mergedThresholds_toValue {tables : List Toml.Table} {overrides : Overrides} {t : Thresholds}
    (h : mergedThresholds overrides (tables.foldl Value.putFields []) = .ok t) :
    t.toValue = layered ((thresholdEntries tables overrides).take 1) := by
  unfold mergedThresholds at h
  unfold thresholdEntries
  cases hdirect : overrides.thresholds with
  | some direct =>
    rw [hdirect] at h
    obtain rfl : direct = t := Except.ok.inj h
    exact toValue_eq_layered direct
  | none =>
    rw [hdirect, lookup_merged] at h
    change t.toValue = layered ((tables.reverse.filterMap _).take 1)
    cases htables : tables.reverse.filterMap fun table => table.reverse.lookup "thresholds" with
    | nil =>
      rw [htables] at h
      obtain rfl : Thresholds.default = t := Except.ok.inj h
      exact default_toValue
    | cons entry entries =>
      rw [htables] at h
      change t.toValue = layered [entry]
      cases hfields : entry.fields? with
      | some fields =>
        obtain rfl := Value.fields?_eq_some.1 hfields
        exact toValue_ofFields (orFail_ok.1 (explained_eq_ok.1 h))
      | none =>
        have hkind := Value.fields?_eq_none.1 hfields
        rw [layered_of_not_obj hkind]
        have hdefault : Thresholds.default = t := by
          cases entry with
          | obj fields => exact absurd rfl hkind
          | _ => exact Except.ok.inj h
        rw [← hdefault]
        exact default_toValue

/-! ## Loaded thresholds -/

/-- The thresholds are those of all entries over each other, and every entry is a table. -/
structure Layered (entries : List Value) (t : Thresholds) : Prop where
  tables : ∀ entry ∈ entries, entry.kind = .obj
  thresholds : t.toValue = layered entries

/-- An entry hides those below it: all are tables, and of each threshold that the first one does not
set, the others set the default at most. -/
structure Hides (entries : List Value) : Prop where
  tables : ∀ entry ∈ entries, entry.kind = .obj
  defaults : ∀ key default, (key, default) ∈ Thresholds.shape.defaults →
    (entries.take 1).findSome? (setting key) = none →
    ∀ v ∈ entries.findSome? (setting key), v = default

/-- One threshold of the first entry and of all entries. -/
theorem getD_take_eq_iff (entries : List Value) (key : String) (default : Value) :
    ((entries.take 1).findSome? (setting key)).getD default =
      (entries.findSome? (setting key)).getD default ↔
      ((entries.take 1).findSome? (setting key) = none →
        ∀ v ∈ entries.findSome? (setting key), v = default) := by
  cases entries with
  | nil => simp
  | cons top rest =>
    have htake : ((top :: rest).take 1).findSome? (setting key) = setting key top :=
      List.findSome?_singleton
    rw [htake, List.findSome?_cons]
    cases setting key top with
    | some v => simp
    | none =>
      cases rest.findSome? (setting key) with
      | none => simp
      | some v => simp [eq_comm]

theorem layered_take_eq_iff (entries : List Value) :
    layered (entries.take 1) = layered entries ↔
      ∀ key default, (key, default) ∈ Thresholds.shape.defaults →
        (entries.take 1).findSome? (setting key) = none →
        ∀ v ∈ entries.findSome? (setting key), v = default := by
  unfold layered
  rw [Value.obj.injEq, List.map_inj_left]
  constructor
  · intro h key default hmem
    exact (getD_take_eq_iff entries key default).1 (Prod.mk.inj (h (key, default) hmem)).2
  · rintro h ⟨key, default⟩ hmem
    exact congrArg (Prod.mk key) ((getD_take_eq_iff entries key default).2 (h key default hmem))

/-- **The thresholds that are loaded** are those of the first entry alone.  They are what the
entries over each other give just when the first entry hides nothing but defaults and no entry is
passed over. -/
theorem load_thresholds {w : World} {file : Option Route} {overrides : Overrides} {s : Settings}
    (h : load w file overrides = .ok s) :
    ∃ tables, sources w file overrides = .ok tables ∧
      s.thresholds.toValue = layered ((thresholdEntries tables overrides).take 1) ∧
      (Layered (thresholdEntries tables overrides) s.thresholds ↔
        Hides (thresholdEntries tables overrides)) := by
  simp only [load, mergeSources, bind_eq_ok, explained_eq_ok, orFail_ok, ofFields] at h
  obtain ⟨merged, ⟨tables, htables, hmerged⟩, thresholds, hthresholds, filled, -, _, -, hs⟩ := h
  obtain rfl := Except.ok.inj hmerged
  obtain rfl := Except.ok.inj hs
  have htop := mergedThresholds_toValue hthresholds
  refine ⟨tables, htables, htop, ?_⟩
  constructor
  · rintro ⟨hall, hlayered⟩
    exact ⟨hall, (layered_take_eq_iff _).1 (htop.symm.trans hlayered)⟩
  · rintro ⟨hall, hdefaults⟩
    exact ⟨hall, htop.trans ((layered_take_eq_iff _).2 hdefaults)⟩

/-- A home and a project with settings of their own. -/
def twoSources (home project : String) : World where
  top := .directory [(".code-insight.toml", .file home.toUTF8),
    ("p", .directory [("code-insight.toml", .file project.toUTF8)])]
  here := ["p"]
  environment := []
  tool := fun _ => .missing
  clock := .int 0
  accessDenied := false
  width := 80

theorem load_thresholds_one_table :
    ∃ s, load (twoSources "workers = 2\n" "[thresholds]\nmax_duplicates = 7\n") none .none = .ok s ∧
      s.thresholds.toValue = layered [.obj [("max_duplicates", .int 7)]] := by
  have hload :
      (load (twoSources "workers = 2\n" "[thresholds]\nmax_duplicates = 7\n") none
        .none).toOption.isSome =
      true := by decide +kernel
  have hentries : (sources (twoSources "workers = 2\n" "[thresholds]\nmax_duplicates = 7\n") none
      .none).toOption.map (thresholdEntries · .none) =
        some [.obj [("max_duplicates", .int 7)]] := by decide +kernel
  obtain ⟨s, hs⟩ := Option.isSome_iff_exists.1 hload
  rw [toOption_eq_some] at hs
  obtain ⟨tables, htables, htop, -⟩ := load_thresholds hs
  rw [htables] at hentries
  have hentry : thresholdEntries tables .none = [.obj [("max_duplicates", .int 7)]] :=
    Option.some.inj hentries
  rw [hentry] at htop
  exact ⟨s, hs, htop⟩

/-- A table in the project drops the thresholds that the home sets. -/
theorem load_drops_thresholds :
    ∃ s tables,
      load
          (twoSources "[thresholds]\nmin_fragment_size = 4\n" "[thresholds]\nmax_duplicates = 7\n")
          none .none = .ok s ∧
      sources
          (twoSources "[thresholds]\nmin_fragment_size = 4\n" "[thresholds]\nmax_duplicates = 7\n")
          none .none = .ok tables ∧
      (thresholdEntries tables .none).findSome? (setting "min_fragment_size") = some (.int 4) ∧
      s.thresholds.minSize = .int 6 := by
  have hload :
      (load (twoSources "[thresholds]\nmin_fragment_size = 4\n"
        "[thresholds]\nmax_duplicates = 7\n") none
      .none).toOption.map (·.thresholds.minSize) = some (.int 6) := by decide +kernel
  have hentries :
      (sources (twoSources "[thresholds]\nmin_fragment_size = 4\n"
        "[thresholds]\nmax_duplicates = 7\n")
      none .none).toOption.map (fun tables =>
        (thresholdEntries tables .none).findSome? (setting "min_fragment_size")) =
          some (some (.int 4)) := by
    decide +kernel
  obtain ⟨s, hs, hsize⟩ := Option.map_eq_some_iff.1 hload
  obtain ⟨tables, htables, hset⟩ := Option.map_eq_some_iff.1 hentries
  exact ⟨s, tables, toOption_eq_some.1 hs, toOption_eq_some.1 htables, hset, hsize⟩

end SourceSurvey.Settings
