import SourceSurvey.Proofs.Settings.Layers
import SourceSurvey.Proofs.Settings.Refusal

/-!
# Precedence of sources

Each setting has the value of the first source that sets it: direct overrides, the environment, the
file given by name, the file of the project, the file in the home directory, and the defaults
(`ranked`).  A switch that is on counts as an override of the verbosity (`Overrides.value?`), and
lists cannot come from the environment (`fromEnvironment`).  `load_total` says that loading gives
such settings, which pass their checks, or is refused.
-/

namespace SourceSurvey.Settings

/-! ## Tables -/

/-- The value that a table has under a name; of several the last counts. -/
def value? (table : Toml.Table) (name : String) : Option Value := table.reverse.lookup name

theorem lookup_filter_ne {name other : String} (h : name ≠ other) (table : Toml.Table) :
    (table.filter fun (key, _) => key != other).lookup name = table.lookup name := by
  refine Value.lookup_filter (fun v => ?_) table
  exact bne_iff_ne.2 h

theorem lookup_eq_none_of_not_mem {α : Type} {table : List (String × α)} {name : String}
    (h : name ∉ table.map Prod.fst) : table.lookup name = none := by
  rw [List.lookup_eq_none_iff]
  intro entry hentry
  rw [bne_iff_ne]
  rintro rfl
  exact h (List.mem_map_of_mem hentry)

/-- Under names that differ the first value is the last one. -/
theorem value?_of_nodup {table : Toml.Table} (h : (table.map Prod.fst).Nodup) (name : String) :
    value? table name = table.lookup name := by
  unfold value?
  induction table with
  | nil => rfl
  | cons entry table ih =>
    obtain ⟨key, v⟩ := entry
    obtain ⟨hkey, htable⟩ := List.nodup_cons.1 h
    rw [List.reverse_cons, List.lookup_append, ih htable, Value.lookup_cons_eq,
      Value.lookup_cons_eq]
    split_ifs with hname
    · subst hname
      rw [lookup_eq_none_of_not_mem hkey]
      rfl
    · exact Option.or_none

theorem nodup_applySwitch {table : Toml.Table} (h : (table.map Prod.fst).Nodup)
    (switch word : String) :
    ((applySwitch switch word table).map Prod.fst).Nodup := by
  unfold applySwitch
  split
  · exact h
  · refine List.Nodup.sublist (List.Sublist.map _ List.filter_sublist) ?_
    split_ifs
    · exact Value.nodup_putField h _ _
    · exact h

/-! ## Overrides -/

/-- Whether a switch is on. -/
def isOn (table : Toml.Table) (switch : String) : Bool := ((table.lookup switch).getD .null).truthy

/-- The value that overrides set: switches that are on decide the verbosity, and quiet wins. -/
def Overrides.value? (overrides : Overrides) (name : String) : Option Value :=
  if name = "verbosity" ∧ isOn overrides.values "quiet" then some (.str "quiet")
  else if name = "verbosity" ∧ isOn overrides.values "verbose" then some (.str "verbose")
  else overrides.values.lookup name

theorem lookup_applySwitch {switch word name : String} (hname : name ≠ switch)
    (table : Toml.Table) :
    (applySwitch switch word table).lookup name =
      if name = "verbosity" ∧ isOn table switch then some (.str word) else table.lookup name := by
  unfold applySwitch isOn
  cases table.lookup switch with
  | none => simp [Value.truthy]
  | some v =>
    simp only [lookup_filter_ne hname, Option.getD_some]
    by_cases hv : v.truthy = true
    · simp only [hv, if_true, Value.lookup_putField, and_true]
    · simp [hv]

theorem isOn_applySwitch {switch word name : String} (hname : name ≠ switch)
    (hverbosity : name ≠ "verbosity") (table : Toml.Table) :
    isOn (applySwitch switch word table) name = isOn table name := by
  rw [isOn, lookup_applySwitch hname, if_neg (fun h => hverbosity h.1), isOn]

/-- The fields of the overrides with their switches applied. -/
def Overrides.fields (overrides : Overrides) : Toml.Table :=
  applySwitch "quiet" "quiet" (applySwitch "verbose" "verbose" overrides.values)

theorem value?_fields {overrides : Overrides} (h : (overrides.values.map Prod.fst).Nodup)
    {name : String} (hquiet : name ≠ "quiet") (hverbose : name ≠ "verbose") :
    Settings.value? overrides.fields name = overrides.value? name := by
  have hnodup := nodup_applySwitch (nodup_applySwitch h "verbose" "verbose") "quiet" "quiet"
  rw [Overrides.fields, value?_of_nodup hnodup, lookup_applySwitch hquiet,
    lookup_applySwitch hverbose, isOn_applySwitch (by decide) (by decide)]
  rfl

/-! ## The environment -/

/-- What the variable of a setting of some kind sets. -/
def variableValue (environment : List (String × String)) (setting : String)
    (kind : VariableKind) : Option Value :=
  (environment.lookup (variableName setting)).bind fun text => (kind.read text).toOption.join

/-- The value of a setting that comes from the environment, given the kinds of settings. -/
def fromEnvironment (environment : List (String × String)) (kinds : List (String × VariableKind))
    (name : String) :
    Option Value :=
  (kinds.lookup name).bind (variableValue environment name)

theorem ofEnvironment_cons {environment : List (String × String)} {setting : String}
    {kind : VariableKind} {kinds : List (String × VariableKind)} {fields : Toml.Table}
    (h : ofEnvironment environment ((setting, kind) :: kinds) = .ok fields) :
    ∃ rest, ofEnvironment environment kinds = .ok rest ∧
      fields = (variableValue environment setting kind).toList.map (Prod.mk setting) ++ rest := by
  unfold variableValue
  unfold ofEnvironment at h
  cases htext : environment.lookup (variableName setting) with
  | none =>
    rw [htext] at h
    exact ⟨fields, h, rfl⟩
  | some text =>
    rw [htext] at h
    rw [Option.bind_some]
    dsimp only at h
    rcases hread : kind.read text with m | _ | v
    · rw [hread] at h
      cases h
    · rw [hread] at h
      exact ⟨fields, h, rfl⟩
    · rw [hread] at h
      obtain ⟨rest, hrest, rfl⟩ := map_eq_ok.1 h
      exact ⟨rest, hrest, rfl⟩

theorem value?_append_toList (setting name : String) (v : Option Value) (table : Toml.Table) :
    value? (v.toList.map (Prod.mk setting) ++ table) name =
      (value? table name).or (if name = setting then v else none) := by
  rw [value?, List.reverse_append, List.lookup_append]
  cases v with
  | none => simp [value?]
  | some v => exact congrArg _ (Value.lookup_cons_eq setting name v [])

/-- Each variable that is read sets its own setting. -/
theorem value?_ofEnvironment {environment : List (String × String)}
    {kinds : List (String × VariableKind)} (hnodup : (kinds.map Prod.fst).Nodup)
    {fields : Toml.Table} (h : ofEnvironment environment kinds = .ok fields)
    (name : String) : value? fields name = fromEnvironment environment kinds name := by
  induction kinds generalizing fields with
  | nil =>
    obtain rfl := Except.ok.inj h
    rfl
  | cons first kinds ih =>
    obtain ⟨setting, kind⟩ := first
    obtain ⟨hsetting, hkinds⟩ := List.nodup_cons.1 hnodup
    obtain ⟨rest, hrest, rfl⟩ := ofEnvironment_cons h
    rw [value?_append_toList, ih hkinds hrest, fromEnvironment, fromEnvironment, List.lookup_cons]
    by_cases hname : name = setting
    · subst hname
      rw [lookup_eq_none_of_not_mem hsetting, if_pos rfl, BEq.rfl]
      rfl
    · rw [if_neg hname, beq_false_of_ne hname, Option.or_none]

/-! ## Loaded settings -/

/-- The value of a setting by the rank of its sources. -/
def ranked (w : World) (overrides : Overrides) (global project named : Toml.Table)
    (name : String) : Option Value :=
  (overrides.value? name).or <| (fromEnvironment w.environment variableKinds name).or <|
    (value? named name).or <| (value? project name).or (value? global name)

/-- The documents that settings are loaded from. -/
structure Documents (w : World) (home : Route) (file : Option Route)
    (global project named : Toml.Table) : Prop where
  inHome : Says w (home.child ".code-insight.toml") global
  inProject : Says w (w.current.child "code-insight.toml") project
  byName : ∀ route, file = some route → Present w route named
  unnamed : file = none → named = []

/-- Settings pass their checks, and each of them but the thresholds has the value of the first
source that sets it. -/
structure Loaded (w : World) (home : Route) (file : Option Route) (overrides : Overrides)
    (s : Settings) : Prop where
  checked : s.check = .ok ()
  checkedThresholds : s.thresholds.check = .ok ()
  fields : ∃ global project named, Documents w home file global project named ∧
    s.toValue = .obj ((shape.defaults.map fun (name, default) =>
      (name, (ranked w overrides global project named name).getD default)) ++
        [("thresholds", s.thresholds.toValue)])

section Load

variable {w : World} {home : Route} {file : Option Route} {overrides : Overrides}

theorem sources_spec (hhome : w.home = .ok home)
    (hanswers : ∀ route ∈ documents w home file, ∃ found, w.reaches route = .ok found) :
    LoadsOrRefuses w (documents w home file)
      (fun tables => ∃ global project named environment,
        Documents w home file global project named ∧
        ofEnvironment w.environment variableKinds = .ok environment ∧
        tables = [global, project, named, environment, overrides.fields])
      (sources w file overrides) := by
  unfold sources
  rw [hhome]
  have hglobal : home.child ".code-insight.toml" ∈ documents w home file := .head _
  have hproject : w.current.child "code-insight.toml" ∈ documents w home file := .tail _ (.head _)
  refine (optionalDocument_spec hglobal (hanswers _ hglobal) _).bind fun global hinHome => ?_
  refine (optionalDocument_spec hproject (hanswers _ hproject) _).bind fun project hinProject => ?_
  cases henvironment : ofEnvironment w.environment variableKinds with
  | error fault =>
    obtain ⟨setting, text, m, hbad⟩ := ofEnvironment_error (List.Subset.refl _) henvironment
    cases file with
    | none => exact loadsOrRefuses_fault (.environment hbad)
    | some route =>
      have hroute : route ∈ documents w home (some route) := .tail _ (.tail _ (.head _))
      exact (namedDocument_spec hroute (hanswers _ hroute)).bind fun _ _ =>
        loadsOrRefuses_fault (.environment hbad)
  | ok environment =>
    cases file with
    | none =>
      exact loadsOrRefuses_ok ⟨global, project, [], environment,
        ⟨hinHome, hinProject, nofun, fun _ => rfl⟩, rfl, rfl⟩
    | some route =>
      have hroute : route ∈ documents w home (some route) := .tail _ (.tail _ (.head _))
      refine (namedDocument_spec hroute (hanswers _ hroute)).bind fun named hpresent => ?_
      have hbyName : ∀ other, some route = some other → Present w other named := by
        rintro _ ⟨⟩
        exact hpresent
      exact loadsOrRefuses_ok ⟨global, project, named, environment,
        ⟨hinHome, hinProject, hbyName, nofun⟩, rfl, rfl⟩

@[simp] theorem default_thresholds_check : Thresholds.default.check = .ok () :=
  toOption_eq_some.1 (by decide +kernel)

theorem mergedThresholds_spec {routes : List Route}
    (hdirect : ∀ t, overrides.thresholds = some t → t.check = .ok ()) (merged : Toml.Table) :
    LoadsOrRefuses w routes (fun t => t.check = .ok ()) (mergedThresholds overrides merged) := by
  unfold mergedThresholds
  split
  · rename_i t ht
    exact loadsOrRefuses_ok (hdirect t ht)
  · split
    · rename_i fields hfields
      cases hthresholds : Thresholds.ofFields fields with
      | error m =>
        exact loadsOrRefuses_fault (.thresholds hthresholds
          (Thresholds.ofFields_plainly fields m hthresholds))
      | ok t =>
        refine loadsOrRefuses_ok ?_
        obtain ⟨filled, -, h⟩ := bind_eq_ok.1 hthresholds
        obtain ⟨_, hcheck, h⟩ := bind_eq_ok.1 h
        obtain rfl := Except.ok.inj h
        exact hcheck
    · exact loadsOrRefuses_ok default_thresholds_check

theorem ofFields_spec {routes : List Route} (given : Toml.Table) (t : Thresholds) :
    LoadsOrRefuses w routes
      (fun s => s.check = .ok () ∧ s.thresholds = t ∧
        s.toValue =
          .obj ((shape.defaults.map fun (name, default) =>
            (name, (given.lookup name).getD default)) ++
          [("thresholds", t.toValue)]))
      (explained "Invalid configuration: " (orFail (ofFields given t))) := by
  cases hsettings : ofFields given t with
  | error m =>
    exact loadsOrRefuses_fault (.settings hsettings (ofFields_plainly given t m hsettings))
  | ok s =>
    refine loadsOrRefuses_ok ?_
    obtain ⟨filled, hfilled, h⟩ := bind_eq_ok.1 hsettings
    obtain ⟨_, -, hfilled⟩ := bind_eq_ok.1 hfilled
    obtain ⟨_, hcheck, h⟩ := bind_eq_ok.1 h
    obtain rfl := Except.ok.inj hfilled
    obtain rfl := Except.ok.inj h
    exact ⟨hcheck, rfl, rfl⟩

theorem lookup_sources (hnodup : (overrides.values.map Prod.fst).Nodup) {environment : Toml.Table}
    (henvironment : ofEnvironment w.environment variableKinds = .ok environment)
    (global project named : Toml.Table) {name : String} (hquiet : name ≠ "quiet")
    (hverbose : name ≠ "verbose") :
    ([global, project, named, environment, overrides.fields].foldl Value.putFields []).lookup name =
      ranked w overrides global project named name := by
  rw [lookup_foldl_putFields, ranked, ← value?_fields hnodup hquiet hverbose,
    ← value?_ofEnvironment (by decide) henvironment]
  change ([overrides.fields, environment, named, project, global].findSome? fun table =>
    value? table name).or none = _
  simp only [List.findSome?_cons, List.findSome?_nil, Option.or_none]
  cases value? overrides.fields name <;> cases value? environment name <;>
    cases value? named name <;>
    cases value? project name <;> cases value? global name <;> rfl

/-- Merged fields follow the rank of their sources. -/
def Merged (w : World) (home : Route) (file : Option Route) (overrides : Overrides)
    (merged : Toml.Table) : Prop :=
  ∃ global project named, Documents w home file global project named ∧
    ∀ name, name ≠ "quiet" → name ≠ "verbose" →
      merged.lookup name = Settings.ranked w overrides global project named name

theorem mergeSources_spec (hhome : w.home = .ok home)
    (hanswers : ∀ route ∈ documents w home file, ∃ found, w.reaches route = .ok found)
    (hnodup : (overrides.values.map Prod.fst).Nodup) :
    LoadsOrRefuses w (documents w home file) (Merged w home file overrides)
    (mergeSources w file overrides) := by
  refine (sources_spec hhome hanswers).bind ?_
  rintro _ ⟨global, project, named, environment, hdocuments, henvironment, rfl⟩
  exact loadsOrRefuses_ok ⟨global, project, named, hdocuments, fun name hquiet hverbose =>
    lookup_sources hnodup henvironment _ _ _ hquiet hverbose⟩

/-- The settings that can be loaded are neither switches nor thresholds. -/
theorem names_of_shape : ∀ field ∈ shape.defaults,
    field.1 ≠ "quiet" ∧ field.1 ≠ "verbose" ∧ field.1 ≠ "thresholds" := by
  decide

theorem load_spec (hhome : w.home = .ok home)
    (hanswers : ∀ route ∈ documents w home file, ∃ found, w.reaches route = .ok found)
    (hnodup : (overrides.values.map Prod.fst).Nodup)
    (hdirect : ∀ t, overrides.thresholds = some t → t.check = .ok ()) :
    LoadsOrRefuses w (documents w home file) (Loaded w home file overrides)
    (load w file overrides) := by
  refine (mergeSources_spec hhome hanswers hnodup).bind ?_
  rintro merged ⟨global, project, named, hdocuments, hlookup⟩
  refine (mergedThresholds_spec hdirect merged).bind fun t ht => ?_
  rcases ofFields_spec (merged.filter fun (name, _) => name != "thresholds") t with
    ⟨s, hs, hcheck, rfl, hvalue⟩ | hfault
  · refine .inl ⟨s, hs, hcheck, ht, global, project, named, hdocuments, hvalue.trans ?_⟩
    congr 2
    refine List.map_congr_left ?_
    rintro ⟨name, default⟩ hfield
    obtain ⟨hquiet, hverbose, hthresholds⟩ := names_of_shape _ hfield
    have hranked := (lookup_filter_ne hthresholds merged).trans (hlookup name hquiet hverbose)
    exact congrArg (fun v : Option Value => (name, v.getD default)) hranked
  · exact .inr hfault

end Load

/-! ## Variables that are passed over -/

theorem ofEnvironment_congr {environment other : List (String × String)}
    {kinds : List (String × VariableKind)}
    (h : ∀ setting kind, (setting, kind) ∈ kinds → kind ≠ .unavailable →
      other.lookup (variableName setting) = environment.lookup (variableName setting)) :
    ofEnvironment other kinds = ofEnvironment environment kinds := by
  induction kinds with
  | nil => rfl
  | cons first kinds ih =>
    obtain ⟨setting, kind⟩ := first
    have hrest := ih fun s k hmem => h s k (List.mem_cons_of_mem _ hmem)
    unfold ofEnvironment
    by_cases hkind : kind = .unavailable
    · subst hkind
      rw [hrest]
      cases other.lookup (variableName setting) <;>
        cases environment.lookup (variableName setting) <;> rfl
    · rw [hrest, h setting kind List.mem_cons_self hkind]

/-- The variables of lists and of thresholds. -/
def passedOver : List String := ["CODE_INSIGHT_EXCLUDE_DIRS", "CODE_INSIGHT_THRESHOLDS"]

theorem variableName_not_passedOver : ∀ field ∈ variableKinds, field.2 ≠ .unavailable →
    variableName field.1 ∉ passedOver := by decide +kernel

theorem load_congr {w : World} {environment : List (String × String)}
    (h : ∀ name, name ∉ passedOver → environment.lookup name = w.environment.lookup name)
    (file : Option Route) (overrides : Overrides) :
    load { w with environment } file overrides = load w file overrides := by
  have henvironment : ofEnvironment environment variableKinds =
      ofEnvironment w.environment variableKinds :=
    ofEnvironment_congr fun setting kind hmem hkind =>
      h _ (variableName_not_passedOver _ hmem hkind)
  have hhome : World.home { w with environment } = w.home := by
    simp only [World.home, World.lookup?, h "HOME" (by decide)]
    rfl
  have hsources : sources { w with environment } file overrides = sources w file overrides := by
    unfold sources
    rw [hhome, henvironment]
    rfl
  unfold load mergeSources
  rw [hsources]

/-- **Loading settings** gives settings that pass their checks and follow the rank of their sources,
or is refused with a fault of the survey, whatever the files and the environment hold and whatever
is overridden. -/
theorem load_total {w : World} {home : Route} {file : Option Route} {overrides : Overrides}
    (hhome : w.home = .ok home)
    (hanswers : ∀ route ∈ documents w home file, ∃ found, w.reaches route = .ok found)
    (hnodup : (overrides.values.map Prod.fst).Nodup)
    (hdirect : ∀ t, overrides.thresholds = some t → t.check = .ok ()) :
    ((∃ s, load w file overrides = .ok s ∧ Loaded w home file overrides s) ∨
        ∃ fault, load w file overrides = .error (.fault fault) ∧
        "CodeInsightError" ∈ fault.ancestry ∧
          Refusal w (documents w home file) fault) ∧
      ∀ environment : List (String × String),
        (∀ name, name ∉ passedOver → environment.lookup name = w.environment.lookup name) →
          load { w with environment } file overrides = load w file overrides := by
  refine ⟨?_, fun environment h => load_congr h file overrides⟩
  rcases load_spec hhome hanswers hnodup hdirect with hloaded | ⟨fault, hfault, hrefusal⟩
  · exact .inl hloaded
  · exact .inr ⟨fault, hfault, hrefusal.ancestry, hrefusal⟩

/-- Files and an environment that disagree. -/
def disagreeing : World :=
  { twoSources "workers = 2\n" "workers = 3\nmax_files = 5\n" with
    environment := [("CODE_INSIGHT_MAX_FILES", "7"), ("CODE_INSIGHT_EXCLUDE_DIRS", "x")] }

/-- Overrides with both switches on. -/
def bothSwitches : Overrides := ⟨[("verbose", .bool true), ("quiet", .int 1)], none⟩

theorem load_total_disagreeing :
    ∃ s, load disagreeing none bothSwitches = .ok s ∧
    Loaded disagreeing ⟨"/", []⟩ none bothSwitches s ∧
      (s.workers, s.maxFiles, s.verbosity) = (.int 3, .int 7, .str "quiet") := by
  have hvalues : (load disagreeing none bothSwitches).toOption.map
      (fun s => (s.workers, s.maxFiles, s.verbosity)) =
      some (.int 3, .int 7, .str "quiet") := by decide +kernel
  obtain ⟨s, hs, hfields⟩ := Option.map_eq_some_iff.1 hvalues
  have hload := toOption_eq_some.1 hs
  have hhome : disagreeing.home = .ok ⟨"/", []⟩ := toOption_eq_some.1 (by decide +kernel)
  have hanswers : ∀ route ∈ documents disagreeing ⟨"/", []⟩ none, ∃ found,
      disagreeing.reaches route = .ok found := by
    have hall : ∀ route ∈ documents disagreeing ⟨"/", []⟩ none,
        (disagreeing.reaches route).toOption.isSome = true := by decide +kernel
    intro route hroute
    obtain ⟨found, hfound⟩ := Option.isSome_iff_exists.1 (hall route hroute)
    exact ⟨found, toOption_eq_some.1 hfound⟩
  have hnodup : (bothSwitches.values.map Prod.fst).Nodup := by decide
  obtain ⟨⟨loaded, hok, hloaded⟩ | ⟨fault, hfault, -⟩, -⟩ := load_total hhome hanswers hnodup nofun
  · obtain rfl := Except.ok.inj (hload.symm.trans hok)
    exact ⟨s, hload, hloaded, hfields⟩
  · cases hload.symm.trans hfault

end SourceSurvey.Settings
