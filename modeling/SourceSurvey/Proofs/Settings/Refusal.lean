import SourceSurvey.Proofs.Settings.Checked

/-!
# Refused settings

Settings that make no sense are refused for the kind of a value or for the value itself, and for
nothing else: a comparison of any two values, a record filled with any fields and a variable with
any text fail as a "TypeError" or a "ValueError" if they fail (`Misuse.Plain`, `Plainly`).  So
loading turns each refusal into a fault of its own (`Refusal`, `LoadsOrRefuses`).
-/

namespace SourceSurvey

/-! ## Plain misuse -/

/-- A value is of the wrong kind, or is itself wrong. -/
def Misuse.Plain (m : Misuse) : Prop := m.label = "TypeError" ∨ m.label = "ValueError"

/-- A computation fails by plain misuse only. -/
def Plainly {α : Type} (x : Except Misuse α) : Prop := ∀ m, x = .error m → m.Plain

section Plainly

variable {α β : Type}

theorem plainly_ok (a : α) : Plainly (.ok a : Except Misuse α) := by
  rintro m ⟨⟩

theorem plainly_bind {x : Except Misuse α} {f : α → Except Misuse β} (hx : Plainly x)
    (hf : ∀ a, Plainly (f a)) :
    Plainly (x >>= f) := by
  intro m h
  rcases bind_eq_error.1 h with h | ⟨a, -, h⟩
  · exact hx m h
  · exact hf a m h

end Plainly

/-! ## Comparisons -/

mutual

/-- Values that have no order are of the wrong kinds. -/
theorem Value.test_plainly (how : Comparison) (a b : Value) : Plainly (Value.test how a b) := by
  unfold Value.test
  split
  · exact Value.testList_plainly how _ _
  · exact plainly_ok _
  · split
    · exact plainly_ok _
    · rintro _ ⟨⟩
      exact .inl rfl

theorem Value.testList_plainly (how : Comparison) (xs ys : List Value) :
    Plainly (Value.testList how xs ys) := by
  unfold Value.testList
  split
  · exact plainly_ok _
  · exact plainly_ok _
  · split
    · exact Value.testList_plainly how _ _
    · exact Value.test_plainly how _ _

end

/-! ## Checks -/

theorem refuseIf_plainly {test : Except Misuse Bool} (h : Plainly test) (reason : String) :
    Plainly (Thresholds.refuseIf test reason) := by
  refine plainly_bind h fun b => ?_
  cases b with
  | false => exact plainly_ok _
  | true =>
    rintro _ ⟨⟩
    exact .inr rfl

theorem isNoShare_plainly (v : Value) : Plainly (Thresholds.isNoShare v) := by
  refine plainly_bind (Value.test_plainly _ _ _) fun b => ?_
  cases b with
  | false => exact plainly_ok _
  | true => exact plainly_bind (Value.test_plainly _ _ _) fun _ => plainly_ok _

theorem Thresholds.check_plainly (t : Thresholds) : Plainly t.check := by
  have hlengths : Plainly (do
      if ← t.minAnchor.test .lt (.int 0) then return true else t.minMatch.test .lt (.int 0)) := by
    refine plainly_bind (Value.test_plainly _ _ _) fun b => ?_
    cases b with
    | false => exact Value.test_plainly _ _ _
    | true => exact plainly_ok _
  unfold Thresholds.check
  exact plainly_bind (refuseIf_plainly (isNoShare_plainly _) _) fun _ =>
    plainly_bind (refuseIf_plainly (Value.test_plainly _ _ _) _) fun _ =>
    plainly_bind (refuseIf_plainly (Value.test_plainly _ _ _) _) fun _ =>
    plainly_bind (refuseIf_plainly (Value.test_plainly _ _ _) _) fun _ =>
    plainly_bind (refuseIf_plainly hlengths _) fun _ =>
    plainly_bind (refuseIf_plainly (plainly_ok _) _) fun _ =>
    refuseIf_plainly (Value.test_plainly _ _ _) _

theorem Settings.check_plainly (s : Settings) : Plainly s.check := by
  unfold Settings.check
  exact plainly_bind (refuseIf_plainly (Value.test_plainly _ _ _) _) fun _ =>
    plainly_bind (refuseIf_plainly (Value.test_plainly _ _ _) _) fun _ =>
    plainly_bind (refuseIf_plainly (Value.test_plainly _ _ _) _) fun _ =>
    plainly_bind (refuseIf_plainly (Value.test_plainly _ _ _) _) fun _ =>
    plainly_bind (refuseIf_plainly (Value.test_plainly _ _ _) _) fun _ =>
    refuseIf_plainly (plainly_ok _) _

theorem RecordShape.fill_plainly (shape : RecordShape) (given : List (String × Value)) :
    Plainly (shape.fill given) := by
  refine plainly_bind ?_ fun _ => plainly_ok _
  induction given with
  | nil => exact plainly_ok _
  | cons field given ih =>
    unfold RecordShape.check
    split_ifs
    · rintro _ ⟨⟩
      exact .inl rfl
    · exact ih
    · rintro _ ⟨⟩
      exact .inl rfl

theorem Thresholds.ofFields_plainly (given : List (String × Value)) :
    Plainly (Thresholds.ofFields given) :=
  plainly_bind (RecordShape.fill_plainly _ _) fun _ =>
    plainly_bind (Thresholds.check_plainly _) fun _ => plainly_ok _

theorem Settings.ofFields_plainly (given : List (String × Value)) (thresholds : Thresholds) :
    Plainly (Settings.ofFields given thresholds) :=
  plainly_bind (RecordShape.fill_plainly _ _) fun _ =>
    plainly_bind (Settings.check_plainly _) fun _ => plainly_ok _

/-! ## Variables -/

/-- A text that cannot be read is a wrong value. -/
theorem VariableKind.read_error {kind : VariableKind} {text : String} {m : Misuse}
    (h : kind.read text = .error m) :
    m.label = "ValueError" := by
  cases kind with
  | integer =>
    simp only [VariableKind.read, integerOfText] at h
    split at h
    · cases h
    · cases h
      rfl
    · cases h
      rfl
  | decimal =>
    simp only [VariableKind.read, doubleOfText] at h
    split at h
    · cases h
    · cases h
      rfl
  | flag =>
    simp only [VariableKind.read] at h
    split_ifs at h
    cases h
    rfl
  | word => cases h
  | unavailable => cases h

namespace Settings

/-- A variable of the environment that cannot be read. -/
structure BadVariable (environment : List (String × String)) (fault : Fault) (setting text : String)
    (m : Misuse) : Prop where
  unreadable : ∃ kind, (setting, kind) ∈ variableKinds ∧ kind.read text = .error m
  found : environment.lookup (variableName setting) = some text
  label : m.label = "ValueError"
  reported : fault = .badSetting (.str (variableName setting)) (.str text) (.str m.message)

theorem ofEnvironment_error {environment : List (String × String)}
    {kinds : List (String × VariableKind)} {fault : Fault} (hkinds : kinds ⊆ variableKinds)
    (h : ofEnvironment environment kinds = .error fault) :
    ∃ setting text m, BadVariable environment fault setting text m := by
  induction kinds with
  | nil => cases h
  | cons first kinds ih =>
    obtain ⟨setting, kind⟩ := first
    obtain ⟨hfirst, hrest⟩ := List.cons_subset.1 hkinds
    simp only [ofEnvironment] at h
    split at h
    · exact ih hrest h
    · rename_i text htext
      split at h
      · rename_i m hread
        exact ⟨setting, text, m, ⟨kind, hfirst, hread⟩, htext, VariableKind.read_error hread,
          (Except.error.inj h).symm⟩
      · exact ih hrest h
      · obtain hfail | ⟨_, -, hfail⟩ := bind_eq_error.1 h
        · exact ih hrest hfail
        · cases hfail

/-! ## Refusals -/

/-- The files that settings are loaded from. -/
def documents (w : World) (home : Route) (file : Option Route) : List Route :=
  [home.child ".code-insight.toml", w.current.child "code-insight.toml"] ++ file.toList

/-- Why settings are not loaded. -/
inductive Refusal (w : World) (routes : List Route) : Fault → Prop where
  | missing {route : Route} (hroute : route ∈ routes) (hmissing : w.reaches route = .ok false) :
    Refusal w routes (.ofText s!"Config file not found: {route.text}")
  | document {route : Route} {f : Failure} (hroute : route ∈ routes)
    (hfound : w.reaches route = .ok true)
    (hread : readDocument w route = .error f) (front : String) :
    Refusal w routes (.ofText (front ++ f.message))
  | environment {setting text : String} {m : Misuse} {fault : Fault}
    (h : BadVariable w.environment fault setting text m) : Refusal w routes fault
  | thresholds {fields : List (String × Value)} {m : Misuse}
    (h : Thresholds.ofFields fields = .error m)
    (hplain : m.Plain) : Refusal w routes (.ofText ("Invalid [thresholds] config: " ++ m.message))
  | settings {fields : List (String × Value)} {t : Thresholds} {m : Misuse}
    (h : ofFields fields t = .error m)
    (hplain : m.Plain) : Refusal w routes (.ofText ("Invalid configuration: " ++ m.message))

/-- A refusal is a fault of the survey. -/
theorem Refusal.ancestry {w : World} {routes : List Route} {fault : Fault}
    (h : Refusal w routes fault) :
    "CodeInsightError" ∈ fault.ancestry := by
  cases h with
  | environment h =>
    obtain rfl := h.reported
    simp [Fault.ancestry, Fault.family, Fault.familyAncestry]
  | _ => exact .head _

/-- A computation gives a value with a property, or is refused. -/
def LoadsOrRefuses {α : Type} (w : World) (routes : List Route) (P : α → Prop)
    (x : Except Failure α) : Prop :=
  (∃ a, x = .ok a ∧ P a) ∨ ∃ fault, x = .error (.fault fault) ∧ Refusal w routes fault

section LoadsOrRefuses

variable {α β : Type} {w : World} {routes : List Route}

theorem loadsOrRefuses_ok {P : α → Prop} {a : α} (h : P a) : LoadsOrRefuses w routes P (.ok a) :=
  .inl ⟨a, rfl, h⟩

theorem loadsOrRefuses_fault {P : α → Prop} {fault : Fault} (h : Refusal w routes fault) :
    LoadsOrRefuses w routes P (.error (.fault fault)) := .inr ⟨fault, rfl, h⟩

theorem LoadsOrRefuses.bind {P : α → Prop} {Q : β → Prop} {x : Except Failure α}
    {f : α → Except Failure β} (hx : LoadsOrRefuses w routes P x)
    (hf : ∀ a, P a → LoadsOrRefuses w routes Q (f a)) :
    LoadsOrRefuses w routes Q (x >>= f) := by
  rcases hx with ⟨a, rfl, ha⟩ | ⟨fault, rfl, hfault⟩
  · exact hf a ha
  · exact loadsOrRefuses_fault hfault

end LoadsOrRefuses

/-! ## Documents -/

/-- A file that is there and can be read as settings. -/
def Present (w : World) (route : Route) (table : Toml.Table) : Prop :=
  ∃ data text, w.readBytes route = .ok data ∧ Text.Utf8.decodeStrict data = .ok text ∧
    Toml.read (Toml.joinBreaks text.toList) = .ok table

/-- What a file of settings says; nothing when it is not there. -/
def Says (w : World) (route : Route) (table : Toml.Table) : Prop :=
  (w.reaches route = .ok false ∧ table = []) ∨ Present w route table

theorem present_of_readDocument {w : World} {route : Route} {table : Toml.Table}
    (h : readDocument w route = .ok table) : Present w route table := by
  obtain ⟨data, hdata, h⟩ := bind_eq_ok.1 h
  split at h
  · cases h
  · rename_i text htext
    refine ⟨data, text, hdata, htext, ?_⟩
    dsimp only at h
    split at h
    · rename_i hread
      rw [hread, Except.ok.inj h]
    · cases h
    · cases h

section Documents

variable {w : World} {routes : List Route} {route : Route}

theorem explained_readDocument_spec (hroute : route ∈ routes) (hfound : w.reaches route = .ok true)
    (front : String) :
    LoadsOrRefuses w routes (Present w route) (explained front (readDocument w route)) := by
  cases hread : readDocument w route with
  | ok table => exact loadsOrRefuses_ok (present_of_readDocument hread)
  | error f => exact loadsOrRefuses_fault (.document hroute hfound hread front)

theorem optionalDocument_spec (hroute : route ∈ routes)
    (hanswer : ∃ found, w.reaches route = .ok found)
    (what : String) : LoadsOrRefuses w routes (Says w route) (optionalDocument w what route) := by
  obtain ⟨found, hfound⟩ := hanswer
  unfold optionalDocument
  rw [hfound]
  cases found with
  | false => exact loadsOrRefuses_ok (.inl ⟨hfound, rfl⟩)
  | true =>
    rcases explained_readDocument_spec hroute hfound s!"Invalid {what} config '{route.text}': " with
      ⟨table, htable, hpresent⟩ | hfault
    · exact .inl ⟨table, htable, .inr hpresent⟩
    · exact .inr hfault

theorem namedDocument_spec (hroute : route ∈ routes)
    (hanswer : ∃ found, w.reaches route = .ok found) :
    LoadsOrRefuses w routes (Present w route) (namedDocument w route) := by
  obtain ⟨found, hfound⟩ := hanswer
  unfold namedDocument
  rw [hfound]
  cases found with
  | false => exact loadsOrRefuses_fault (.missing hroute hfound)
  | true => exact explained_readDocument_spec hroute hfound _

end Documents

end Settings

end SourceSurvey
