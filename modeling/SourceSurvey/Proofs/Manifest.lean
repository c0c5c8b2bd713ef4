import SourceSurvey.Manifest
import SourceSurvey.Proofs.Json.Numeral
import SourceSurvey.Proofs.Trace
import SourceSurvey.Proofs.Value.Fields

/-!
# Reading manifests

A manifest that is there has one of three fates (`read_spec`).  It lists dependencies; or it cannot
be used (`Unusable`) and is refused with a reason; or it holds an integer with too many digits
(`Oversized`), which is not refused but a failure of its own.
-/

namespace SourceSurvey.Manifest

/-- The reader gives a manifest up at an integer with too many digits. -/
def Oversized (w : World) (route : Route) : Prop :=
  ∃ text n, readText w route = .ok text ∧ readJson text = .error (.misuse (.tooManyDigits n))

/-- A part of a manifest that should hold dependencies and is neither empty nor an object. -/
def BadPart (fields : List (String × Value)) (part : String) : Prop :=
  ∃ v, fields.lookup part = some v ∧ v.truthy = true ∧ v.kind ≠ .obj

/-- Why a manifest cannot be used. -/
inductive Unusable (w : World) (route : Route) : Prop where
  | unreadable {f : Failure} (h : w.readBytes route = .error f)
  | notUtf8 {data : ByteArray} {f : Text.Utf8.Fault} (hdata : w.readBytes route = .ok data)
      (h : Text.Utf8.decodeStrict data = .error f)
  | rejected {text : String} {f : Failure} (htext : readText w route = .ok text)
      (h : readJson text = .error f)
  | notObject {text : String} {v : Value} (htext : readText w route = .ok text)
      (hjson : readJson text = .ok v) (h : v.kind ≠ .obj)
  | badPart {text : String} {fields : List (String × Value)} {part scope : String}
      (htext : readText w route = .ok text) (hjson : readJson text = .ok (.obj fields))
      (hpart : (part, scope) ∈ sections) (h : BadPart fields part)

variable {w : World} {route : Route}

/-- A fault of a manifest, with some reason. -/
def Refused {α : Type} (route : Route) (x : Except Failure α) : Prop :=
  ∃ reason, x = .error (.fault (.manifest (.str route.text) (.str reason)))

theorem refused_refuse {α : Type} (route : Route) (reason : String) :
    Refused route (refuse route reason : Except Failure α) := ⟨reason, rfl⟩

/-! ## The text -/

/-- What is there but no file is a directory. -/
theorem readBytes_eq_error {f : Failure} (hfound : w.reaches route = .ok true)
    (h : w.readBytes route = .error f) : f = .unreachable .isDirectory route.text := by
  unfold World.readBytes Tree.readBytes at h
  unfold World.reaches Tree.reaches at hfound
  cases hfind : Tree.find w.top w.here route with
  | error obstacle => cases obstacle <;> simp [hfind] at hfound
  | ok node => cases node <;> simp_all

theorem reaches_of_readBytes {data : ByteArray} (h : w.readBytes route = .ok data) :
    w.reaches route = .ok true := by
  unfold World.readBytes Tree.readBytes at h
  unfold World.reaches Tree.reaches
  cases hfind : Tree.find w.top w.here route with
  | error obstacle => simp [hfind] at h
  | ok node => rfl

theorem readText_of_decoded {data : ByteArray} {text : String} (h : w.readBytes route = .ok data)
    (hutf8 : Text.Utf8.decodeStrict data = .ok text) :
    readText w route = .ok (String.ofList (unifyBreaks text.toList)) := by
  simp [readText, h, hutf8, bind, Except.bind, pure, Except.pure]

theorem readText_of_not_utf8 {data : ByteArray} {f : Text.Utf8.Fault}
    (h : w.readBytes route = .ok data) (hutf8 : Text.Utf8.decodeStrict data = .error f) :
    readText w route = .error (.notUtf8 f) := by
  simp [readText, h, hutf8, bind, Except.bind, throw, throwThe, MonadExceptOf.throw]

theorem readText_of_error {f : Failure} (h : w.readBytes route = .error f) :
    readText w route = .error f := by
  rw [readText, h]
  rfl

/-! ## The parts -/

/-- The dependencies of a part that is an object. -/
def entriesOf (scope : String) (part : List (String × Value)) : List DependencyEntry :=
  part.map fun (name, version) => ⟨.str name, .str version.text, .str scope, .null, .null⟩

/-- Nothing is known yet about vulnerabilities and newer releases. -/
def Unnoted (d : DependencyEntry) : Prop := d.vulnerabilities = .null ∧ d.outdated = .null

theorem unnoted_of_mem_entriesOf {scope : String} {part : List (String × Value)}
    {d : DependencyEntry} (h : d ∈ entriesOf scope part) : Unnoted d := by
  obtain ⟨⟨name, version⟩, -, rfl⟩ := List.mem_map.1 h
  exact ⟨rfl, rfl⟩

theorem sectionEntries_of_obj {fields entries : List (String × Value)} {part : String}
    (hpart : fields.lookup part = some (.obj entries)) (route : Route) (scope : String) :
    sectionEntries route fields part scope = .ok (entriesOf scope entries) := by
  rw [sectionEntries, hpart]
  cases entries <;> rfl

theorem sectionEntries_of_not_truthy {fields : List (String × Value)} {part : String}
    (h : ((fields.lookup part).getD .null).truthy = false) (route : Route) (scope : String) :
    sectionEntries route fields part scope = .ok [] := by
  rw [sectionEntries, h]
  rfl

theorem sectionEntries_of_badPart {fields : List (String × Value)} {part : String}
    (h : BadPart fields part) (route : Route) (scope : String) :
    Refused route (sectionEntries route fields part scope) := by
  obtain ⟨v, hpart, htruthy, hkind⟩ := h
  rw [sectionEntries, hpart, Option.getD_some, htruthy]
  cases v with
  | obj entries => exact absurd rfl hkind
  | _ => exact refused_refuse _ _

/-- A part is refused, or lists dependencies about which nothing is known yet. -/
theorem sectionEntries_spec (route : Route) (fields : List (String × Value)) (part scope : String) :
    (BadPart fields part ∧ Refused route (sectionEntries route fields part scope)) ∨
      (¬ BadPart fields part ∧ ∃ entries, sectionEntries route fields part scope = .ok entries ∧
        ∀ d ∈ entries, Unnoted d) := by
  by_cases hbad : BadPart fields part
  · exact .inl ⟨hbad, sectionEntries_of_badPart hbad route scope⟩
  refine .inr ⟨hbad, ?_⟩
  by_cases htruthy : ((fields.lookup part).getD .null).truthy = true
  · cases hpart : fields.lookup part with
    | none =>
      rw [hpart] at htruthy
      cases htruthy
    | some v =>
      rw [hpart] at htruthy
      have hkind : v.kind = .obj := by
        by_contra hkind
        exact hbad ⟨v, hpart, htruthy, hkind⟩
      obtain ⟨entries, hentries⟩ :=
        Option.ne_none_iff_exists.1 (mt Value.fields?_eq_none.1 (not_not.2 hkind))
      rw [Value.fields?_eq_some.1 hentries.symm] at hpart
      exact ⟨_, sectionEntries_of_obj hpart route scope, fun d hd => unnoted_of_mem_entriesOf hd⟩
  · exact ⟨[], sectionEntries_of_not_truthy (Bool.not_eq_true _ ▸ htruthy) route scope, by simp⟩

/-- The parts of a manifest together. -/
def partsOf (route : Route) (fields : List (String × Value)) :
    Except Failure (List (List DependencyEntry)) :=
  sections.mapM fun (part, scope) => sectionEntries route fields part scope

theorem partsOf_spec (route : Route) (fields : List (String × Value)) :
    ((∃ part scope, (part, scope) ∈ sections ∧ BadPart fields part) ∧
      Refused route (partsOf route fields)) ∨
      ((∀ part scope, (part, scope) ∈ sections → ¬ BadPart fields part) ∧
        ∃ parts, partsOf route fields = .ok parts ∧
          ∀ d ∈ parts.flatten, Unnoted d) := by
  cases hparts : partsOf route fields with
  | error f =>
    obtain ⟨⟨part, scope⟩, hmem, hfail⟩ := mapM_eq_error hparts
    rcases sectionEntries_spec route fields part scope with ⟨hbad, reason, hreason⟩ |
      ⟨-, entries, hok, -⟩
    · obtain rfl := Except.error.inj (hfail.symm.trans hreason)
      exact .inl ⟨⟨part, scope, hmem, hbad⟩, reason, rfl⟩
    · cases hfail.symm.trans hok
  | ok parts =>
    refine .inr ⟨?_, parts, rfl, ?_⟩
    · intro part scope hmem hbad
      obtain ⟨entries, -, hentries⟩ := exists_right_of_mapM hparts hmem
      obtain ⟨reason, hreason⟩ := sectionEntries_of_badPart hbad route scope
      cases hentries.symm.trans hreason
    · intro d hd
      obtain ⟨entries, hentries, hmem⟩ := List.mem_flatten.1 hd
      obtain ⟨⟨part, scope⟩, -, hpart⟩ := exists_left_of_mapM hparts hentries
      rcases sectionEntries_spec route fields part scope with ⟨-, reason, hreason⟩ |
        ⟨-, listed, hlisted, hnull⟩
      · cases hpart.symm.trans hreason
      · obtain rfl := Except.ok.inj (hpart.symm.trans hlisted)
        exact hnull d hmem

/-! ## The whole manifest -/

variable {decode : String → Except Failure Value}

theorem read_of_document_error {f : Failure} (h : readDocument w route decode = .error f) :
    read w route decode = .error f := by
  rw [read, h]
  rfl

theorem read_of_obj {fields : List (String × Value)}
    (h : readDocument w route decode = .ok (.obj fields)) :
    read w route decode = (partsOf route fields).map List.flatten := by
  rw [read, h]
  change (partsOf route fields >>= fun parts => pure parts.flatten) = _
  cases partsOf route fields <;> rfl

theorem read_of_not_obj {v : Value} (h : readDocument w route decode = .ok v)
    (hkind : v.kind ≠ .obj) :
    Refused route (read w route decode) := by
  rw [read, h]
  cases v with
  | obj fields => exact absurd rfl hkind
  | _ => exact refused_refuse _ _

/-- A manifest without a text is refused, unless its path cannot be a path. -/
theorem refused_of_no_text {f : Failure} (h : readText w route = .error f)
    (hzero : ∀ path, f ≠ .unreachable .zeroInPath path) : Refused route (read w route) := by
  refine ⟨"Cannot read manifest: " ++ f.message, read_of_document_error ?_⟩
  rw [readDocument, h]
  cases f with
  | unreachable obstacle path =>
    cases obstacle with
    | zeroInPath => exact absurd rfl (hzero path)
    | _ => rfl
  | _ => rfl

theorem readDocument_of_json {text : String} {v : Value} (htext : readText w route = .ok text)
    (hjson : readJson text = .ok v) : readDocument w route = .ok v := by
  simp only [readDocument, htext, hjson]

theorem readDocument_of_misuse {text : String} {m : Misuse} (htext : readText w route = .ok text)
    (hjson : readJson text = .error (.misuse m)) : readDocument w route = .error (.misuse m) := by
  simp only [readDocument, htext, hjson]

theorem refused_of_notJson {text : String} {document : List Char} {what : Json.Flaw} {left : Nat}
    (htext : readText w route = .ok text)
    (hjson : readJson text = .error (.notJson document what left)) :
    Refused route (read w route) := by
  have hrefused : Refused route (readDocument w route) := by
    simp only [readDocument, htext, hjson]
    exact refused_refuse _ _
  obtain ⟨reason, hreason⟩ := hrefused
  exact ⟨reason, read_of_document_error hreason⟩

theorem readJson_error {text : String} {f : Failure} (h : readJson text = .error f) :
    (∃ document what left, f = .notJson document what left) ∨
    ∃ n, f = .misuse (.tooManyDigits n) := by
  unfold readJson at h
  cases hread : Json.read text.toList with
  | ok v => simp [hread] at h
  | error fault => cases fault <;> simp [hread] at h <;> simp [← h]

theorem not_oversized {text : String} (htext : readText w route = .ok text)
    (hjson : ∀ n, readJson text ≠ .error (.misuse (.tooManyDigits n))) : ¬ Oversized w route := by
  rintro ⟨text', n, htext', hdigits⟩
  obtain rfl := Except.ok.inj (htext.symm.trans htext')
  exact hjson n hdigits

theorem not_oversized_of_no_text {f : Failure} (htext : readText w route = .error f) :
    ¬ Oversized w route := by
  rintro ⟨text, n, hsome, -⟩
  cases htext.symm.trans hsome

theorem unusable_of_oversized (h : Oversized w route) : Unusable w route := by
  obtain ⟨text, n, htext, hjson⟩ := h
  exact .rejected htext hjson

theorem reaches_of_readText {text : String} (h : readText w route = .ok text) :
    w.reaches route = .ok true := by
  cases hdata : w.readBytes route with
  | error f => cases h.symm.trans (readText_of_error hdata)
  | ok data => exact reaches_of_readBytes hdata

theorem reaches_of_read {records : List DependencyEntry} (h : read w route decode = .ok records) :
    w.reaches route = .ok true := by
  cases htext : readText w route with
  | error f =>
    have hdocument : ∃ f', readDocument w route decode = .error f' := by
      rw [readDocument, htext]
      cases f with
      | unreachable obstacle path => cases obstacle <;> exact ⟨_, rfl⟩
      | _ => exact ⟨_, rfl⟩
    obtain ⟨f', hf'⟩ := hdocument
    cases h.symm.trans (read_of_document_error hf')
  | ok text => exact reaches_of_readText htext

theorem reaches_of_oversized (h : Oversized w route) : w.reaches route = .ok true := by
  obtain ⟨text, n, htext, -⟩ := h
  exact reaches_of_readText htext

/-- A manifest that is an object is of use when none of its parts is a bad one. -/
theorem not_unusable {text : String} {fields : List (String × Value)}
    (htext : readText w route = .ok text) (hjson : readJson text = .ok (.obj fields))
    (hgood : ∀ part scope, (part, scope) ∈ sections → ¬ BadPart fields part) :
    ¬ Unusable w route := by
  have huniq : ∀ {t}, readText w route = .ok t → t = text :=
    fun ht => Except.ok.inj (ht.symm.trans htext)
  intro hunusable
  cases hunusable with
  | unreadable h => cases htext.symm.trans (readText_of_error h)
  | notUtf8 hdata h => cases htext.symm.trans (readText_of_not_utf8 hdata h)
  | rejected ht h =>
    rw [huniq ht, hjson] at h
    cases h
  | notObject ht hv h =>
    rw [huniq ht, hjson] at hv
    cases hv
    exact h rfl
  | badPart ht hv hmem h =>
    rw [huniq ht, hjson] at hv
    cases hv
    exact hgood _ _ hmem h

/-- The fates of a manifest that has a text. -/
theorem read_spec_of_text {text : String} (htext : readText w route = .ok text) :
    (Oversized w route ∧ ∃ n, read w route = .error (.misuse (.tooManyDigits n))) ∨
      (¬ Oversized w route ∧ Unusable w route ∧ Refused route (read w route)) ∨
      (¬ Unusable w route ∧ ∃ records, read w route = .ok records ∧ ∀ d ∈ records, Unnoted d) := by
  cases hjson : readJson text with
  | error f =>
    rcases readJson_error hjson with ⟨document, what, left, rfl⟩ | ⟨n, rfl⟩
    · have hoversized : ¬ Oversized w route := not_oversized htext (by simp [hjson])
      exact .inr (.inl ⟨hoversized, .rejected htext hjson, refused_of_notJson htext hjson⟩)
    · exact .inl ⟨⟨text, n, htext, hjson⟩, n,
        read_of_document_error (readDocument_of_misuse htext hjson)⟩
  | ok v =>
    have hoversized : ¬ Oversized w route := not_oversized htext (by simp [hjson])
    have hdocument := readDocument_of_json htext hjson
    cases hfields : v.fields? with
    | none =>
      have hkind := Value.fields?_eq_none.1 hfields
      exact .inr (.inl ⟨hoversized, .notObject htext hjson hkind, read_of_not_obj hdocument hkind⟩)
    | some fields =>
      obtain rfl := Value.fields?_eq_some.1 hfields
      rw [read_of_obj hdocument]
      rcases partsOf_spec route fields with
        ⟨⟨part, scope, hmem, hbad⟩, reason, hreason⟩ | ⟨hgood, parts, hparts, hnull⟩
      · refine .inr (.inl ⟨hoversized, .badPart htext hjson hmem hbad, reason, ?_⟩)
        rw [hreason]
        rfl
      · refine .inr (.inr ⟨not_unusable htext hjson hgood, parts.flatten, ?_, hnull⟩)
        rw [hparts]
        rfl

/-- **The fates of a manifest that is there.**  It fails at an integer with too many digits, or it
cannot be used and is refused, or it lists dependencies. -/
theorem read_spec (hfound : w.reaches route = .ok true) :
    (Oversized w route ∧ ∃ n, read w route = .error (.misuse (.tooManyDigits n))) ∨
      (¬ Oversized w route ∧ Unusable w route ∧ Refused route (read w route)) ∨
      (¬ Unusable w route ∧ ∃ records, read w route = .ok records ∧ ∀ d ∈ records, Unnoted d) := by
  cases hdata : w.readBytes route with
  | error f =>
    have htext := readText_of_error hdata
    have hrefused : Refused route (read w route) := by
      refine refused_of_no_text htext ?_
      rw [readBytes_eq_error hfound hdata]
      simp
    exact .inr (.inl ⟨not_oversized_of_no_text htext, .unreadable hdata, hrefused⟩)
  | ok data =>
    cases hutf8 : Text.Utf8.decodeStrict data with
    | error f =>
      have htext := readText_of_not_utf8 hdata hutf8
      have hrefused : Refused route (read w route) := refused_of_no_text htext (by simp)
      exact .inr (.inl ⟨not_oversized_of_no_text htext, .notUtf8 hdata hutf8, hrefused⟩)
    | ok decoded => exact read_spec_of_text (readText_of_decoded hdata hutf8)

/-- The dependencies of a manifest that is read have no notes yet. -/
theorem unnoted_of_read {records : List DependencyEntry} (h : read w route decode = .ok records) :
    ∀ d ∈ records, Unnoted d := by
  obtain ⟨v, hv, -⟩ := bind_eq_ok.1 h
  cases hfields : v.fields? with
  | none =>
    obtain ⟨reason, hreason⟩ := read_of_not_obj hv (Value.fields?_eq_none.1 hfields)
    cases h.symm.trans hreason
  | some fields =>
    obtain rfl := Value.fields?_eq_some.1 hfields
    rw [read_of_obj hv, map_eq_ok] at h
    obtain ⟨parts, hparts, rfl⟩ := h
    rcases partsOf_spec route fields with ⟨-, reason, hreason⟩ | ⟨-, parts', hok, hall⟩
    · cases hparts.symm.trans hreason
    · obtain rfl := Except.ok.inj (hparts.symm.trans hok)
      exact hall

/-! ## A manifest of ones -/

/-- Bytes below 0x80 are characters of their own. -/
theorem decodeStrictFrom_ascii {data : ByteArray}
    (h : ∀ b ∈ data.data.toList, b.toNat < 0x80) (pos : ℕ) (out : String) :
    Text.Utf8.decodeStrictFrom data pos out =
      .ok (out ++ String.ofList ((data.data.toList.drop pos).map fun b => Char.ofNat b.toNat)) := by
  induction hleft : data.size - pos generalizing pos out with
  | zero =>
    have hend : data.data.toList.drop pos = [] := List.drop_eq_nil_of_le (by
      rw [Array.length_toList]
      exact Nat.sub_eq_zero_iff_le.1 hleft)
    rw [Text.Utf8.decodeStrictFrom, dif_neg (by omega), hend]
    simp
  | succ left ih =>
    have hpos : pos < data.size := by omega
    have hdrop : data.data.toList.drop pos = data[pos] :: data.data.toList.drop (pos + 1) :=
      List.drop_eq_getElem_cons (by rw [Array.length_toList]; exact hpos)
    have hbyte : data[pos].toNat < 0x80 := h _ (List.mem_of_mem_drop (hdrop ▸ List.mem_cons_self))
    have hstep : Text.Utf8.step data pos data[pos].toNat = .char (Char.ofNat data[pos].toNat) 1 :=
      if_pos hbyte
    have hnext := ih (pos + 1) (out.push (Char.ofNat data[pos].toNat)) (by omega)
    rw [Text.Utf8.decodeStrictFrom, dif_pos hpos, hstep]
    refine hnext.trans ?_
    rw [hdrop, List.map_cons, String.ofList_cons, ← String.append_assoc, String.append_singleton]

theorem unifyBreaks_of_not_mem {cs : List Char} (h : '\r' ∉ cs) : unifyBreaks cs = cs := by
  induction cs with
  | nil => rfl
  | cons c cs ih =>
    rw [List.mem_cons, not_or] at h
    rw [unifyBreaks, ih h.2]
    · rintro rest rfl
      exact absurd rfl h.1
    · rintro rfl
      exact absurd rfl h.1

/-- Ones alone are a numeral, which has too many digits when there are too many ones. -/
theorem readJson_ones {n : ℕ} (h : Text.digitLimit < n) :
    readJson (String.ofList (List.replicate n '1')) = .error (.misuse (.tooManyDigits n)) := by
  cases n with
  | zero => cases h
  | succ n =>
    have hwhole : Json.Whole (List.replicate (n + 1) '1') := by
      refine .inr ⟨?_, by simp, by simp [List.replicate_succ]⟩
      intro c hc
      rw [List.eq_of_mem_replicate hc]
      rfl
    have hnumber := Json.readNumber_tooManyDigits hwhole (by simp [Text.Closed] : Text.Closed [])
      (by simpa using h) false
    rw [List.append_nil, List.length_replicate] at hnumber
    have hword : Json.readWord? (List.replicate (n + 1) '1') = none := by
      simp [Json.readWord?, Json.words, List.replicate_succ]
    have hvalue : ∀ fuel,
        Json.readValue (fuel + 1) (List.replicate (n + 1) '1') =
          .error (.tooManyDigits (n + 1)) := by
      intro fuel
      rw [List.replicate_succ] at hword hnumber ⊢
      rw [Json.readValue, hword]
      · exact hnumber
      all_goals simp
    have hread : Json.read (List.replicate (n + 1) '1') = .error (.tooManyDigits (n + 1)) := by
      refine bind_eq_error.2 (.inl ?_)
      exact hvalue _
    rw [readJson, String.toList_ofList, hread]

theorem readText_ones {n : ℕ} (hdata : w.readBytes route = .ok ⟨Array.replicate n 0x31⟩) :
    readText w route = .ok (String.ofList (List.replicate n '1')) := by
  have hdecoded : Text.Utf8.decodeStrict ⟨Array.replicate n 0x31⟩ =
      .ok (String.ofList (List.replicate n '1')) := by
    refine (decodeStrictFrom_ascii ?_ 0 "").trans ?_
    · intro b hb
      rw [Array.toList_replicate] at hb
      rw [List.eq_of_mem_replicate hb]
      decide
    · rw [Array.toList_replicate, List.drop_zero, List.map_replicate, String.empty_append]
      rfl
  have hbreaks : unifyBreaks (List.replicate n '1') = List.replicate n '1' := by
    refine unifyBreaks_of_not_mem fun h => ?_
    exact absurd (List.eq_of_mem_replicate h) (by decide)
  rw [readText_of_decoded hdata hdecoded, String.toList_ofList, hbreaks]

/-- A manifest of too many ones fails. -/
theorem read_ones {n : ℕ} (hdata : w.readBytes route = .ok ⟨Array.replicate n 0x31⟩)
    (h : Text.digitLimit < n) : read w route = .error (.misuse (.tooManyDigits n)) :=
  read_of_document_error (readDocument_of_misuse (readText_ones hdata) (readJson_ones h))

end SourceSurvey.Manifest
