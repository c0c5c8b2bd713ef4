import SourceSurvey.Proofs.Json.Reading
import SourceSurvey.Proofs.Report.RoundTrip

/-!
# Reports read from any text

A text that is read as a report may give its fields in any order and some of them twice, hold fields
that no report has, leave others out, and have values of any kind in its leaves.  Written again it
has its normal form: that text is read as the same report, and so it is written as it stands
(`Report.normalize_stable`).

What a part of a report takes from a storable value is storable (`Storable.field`,
`Storable.fieldOr`, `Storable.members`), and so is the part itself, written as an object
(`storable_of_ofValue`).
-/

namespace SourceSurvey

open Json (Storable HeldIn ListsWithin)

/-! ## Parts of storable values -/

namespace Json

variable {v x : Value} {key : String}

theorem Storable.field (h : Storable v) (hx : v.field key = .ok x) : Storable x := by
  cases h with
  | obj distinct each =>
    rename_i fields
    unfold Value.field at hx
    dsimp only at hx
    split at hx
    · rename_i hlookup
      obtain rfl := Except.ok.inj hx
      exact each _ (Value.mem_of_lookup hlookup)
    · cases hx
  | _ => cases hx

theorem Storable.fieldOr {default : Value} (h : Storable v) (hdefault : Storable default)
    (hx : v.fieldOr key default = .ok x) : Storable x := by
  cases h with
  | obj distinct each =>
    rename_i fields
    obtain rfl := Except.ok.inj hx
    cases hlookup : fields.lookup key with
    | none => exact hdefault
    | some x => exact each _ (Value.mem_of_lookup hlookup)
  | _ => cases hx

theorem Storable.members {items : List Value} (h : Storable v) (hitems : v.members = .ok items) :
    ∀ x ∈ items, Storable x := by
  intro x hx
  cases h with
  | list each =>
    obtain rfl := Except.ok.inj hitems
    exact each x hx
  | str s =>
    obtain rfl := Except.ok.inj hitems
    obtain ⟨c, -, rfl⟩ := List.mem_map.1 hx
    exact .str _
  | obj distinct each =>
    obtain rfl := Except.ok.inj hitems
    obtain ⟨f, -, rfl⟩ := List.mem_map.1 hx
    exact .str _
  | _ => cases hitems

theorem storable_nil : Storable (.list []) := .list (by simp)

theorem storable_ofNat {n : ℕ} (h : n < 10 ^ Text.digitLimit) : Storable (.ofNat n) := by
  refine .int ?_
  rw [Int.natAbs_natCast, Nat.length_toDigits_le_iff (by norm_num) (by norm_num [Text.digitLimit])]
  exact h

theorem storable_zero : Storable (.int 0) := storable_ofNat (Nat.pow_pos (by norm_num))

theorem ListsWithin.fieldOr {n : ℕ} {default : Value} (h : ListsWithin n v)
    (hdefault : ListsWithin n default) (hx : v.fieldOr key default = .ok x) : ListsWithin n x := by
  cases h with
  | obj each =>
    rename_i fields
    obtain rfl := Except.ok.inj hx
    cases hlookup : fields.lookup key with
    | none => exact hdefault
    | some x => exact each _ (Value.mem_of_lookup hlookup)
  | list => cases hx
  | leaf hlist hobj =>
    cases v with
    | obj => exact absurd rfl hobj
    | _ => cases hx

end Json

/-! ## Parts of reports -/

theorem storable_readMembers {α : Type} {read : Value → Except Misuse α} {write : α → Value}
    (hread : ∀ {v x}, Storable v → read v = .ok x → Storable (write x)) {v : Value} {xs : List α}
    (h : Storable v) (hxs : readMembers read v = .ok xs) : Storable (.list (xs.map write)) := by
  obtain ⟨items, hitems, hxs⟩ := bind_eq_ok.1 hxs
  refine storable_map fun x hx => ?_
  obtain ⟨item, hitem, hx⟩ := exists_left_of_mapM hxs hx
  exact hread (h.members hitems item hitem) hx

theorem FunctionEntry.storable_of_ofValue {v : Value} {e : FunctionEntry} (hv : Storable v)
    (h : ofValue v = .ok e) : Storable e.toValue := by
  obtain ⟨name, hname, h⟩ := bind_eq_ok.1 h
  obtain ⟨complexity, hcomplexity, h⟩ := bind_eq_ok.1 h
  obtain ⟨line, hline, h⟩ := bind_eq_ok.1 h
  obtain rfl := Except.ok.inj h
  exact .obj (by simp) (by simpa using ⟨hv.field hname, hv.field hcomplexity, hv.field hline⟩)

theorem ComplexityEntry.storable_of_ofValue {v : Value} {e : ComplexityEntry} (hv : Storable v)
    (h : ofValue v = .ok e) : Storable e.toValue := by
  obtain ⟨file, hfile, h⟩ := bind_eq_ok.1 h
  obtain ⟨average, haverage, h⟩ := bind_eq_ok.1 h
  obtain ⟨members, hmembers, h⟩ := bind_eq_ok.1 h
  obtain ⟨functions, hfunctions, h⟩ := bind_eq_ok.1 h
  obtain ⟨rating, hrating, h⟩ := bind_eq_ok.1 h
  obtain rfl := Except.ok.inj h
  have hlist :=
    storable_readMembers FunctionEntry.storable_of_ofValue (hv.fieldOr Json.storable_nil hmembers)
    hfunctions
  exact .obj (by simp) (by simpa using ⟨hv.field hfile, hv.field haverage, hlist, hv.field hrating⟩)

theorem IssueEntry.storable_of_ofValue {v : Value} {e : IssueEntry} (hv : Storable v)
    (h : ofValue v = .ok e) : Storable e.toValue := by
  obtain ⟨category, hcategory, h⟩ := bind_eq_ok.1 h
  obtain ⟨severity, hseverity, h⟩ := bind_eq_ok.1 h
  obtain ⟨message, hmessage, h⟩ := bind_eq_ok.1 h
  obtain ⟨line, hline, h⟩ := bind_eq_ok.1 h
  obtain ⟨rule, hrule, h⟩ := bind_eq_ok.1 h
  obtain rfl := Except.ok.inj h
  exact .obj (by simp) (by simpa using ⟨hv.field hcategory, hv.field hseverity,
    hv.fieldOr .null hline, hv.field hmessage, hv.fieldOr .null hrule⟩)

theorem SecurityEntry.storable_of_ofValue {v : Value} {e : SecurityEntry} (hv : Storable v)
    (h : ofValue v = .ok e) : Storable e.toValue := by
  obtain ⟨file, hfile, h⟩ := bind_eq_ok.1 h
  obtain ⟨members, hmembers, h⟩ := bind_eq_ok.1 h
  obtain ⟨issues, hissues, h⟩ := bind_eq_ok.1 h
  obtain ⟨score, hscore, h⟩ := bind_eq_ok.1 h
  obtain rfl := Except.ok.inj h
  have hlist :=
    storable_readMembers IssueEntry.storable_of_ofValue
    (hv.fieldOr Json.storable_nil hmembers) hissues
  exact .obj (by simp) (by simpa using ⟨hv.field hfile, hlist, hv.field hscore⟩)

theorem Location.storable_of_ofValue {v : Value} {l : Location} (hv : Storable v)
    (h : ofValue v = .ok l) :
    Storable l.toValue := by
  obtain ⟨file, hfile, h⟩ := bind_eq_ok.1 h
  obtain ⟨startLine, hstart, h⟩ := bind_eq_ok.1 h
  obtain ⟨endLine, hend, h⟩ := bind_eq_ok.1 h
  obtain rfl := Except.ok.inj h
  exact .obj (by simp) (by simpa using ⟨hv.field hfile, hv.field hstart, hv.field hend⟩)

theorem FragmentEntry.storable_of_ofValue {v : Value} {e : FragmentEntry} (hv : Storable v)
    (h : ofValue v = .ok e) : Storable e.toValue := by
  obtain ⟨one, hone, h⟩ := bind_eq_ok.1 h
  obtain ⟨first, hfirst, h⟩ := bind_eq_ok.1 h
  obtain ⟨two, htwo, h⟩ := bind_eq_ok.1 h
  obtain ⟨second, hsecond, h⟩ := bind_eq_ok.1 h
  obtain ⟨lines, hlines, h⟩ := bind_eq_ok.1 h
  obtain ⟨similarity, hsimilarity, h⟩ := bind_eq_ok.1 h
  obtain rfl := Except.ok.inj h
  exact .obj (by simp) (by simpa using ⟨Location.storable_of_ofValue (hv.field hone) hfirst,
    Location.storable_of_ofValue (hv.field htwo) hsecond, hv.field hlines, hv.field hsimilarity⟩)

theorem DuplicationPart.storable_of_ofValue {v : Value} {p : DuplicationPart} (hv : Storable v)
    (h : ofValue v = .ok p) : Storable p.toValue := by
  obtain ⟨members, hmembers, h⟩ := bind_eq_ok.1 h
  obtain ⟨fragments, hfragments, h⟩ := bind_eq_ok.1 h
  obtain ⟨totalLines, htotal, h⟩ := bind_eq_ok.1 h
  obtain ⟨percentage, hpercentage, h⟩ := bind_eq_ok.1 h
  obtain rfl := Except.ok.inj h
  have hlist :=
    storable_readMembers FragmentEntry.storable_of_ofValue (hv.fieldOr Json.storable_nil hmembers)
    hfragments
  exact .obj (by simp) (by simpa using
    ⟨hlist, hv.fieldOr Json.storable_zero htotal, hv.fieldOr (.float _) hpercentage⟩)

theorem DependencyEntry.storable_of_ofValue {v : Value} {e : DependencyEntry} (hv : Storable v)
    (h : ofValue v = .ok e) : Storable e.toValue := by
  obtain ⟨name, hname, h⟩ := bind_eq_ok.1 h
  obtain ⟨version, hversion, h⟩ := bind_eq_ok.1 h
  obtain ⟨scope, hscope, h⟩ := bind_eq_ok.1 h
  obtain ⟨vulnerabilities, hvulnerabilities, h⟩ := bind_eq_ok.1 h
  obtain ⟨outdated, houtdated, h⟩ := bind_eq_ok.1 h
  obtain rfl := Except.ok.inj h
  exact .obj (by simp) (by simpa using ⟨hv.field hname, hv.field hversion, hv.field hscope,
    hv.fieldOr .null hvulnerabilities, hv.fieldOr .null houtdated⟩)

/-- Only a list has members that are dependencies, so there are no more of them than a list has
items. -/
theorem DependencyPart.length_le_of_ofValue {n : ℕ} {v : Value} {p : DependencyPart}
    (hv : ListsWithin n v) (h : ofValue v = .ok p) : p.dependencies.length ≤ n := by
  obtain ⟨members, hmembers, h⟩ := bind_eq_ok.1 h
  obtain ⟨dependencies, hdependencies, h⟩ := bind_eq_ok.1 h
  obtain ⟨locked, hlocked, h⟩ := bind_eq_ok.1 h
  obtain rfl := Except.ok.inj h
  obtain ⟨items, hitems, hread⟩ := bind_eq_ok.1 hdependencies
  have hlength : items.length = dependencies.length := (mapM_eq_ok.1 hread).length_eq
  -- the members of a text and of an object are texts, which have no fields
  have htexts : (∀ x ∈ items, ∃ s, x = .str s) → dependencies.length ≤ n := by
    intro htext
    cases items with
    | nil => exact hlength ▸ Nat.zero_le n
    | cons x items =>
      obtain ⟨s, rfl⟩ := htext _ List.mem_cons_self
      obtain ⟨e, -, he⟩ := exists_right_of_mapM hread List.mem_cons_self
      cases he
  have hnil : ListsWithin n (.list []) := .list (Nat.zero_le n) (by simp)
  cases hv.fieldOr hnil hmembers with
  | list length each =>
    obtain rfl := Except.ok.inj hitems
    exact hlength ▸ length
  | obj each =>
    obtain rfl := Except.ok.inj hitems
    refine htexts fun x hx => ?_
    obtain ⟨f, -, rfl⟩ := List.mem_map.1 hx
    exact ⟨f.1, rfl⟩
  | leaf hlist hobj =>
    cases members with
    | str s =>
      obtain rfl := Except.ok.inj hitems
      refine htexts fun x hx => ?_
      obtain ⟨c, -, rfl⟩ := List.mem_map.1 hx
      exact ⟨_, rfl⟩
    | list => exact absurd rfl hlist
    | obj => exact absurd rfl hobj
    | _ => cases hitems

theorem DependencyPart.storable_of_ofValue {v : Value} {p : DependencyPart} (hv : Storable v)
    (h : ofValue v = .ok p) (hcount : p.dependencies.length < 10 ^ Text.digitLimit) :
    Storable p.toValue := by
  obtain ⟨members, hmembers, h⟩ := bind_eq_ok.1 h
  obtain ⟨dependencies, hdependencies, h⟩ := bind_eq_ok.1 h
  obtain ⟨locked, hlocked, h⟩ := bind_eq_ok.1 h
  obtain rfl := Except.ok.inj h
  have hlist :=
    storable_readMembers DependencyEntry.storable_of_ofValue (hv.fieldOr Json.storable_nil hmembers)
    hdependencies
  exact .obj (by simp) (by simpa using ⟨hlist, Json.storable_ofNat hcount,
    hv.fieldOr (.bool _) hlocked⟩)

theorem Summary.storable_of_ofValue {v : Value} {s : Summary} (hv : Storable v)
    (h : ofValue v = .ok s) :
    Storable s.toValue := by
  obtain ⟨files, hfiles, h⟩ := bind_eq_ok.1 h
  obtain ⟨highComplexity, hhigh, h⟩ := bind_eq_ok.1 h
  obtain ⟨issues, hissues, h⟩ := bind_eq_ok.1 h
  obtain ⟨criticalIssues, hcritical, h⟩ := bind_eq_ok.1 h
  obtain ⟨duplicationRate, hrate, h⟩ := bind_eq_ok.1 h
  obtain rfl := Except.ok.inj h
  have hzero := Json.storable_zero
  exact .obj (by simp) (by simpa using ⟨hv.fieldOr hzero hfiles, hv.fieldOr hzero hhigh,
    hv.fieldOr hzero hissues, hv.fieldOr hzero hcritical, hv.fieldOr (.float _) hrate⟩)

theorem Report.storable_of_ofValue {n : ℕ} {v : Value} {r : Report} (hv : HeldIn n v)
    (hn : n < 10 ^ Text.digitLimit) (h : ofValue v = .ok r) : Storable r.toValue := by
  obtain ⟨hv, hlists⟩ := hv
  have hnone : Storable (.obj []) := .obj (by simp) (by simp)
  obtain ⟨project, hproject, h⟩ := bind_eq_ok.1 h
  obtain ⟨timestamp, htimestamp, h⟩ := bind_eq_ok.1 h
  obtain ⟨files, hfiles, h⟩ := bind_eq_ok.1 h
  obtain ⟨complexity, hcomplexity, h⟩ := bind_eq_ok.1 h
  obtain ⟨findings, hfindings, h⟩ := bind_eq_ok.1 h
  obtain ⟨security, hsecurity, h⟩ := bind_eq_ok.1 h
  obtain ⟨clones, hclones, h⟩ := bind_eq_ok.1 h
  obtain ⟨duplication, hduplication, h⟩ := bind_eq_ok.1 h
  obtain ⟨manifest, hmanifest, h⟩ := bind_eq_ok.1 h
  obtain ⟨dependencies, hdependencies, h⟩ := bind_eq_ok.1 h
  obtain ⟨counts, hcounts, h⟩ := bind_eq_ok.1 h
  obtain ⟨summary, hsummary, h⟩ := bind_eq_ok.1 h
  obtain ⟨advice, hadvice, h⟩ := bind_eq_ok.1 h
  obtain ⟨recommendations, hrecommendations, h⟩ := bind_eq_ok.1 h
  obtain rfl := Except.ok.inj h
  have hlength :=
    DependencyPart.length_le_of_ofValue (hlists.fieldOr (.obj (by simp)) hmanifest) hdependencies
  exact .obj (by simp [Report.fields])
    (by simpa [Report.fields] using ⟨hv.field hproject, hv.field htimestamp,
      storable_readMembers ComplexityEntry.storable_of_ofValue
        (hv.fieldOr Json.storable_nil hfiles) hcomplexity,
    storable_readMembers SecurityEntry.storable_of_ofValue
      (hv.fieldOr Json.storable_nil hfindings) hsecurity,
    DuplicationPart.storable_of_ofValue (hv.fieldOr hnone hclones) hduplication,
    DependencyPart.storable_of_ofValue (hv.fieldOr hnone hmanifest) hdependencies
      (hlength.trans_lt hn),
    Summary.storable_of_ofValue (hv.fieldOr hnone hcounts) hsummary,
    .list ((hv.fieldOr Json.storable_nil hadvice).members hrecommendations)⟩)

/-! ## Texts -/

namespace Report

/-- A report that is read from a text and written again. -/
def normalize (indent : Option Int) (text : String) : Except Failure String :=
  (ofJson text).map (·.toJson indent)

/-- A report from a text is read from its own text again. -/
theorem ofJson_toJson_of_ofJson {text : String} {r : Report}
    (hsize : text.length < 10 ^ Text.digitLimit) (h : ofJson text = .ok r)
    (indent : Option Int) : ofJson (r.toJson indent) = .ok r := by
  obtain ⟨v, hv, hr⟩ := bind_eq_ok.1 h
  have hheld : HeldIn text.length v := by
    unfold readJson at hv
    split at hv
    · rename_i hread
      obtain rfl := Except.ok.inj hv
      exact Json.heldIn_of_read hread
    · cases hv
    · cases hv
  have hstorable := storable_of_ofValue hheld hsize (orFail_ok.1 hr)
  exact bind_eq_ok.2 ⟨r.toValue, readJson_write hstorable indent, orFail_ok.2 (ofValue_toValue r)⟩

/-- **Writing a report that was read from a text gives a normal form: the text that is written is
read as the same report, and written again it stays as it is.**  The text is bounded because the
number of its dependencies is written too, and an integer is read with up to `Text.digitLimit`
digits only. -/
theorem normalize_stable {text written : String} {indent : Option Int}
    (hsize : text.length < 10 ^ Text.digitLimit) (h : normalize indent text = .ok written) :
    ofJson written = ofJson text ∧ normalize indent written = .ok written := by
  obtain ⟨r, hr, rfl⟩ := map_eq_ok.1 h
  have hwritten := ofJson_toJson_of_ofJson hsize hr indent
  exact ⟨hwritten.trans hr.symm, map_eq_ok.2 ⟨r, hwritten, rfl⟩⟩

/-- A text with a field given twice and one that no report has, with a text and an object where
lists are expected, a wrong number of dependencies, and values of other kinds in its leaves. -/
def loose : String :=
  "\x7b\"timestamp\":NaN,\"projectPath\":1,\"projectPath\":[-0],\"x\":0,\"security\":\x7b\x7d,
  \"dependencies\":\x7b\"dependencyCount\":7\x7d,\"recommendations\":\"ab\"\x7d"

/-- The report that is read from `loose`. -/
def ofLoose : Report where
  project := .list [.int 0]
  timestamp := .float .nan
  complexity := []
  security := []
  duplication := .empty
  dependencies := .empty
  summary := .empty
  recommendations := [.str "a", .str "b"]

theorem normalize_stable_loose : normalize (some 2) loose = .ok (ofLoose.toJson (some 2)) ∧
    ofJson (ofLoose.toJson (some 2)) = ofJson loose ∧
      normalize (some 2) (ofLoose.toJson (some 2)) = .ok (ofLoose.toJson (some 2)) := by
  obtain ⟨hsize, hread⟩ : loose.length < 10 ^ Text.digitLimit ∧
      (ofJson loose).toOption = some ofLoose := by
    decide +kernel
  have hwritten : normalize (some 2) loose = .ok (ofLoose.toJson (some 2)) :=
    map_eq_ok.2 ⟨ofLoose, toOption_eq_some.1 hread, rfl⟩
  exact ⟨hwritten, normalize_stable hsize hwritten⟩

end Report

end SourceSurvey
