import SourceSurvey.Proofs.Audit.Answer
import SourceSurvey.Proofs.Manifest

/-!
# Outcomes of an audit

An audit looks for lock files, reads the manifest and asks about the dependencies.  Lock files and
manifest are looked for by `World.reaches`, which fails at names that are too long alone; a manifest
that cannot be used is noted in a warning (`listed_of_refused`); and the questions never stop an
audit (`Auditor.enrich_outcome`).  So an audit reports what it should unless a name is too long or
the manifest has an integer with too many digits (`audit_reports_iff`).
-/

namespace SourceSurvey

open Audit Manifest

variable {w : World} {project : Route}

/-! ## Lock files -/

theorem hasLockFile_ok {names : List String} {locked : Bool}
    (h : hasLockFile w project names = .ok locked) :
    locked = true ↔ ∃ name ∈ names, w.reaches (project.join (Route.ofText name)) = .ok true := by
  induction names with
  | nil =>
    obtain rfl := Except.ok.inj h
    simp
  | cons name rest ih =>
    rw [hasLockFile, bind_eq_ok] at h
    obtain ⟨found, hfound, h⟩ := h
    cases found with
    | true =>
      obtain rfl : true = locked := Except.ok.inj h
      exact iff_of_true rfl ⟨name, List.mem_cons_self, hfound⟩
    | false =>
      rw [ih h]
      simp [hfound]

/-! ## Dependencies -/

namespace Auditor

variable {decode : String → Except Failure Value}

theorem listed_of_missing (h : w.reaches (project.child fileName) = .ok false) :
    listed w project = ⟨[], .ok []⟩ := by
  rw [listed, h]
  rfl

theorem listed_of_found (h : w.reaches (project.child fileName) = .ok true) :
    listed w project decode =
      (liftM (Manifest.read w (project.child fileName) decode) : Traced _).rescue fun
      | .fault (.manifest path reason) => some do
        Traced.log .warning (Fault.manifest path reason).text
        return []
      | _ => none := by
  rw [listed, h]
  rfl

theorem listed_of_read {records : List DependencyEntry}
    (h : w.reaches (project.child fileName) = .ok true)
    (hread : Manifest.read w (project.child fileName) decode = .ok records) :
    listed w project decode = ⟨[], .ok records⟩ := by
  rw [listed_of_found h, hread]
  exact Traced.rescue_of_ok rfl _

/-- A manifest that is refused leaves a warning and no dependencies. -/
theorem listed_of_refused (h : w.reaches (project.child fileName) = .ok true)
    (hread : Refused (project.child fileName) (Manifest.read w (project.child fileName))) :
    ∃ message, listed w project = ⟨[.log .warning message], .ok []⟩ := by
  obtain ⟨reason, hreason⟩ := hread
  rw [listed_of_found h, hreason]
  exact ⟨_, rfl⟩

theorem listed_of_misuse {m : Misuse} (h : w.reaches (project.child fileName) = .ok true)
    (hread : Manifest.read w (project.child fileName) = .error (.misuse m)) :
    listed w project = ⟨[], .error (.misuse m)⟩ := by
  rw [listed_of_found h, hread]
  exact Traced.rescue_of_none rfl rfl

/-! ## The whole audit -/

/-- An audit puts the lock files and the dependencies together. -/
theorem audit_eq {a : Auditor} {path : String} {locked : Bool} {trail : List Event}
    {dependencies : List DependencyEntry}
    (hlocked : hasLockFile w (Route.ofText path) a.lockFiles = .ok locked)
    (hlisted : listed w (Route.ofText path) decode = ⟨trail, .ok dependencies⟩) :
    a.audit w path decode =
      ⟨trail ++ (a.enrich w (Route.ofText path) dependencies decode).trail,
        (a.enrich w (Route.ofText path) dependencies decode).outcome.map fun annotated =>
          ⟨annotated, .bool locked⟩⟩ := by
  rw [audit, hlocked, hlisted, Traced.bind_of_ok (a := locked) rfl,
    Traced.bind_of_ok (a := dependencies) rfl, Traced.bind_pure]
  rfl

/-- What an audit should report: whether there is a lock file, and no dependencies, with one warning
and no call of the package manager, where the manifest cannot be used. -/
structure Reports (w : World) (a : Auditor) (path : String) (part : DependencyPart) : Prop where
  locked : ∃ locked, part.locked = .bool locked ∧ (locked = true ↔
    ∃ name ∈ a.lockFiles, w.reaches ((Route.ofText path).join (Route.ofText name)) = .ok true)
  missing : w.reaches ((Route.ofText path).child fileName) = .ok false →
    part.dependencies = [] ∧ (a.audit w path).trail = []
  unusable : w.reaches ((Route.ofText path).child fileName) = .ok true →
    Unusable w ((Route.ofText path).child fileName) →
    part.dependencies = [] ∧ ∃ message, (a.audit w path).trail = [.log .warning message]

/-- Lock files and manifest can be looked for, and the manifest has no integer with too many
digits. -/
structure Searchable (w : World) (a : Auditor) (path : String) : Prop where
  locked : ∃ locked, hasLockFile w (Route.ofText path) a.lockFiles = .ok locked
  found : ∃ found, w.reaches ((Route.ofText path).child fileName) = .ok found
  inRange : ¬ Oversized w ((Route.ofText path).child fileName)

@[simp] theorem enrich_nil (w : World) (a : Auditor) (project : Route) :
    a.enrich w project [] decode = ⟨[], .ok []⟩ := rfl

/-- An audit that comes to its end could look for lock files. -/
theorem locked_of_ok {a : Auditor} {path : String} {part : DependencyPart}
    (h : (a.audit w path decode).outcome = .ok part) :
    ∃ locked, hasLockFile w (Route.ofText path) a.lockFiles = .ok locked := by
  rw [audit, Traced.bind_ok] at h
  obtain ⟨locked, hlocked, -⟩ := h
  exact ⟨locked, hlocked⟩

/-- An audit that cannot look for lock files fails as the search does. -/
theorem audit_of_unlocked {a : Auditor} {path : String} {f : Failure}
    (h : hasLockFile w (Route.ofText path) a.lockFiles = .error f) :
    (a.audit w path decode).outcome = .error f := by
  rw [audit, h]
  rfl

theorem searchable_of_ok {a : Auditor} {path : String} {part : DependencyPart}
    (h : (a.audit w path).outcome = .ok part) : Searchable w a path := by
  have hlocked := locked_of_ok h
  rw [audit, Traced.bind_ok] at h
  obtain ⟨locked, -, h⟩ := h
  obtain ⟨dependencies, hlisted, -⟩ := Traced.bind_ok.1 h
  cases hfound : w.reaches ((Route.ofText path).child fileName) with
  | error f =>
    rw [listed, hfound] at hlisted
    cases hlisted
  | ok found =>
    refine ⟨hlocked, ⟨found, hfound⟩, ?_⟩
    intro hoversized
    have hthere := reaches_of_oversized hoversized
    rcases read_spec hthere with ⟨-, n, hread⟩ | ⟨hnot, -⟩ | ⟨hnot, -⟩
    · rw [listed_of_misuse hthere hread] at hlisted
      cases hlisted
    · exact hnot hoversized
    · exact hnot (unusable_of_oversized hoversized)

section Reports

variable {a : Auditor} {path : String} {locked : Bool}
  (hlocked : hasLockFile w (Route.ofText path) a.lockFiles = .ok locked)

include hlocked

/-- Without dependencies nothing is asked, and the trail is that of the manifest. -/
theorem reports_of_nothing_listed {trail : List Event}
    (hlisted : listed w (Route.ofText path) = ⟨trail, .ok []⟩)
    (hmissing : w.reaches ((Route.ofText path).child fileName) = .ok false → trail = [])
    (hunusable : w.reaches ((Route.ofText path).child fileName) = .ok true →
      ∃ message, trail = [.log .warning message]) :
    ∃ part, (a.audit w path).outcome = .ok part ∧ a.Reports w path part := by
  have haudit := audit_eq (a := a) hlocked hlisted
  rw [enrich_nil, List.append_nil] at haudit
  refine ⟨⟨[], .bool locked⟩, by rw [haudit]; rfl, ⟨locked, rfl, hasLockFile_ok hlocked⟩, ?_, ?_⟩
  · intro hfound
    rw [haudit]
    exact ⟨rfl, hmissing hfound⟩
  · intro hfound _
    rw [haudit]
    exact ⟨rfl, hunusable hfound⟩

theorem reports_of_read {records annotated : List DependencyEntry}
    (hfound : w.reaches ((Route.ofText path).child fileName) = .ok true)
    (hread : Manifest.read w ((Route.ofText path).child fileName) = .ok records)
    (husable : ¬ Unusable w ((Route.ofText path).child fileName))
    (henrich : (a.enrich w (Route.ofText path) records).outcome = .ok annotated) :
    ∃ part, (a.audit w path).outcome = .ok part ∧ a.Reports w path part := by
  have haudit := audit_eq (a := a) hlocked (listed_of_read hfound hread)
  refine ⟨⟨annotated, .bool locked⟩, by rw [haudit, henrich]; rfl,
    ⟨locked, rfl, hasLockFile_ok hlocked⟩, ?_, ?_⟩
  · intro hmissing
    rw [hfound] at hmissing
    cases hmissing
  · exact fun _ hunusable => absurd hunusable husable

end Reports

/-- **When an audit reports what it should**: just when lock files and manifest can be looked for
and no integer of the manifest has too many digits, whatever the manifest holds and the package
manager answers. -/
theorem audit_reports_iff {a : Auditor} (hcounts : AsksTool a.vulnerabilities)
    (houtdated : AsksTool a.outdated) (htool : ∀ q : Question, w.tool q.words ≠ .interrupted)
    (path : String) :
    (∃ part, (a.audit w path).outcome = .ok part ∧ a.Reports w path part) ↔
    Searchable w a path := by
  constructor
  · rintro ⟨part, hpart, -⟩
    exact searchable_of_ok hpart
  · rintro ⟨⟨locked, hlocked⟩, ⟨found, hfound⟩, hinRange⟩
    cases found with
    | false =>
      exact reports_of_nothing_listed hlocked (listed_of_missing hfound) (fun _ => rfl)
        (by simp [hfound])
    | true =>
      rcases read_spec hfound with ⟨hoversized, -⟩ | ⟨-, -, hrefused⟩ | ⟨husable, records, hread, -⟩
      · exact absurd hoversized hinRange
      · obtain ⟨message, hlisted⟩ := listed_of_refused hfound hrefused
        exact reports_of_nothing_listed hlocked hlisted (by simp [hfound]) (fun _ => ⟨message, rfl⟩)
      · exact reports_of_read hlocked hfound hread husable
          (enrich_outcome uninterrupted_readJson hcounts houtdated (heard_of_tool (htool _) _ _)
            (heard_of_tool (htool _) _ _) records)

/-- A project with a lock file and a manifest. -/
def withManifest (data : ByteArray) : World where
  top := .directory [("p", .directory [(fileName, .file data), ("yarn.lock", .file .empty)])]
  here := ["p"]
  environment := []
  tool := fun _ => .missing
  clock := .int 0
  accessDenied := false
  width := 80

theorem audit_reports_list_manifest :
    ∃ part, ((ofSettings .default).audit (withManifest "[1]".toUTF8) ".").outcome = .ok part ∧
      (ofSettings .default).Reports (withManifest "[1]".toUTF8) "." part := by
  have htext : readText (withManifest "[1]".toUTF8) ((Route.ofText ".").child fileName) =
      .ok "[1]" :=
    toOption_eq_some.1 (by decide +kernel)
  have hjson : readJson "[1]" = .ok (.list [.int 1]) := by rfl
  refine (audit_reports_iff ?_ ?_ ?_ ".").2 ⟨⟨true, rfl⟩, ⟨true, rfl⟩,
    not_oversized htext (by simp [hjson])⟩
  · rintro c ⟨⟩
    exact ⟨_, rfl⟩
  · rintro c ⟨⟩
  · simp [withManifest]

/-- An integer of 4301 digits stops an audit, where its report should have been a lock file and no
dependencies. -/
theorem audit_fails_ones :
    (silent.audit (withManifest ⟨Array.replicate 4301 0x31⟩) ".").outcome =
      .error (.misuse (.tooManyDigits 4301)) := by
  have hdata : (withManifest ⟨Array.replicate 4301 0x31⟩).readBytes
      ((Route.ofText ".").child fileName) =
      .ok ⟨Array.replicate 4301 0x31⟩ := rfl
  have hread := read_ones hdata (by decide)
  have hlisted := listed_of_misuse (reaches_of_readBytes hdata) hread
  have hlocked : hasLockFile (withManifest ⟨Array.replicate 4301 0x31⟩) (Route.ofText ".")
      silent.lockFiles =
      .ok true := rfl
  rw [audit, hlocked, hlisted]
  rfl

end Auditor

end SourceSurvey
