import SourceSurvey.Proofs.Clone.Ranking
import SourceSurvey.Proofs.Clone.Site
import SourceSurvey.Proofs.Trace

/-!
# Counting clones

Whether counting clones succeeds depends on two things alone: whether there are clones at all, and
whether a clone can be kept (`count_ok_iff`).  The lines that it counts are those that the first
ranges of all clones cover, whichever clones are kept (`length_lines`).

* `Limits.Keeps`: limits under which clones can be kept;
* `Tally.Prior`: every entry of the heap had its turn before, with its step and its run;
* `coveredLines`, `length_lines`: the lines that are counted;
* `detect_ok_iff`, `lines_of_detect`: when a detection has a result, and the lines in it.
-/

namespace SourceSurvey

/-! ## Room for clones -/

/-- Limits under which clones can be kept.  The number of clones to keep has to be comparable with
numbers, and a heap, whose lowest entry is looked at when it is full, has to have room for one
entry. -/
def Limits.Keeps (limits : Limits) : Prop :=
  ∃ room, limits.hasRoom 0 = .ok room ∧ (limits.ranking = .scan ∨ room = true)

variable {limits : Limits}

theorem hasRoom_of_number {x : Number} (h : limits.maxKept.number? = some x) (n : ℕ) :
    limits.hasRoom n = .ok (isBelow x n) := Value.test_of_number rfl h .lt

theorem hasRoom_of_none (h : limits.maxKept.number? = none)
    (n : ℕ) : ∃ m, limits.hasRoom n = .error m := by
  unfold Limits.hasRoom
  cases hv : limits.maxKept <;> simp_all [Value.test, Value.number?, Value.ofNat]

/-- Where there is an answer for one number, there is one for all. -/
theorem Limits.Keeps.hasRoom (h : limits.Keeps) (n : ℕ) : ∃ room, limits.hasRoom n = .ok room := by
  obtain ⟨room, hroom, -⟩ := h
  cases hnumber : limits.maxKept.number? with
  | none =>
    obtain ⟨m, hm⟩ := hasRoom_of_none hnumber 0
    rw [hm] at hroom
    cases hroom
  | some x => exact ⟨_, hasRoom_of_number hnumber n⟩

namespace Clone

/-! ## The heap -/

/-- Adding an entry whose turn no other entry has. -/
theorem push_ok {e : Entry} {heap : List Entry} (h : ∀ x ∈ heap, e.turn ≠ x.turn) :
    ∃ heap', push e heap = .ok heap' ∧ heap'.Perm (e :: heap) := by
  induction heap with
  | nil => exact ⟨[e], rfl, .rfl⟩
  | cons x rest ih =>
    have hrank := Entry.rank?_ne_eq (h x List.mem_cons_self)
    have hbelow : e.below x = .ok (e.ranksBelow x) := if_neg fun hall => hrank hall.1
    obtain ⟨more, hmore, hperm⟩ := ih fun y hy => h y (List.mem_cons_of_mem _ hy)
    unfold push
    rw [hbelow, hmore]
    cases e.ranksBelow x with
    | true => exact ⟨_, rfl, .rfl⟩
    | false => exact ⟨_, rfl, (hperm.cons x).trans (.swap e x rest)⟩

/-- Every entry of the heap had its turn before the next one. -/
def Tally.Prior (t : Tally) : Prop := ∀ x ∈ t.heap, -(t.count : ℤ) < x.turn

theorem keepBest_ok (h : limits.Keeps) (hranking : limits.ranking = .value) {t : Tally}
    (ht : t.Prior) (c : Clone) :
    ∃ heap, keepBest limits t.heap (.ofClone t.count c) = .ok heap ∧
      ∀ x ∈ heap, x = .ofClone t.count c ∨ x ∈ t.heap := by
  have hpush : ∀ rest : List Entry, (∀ x ∈ rest, x ∈ t.heap) →
      ∃ heap, push (.ofClone t.count c) rest = .ok heap ∧
      ∀ x ∈ heap, x = .ofClone t.count c ∨ x ∈ t.heap := by
    intro rest hrest
    obtain ⟨heap, hheap, hperm⟩ := push_ok (e := .ofClone t.count c) fun x hx =>
      (ht x (hrest x hx)).ne
    refine ⟨heap, hheap, fun x hx => ?_⟩
    exact (List.mem_cons.1 (hperm.mem_iff.1 hx)).imp_right (hrest x)
  obtain ⟨room, hroom⟩ := h.hasRoom t.heap.length
  unfold keepBest
  rw [hroom]
  cases room with
  | true => exact hpush t.heap fun x hx => hx
  | false =>
    cases hheap : t.heap with
    | nil =>
      -- an empty heap has room, for the ranking is by weight
      obtain ⟨first, hfirst, hkeeps⟩ := h
      rw [hheap, List.length_nil, hfirst] at hroom
      rcases hkeeps with hscan | rfl
      · rw [hranking] at hscan
        cases hscan
      · cases hroom
    | cons least rest =>
      rw [hheap] at hpush
      by_cases hbelow : least.ranksBelow (.ofClone t.count c) = true
      · simp only [bind, Except.bind, Bool.false_eq_true, if_false, hbelow, if_true]
        exact hpush rest fun x hx => List.mem_cons_of_mem _ hx
      · simp only [bind, Except.bind, Bool.false_eq_true, if_false, hbelow]
        exact ⟨_, rfl, fun x hx => .inr hx⟩

/-- One clone more is counted without failure. -/
theorem Tally.Prior.add (h : limits.Keeps) {t : Tally} (ht : t.Prior) (c : Clone) :
    ∃ t', Tally.add limits t c = .ok t' ∧ t'.Prior := by
  unfold Tally.add
  cases hranking : limits.ranking with
  | scan =>
    obtain ⟨room, hroom⟩ := h.hasRoom t.kept.length
    have hkept : ∃ kept, keepFirst limits t.kept c = .ok kept := by
      unfold keepFirst
      rw [hroom]
      cases room <;> exact ⟨_, rfl⟩
    obtain ⟨kept, hkept⟩ := hkept
    simp only [hkept]
    refine ⟨_, rfl, fun x hx => ?_⟩
    have := ht x hx
    push_cast
    omega
  | value =>
    obtain ⟨heap, hheap, hmem⟩ := keepBest_ok h hranking ht c
    simp only [hheap]
    refine ⟨_, rfl, fun x hx => ?_⟩
    push_cast
    rcases hmem x hx with rfl | hx
    · simp only [Entry.ofClone]
      omega
    · have := ht x hx
      omega

theorem foldlM_ok (h : limits.Keeps) {t : Tally} (ht : t.Prior) (clones : List Clone) :
    ∃ t', clones.foldlM (Tally.add limits) t = .ok t' := by
  induction clones generalizing t with
  | nil => exact ⟨t, rfl⟩
  | cons c clones ih =>
    obtain ⟨t', ht', hprior⟩ := ht.add h c
    rw [List.foldlM_cons, ht']
    exact ih hprior

/-- Where clones cannot be kept, the first one already fails. -/
theorem add_empty_error (h : ¬ limits.Keeps) (c : Clone) :
    ∃ m, Tally.add limits .empty c = .error m := by
  unfold Tally.add
  cases hroom : limits.hasRoom 0 with
  | error m =>
    cases limits.ranking with
    | scan => exact ⟨m, by simp [keepFirst, Tally.empty, hroom, bind, Except.bind]⟩
    | value => exact ⟨m, by simp [keepBest, Tally.empty, hroom, bind, Except.bind]⟩
  | ok room =>
    cases hranking : limits.ranking with
    | scan => exact absurd ⟨room, hroom, .inl hranking⟩ h
    | value =>
      cases room with
      | true => exact absurd ⟨true, hroom, .inr rfl⟩ h
      | false =>
        exact ⟨.listPosition, by simp [keepBest, Tally.empty, hroom, bind, Except.bind,
          throw, throwThe, MonadExceptOf.throw]⟩

/-- **Counting succeeds** just when there are no clones or clones can be kept. -/
theorem count_ok_iff {clones : List Clone} :
    (∃ t, count limits clones = .ok t) ↔ clones = [] ∨ limits.Keeps := by
  constructor
  · rintro ⟨t, ht⟩
    by_contra hnone
    obtain ⟨hne, hkeeps⟩ := not_or.1 hnone
    obtain ⟨c, rest, rfl⟩ := List.exists_cons_of_ne_nil hne
    obtain ⟨m, hm⟩ := add_empty_error hkeeps c
    rw [count, List.foldlM_cons, hm] at ht
    cases ht
  · rintro (rfl | hkeeps)
    · exact ⟨_, rfl⟩
    · exact foldlM_ok hkeeps (fun x hx => absurd hx List.not_mem_nil) clones

/-! ## The lines that are counted -/

/-- The lines of a range, each with the path of its file. -/
def linesIn (r : Range) : Finset (String × ℤ) :=
  (Finset.range (r.last + 1 - r.first).toNat).image fun k : ℕ => (r.file, r.first + k)

/-- The lines that the first ranges of clones cover. -/
def coveredLines (clones : List Clone) : Finset (String × ℤ) :=
  clones.toFinset.biUnion fun c => linesIn c.first

variable {key : String × ℤ} {clones : List Clone}

theorem mem_linesIn {r : Range} :
    key ∈ linesIn r ↔ key.1 = r.file ∧ r.first ≤ key.2 ∧ key.2 ≤ r.last := by
  obtain ⟨file, line⟩ := key
  simp only [linesIn, Finset.mem_image, Finset.mem_range, Prod.mk.injEq]
  constructor
  · rintro ⟨k, hk, rfl, rfl⟩
    exact ⟨rfl, by omega, by omega⟩
  · rintro ⟨rfl, hfirst, hlast⟩
    exact ⟨(line - r.first).toNat, by omega, rfl, by omega⟩

@[simp] theorem mem_coveredLines :
    key ∈ coveredLines clones ↔ ∃ c ∈ clones, key ∈ linesIn c.first := by
  simp [coveredLines]

/-- Clones whose first ranges are among those of others cover no other lines. -/
theorem coveredLines_mono {clones' : List Clone}
    (h : ∀ c ∈ clones', ∃ d ∈ clones, d.first = c.first) :
    coveredLines clones' ⊆ coveredLines clones := by
  intro key hkey
  obtain ⟨c, hc, hline⟩ := mem_coveredLines.1 hkey
  obtain ⟨d, hd, hfirst⟩ := h c hc
  exact mem_coveredLines.2 ⟨d, hd, hfirst ▸ hline⟩

theorem mem_covered {c : Clone} {s : Site} (h : c.StandsAt s) :
    key ∈ c.covered ↔ key ∈ linesIn c.first := by
  obtain ⟨file, line⟩ := key
  simp only [covered, List.mem_map, List.mem_range, mem_linesIn, h.first, Prod.mk.injEq]
  constructor
  · rintro ⟨k, hk, rfl, rfl⟩
    exact ⟨rfl, by omega, by omega⟩
  · rintro ⟨rfl, hfirst, hlast⟩
    exact ⟨(line - (s.i + 1)).toNat, by omega, rfl, by omega⟩

/-- Inserting keys one by one adds each of them once. -/
theorem foldl_insert_spec (keys : List (String × ℤ)) {lines : List (String × ℤ)} (h : lines.Nodup) :
    (keys.foldl (fun lines key => lines.insert key) lines).Nodup ∧
      ∀ key, key ∈ keys.foldl (fun lines key => lines.insert key) lines ↔
      key ∈ lines ∨ key ∈ keys := by
  induction keys generalizing lines with
  | nil => simpa using h
  | cons k keys ih =>
    obtain ⟨hnodup, hmem⟩ := ih (h.insert (a := k))
    refine ⟨hnodup, fun key => ?_⟩
    rw [List.foldl_cons, hmem, List.mem_insert_iff, List.mem_cons]
    tauto

theorem lines_of_add {t t' : Tally} {c : Clone} (h : Tally.add limits t c = .ok t') :
    t'.lines = c.covered.foldl (fun lines line => lines.insert line) t.lines := by
  unfold Tally.add at h
  cases hranking : limits.ranking with
  | scan =>
    rw [hranking] at h
    obtain ⟨kept, -, hkept⟩ := bind_eq_ok.1 h
    cases hkept
    rfl
  | value =>
    rw [hranking] at h
    obtain ⟨heap, -, hheap⟩ := bind_eq_ok.1 h
    cases hheap
    rfl

theorem lines_of_foldlM {t t' : Tally} (h : clones.foldlM (Tally.add limits) t = .ok t')
    (ht : t.lines.Nodup) :
    t'.lines.Nodup ∧ ∀ key, key ∈ t'.lines ↔ key ∈ t.lines ∨ ∃ c ∈ clones, key ∈ c.covered := by
  induction clones generalizing t with
  | nil =>
    obtain rfl := Except.ok.inj h
    simpa using ht
  | cons c clones ih =>
    rw [List.foldlM_cons, bind_eq_ok] at h
    obtain ⟨t₁, hadd, hmore⟩ := h
    obtain ⟨hnodup₁, hmem₁⟩ := foldl_insert_spec c.covered ht
    rw [← lines_of_add hadd] at hnodup₁ hmem₁
    obtain ⟨hnodup, hmem⟩ := ih hmore hnodup₁
    refine ⟨hnodup, fun key => ?_⟩
    rw [hmem, hmem₁, List.exists_mem_cons_iff, or_assoc]

/-- **The number of lines that are counted** is that of the lines which the first ranges cover. -/
theorem length_lines {t : Tally} (h : count limits clones = .ok t)
    (hsites : ∀ c ∈ clones, ∃ s, c.StandsAt s) :
    t.lines.length = (coveredLines clones).card := by
  obtain ⟨hnodup, hmem⟩ := lines_of_foldlM h List.nodup_nil
  rw [← List.toFinset_card_of_nodup hnodup]
  congr 1
  ext key
  rw [List.mem_toFinset, hmem, mem_coveredLines]
  simp only [Tally.empty, List.not_mem_nil, false_or]
  refine exists_congr fun c => and_congr_right fun hc => ?_
  obtain ⟨s, hs⟩ := hsites c hc
  exact mem_covered hs

/-! ## Detection -/

/-- The clones of files, searched under gauged limits, stand at sites. -/
theorem standsAt_of_search {g : Gauge} (h : limits.Gauged g) (hsize : 1 ≤ g.minSize)
    {files : List NormalFile} {c : Clone} (hc : c ∈ (search limits files).clones) :
    ∃ s ∈ Site.all files, c.StandsAt s := by
  obtain ⟨n, hn⟩ := exists_within files
  rw [search_eq_sites h hsize hn] at hc
  obtain ⟨s, hs, hclone⟩ := List.mem_filterMap.1 hc
  exact ⟨s, hs, Site.standsAt_of_clone? hsize hclone⟩

/-- A detection with a result has searched and counted without failure. -/
theorem detect_inv {files : List SourceFile} {d : Duplication}
    (h : (Duplication.detect limits files).outcome = .ok d) :
    (search limits (files.map SourceFile.normal)).stopped = none ∧
      ∃ t, count limits (search limits (files.map SourceFile.normal)).clones = .ok t ∧
      d.lines = t.lines.length := by
  unfold Duplication.detect at h
  dsimp only at h
  rw [Traced.outcome_bind, Traced.outcome_liftM_misuse, bind_eq_ok] at h
  obtain ⟨t, ht, hd⟩ := h
  cases hstopped : (search limits (files.map SourceFile.normal)).stopped with
  | some m =>
    rw [hstopped] at hd
    cases hd
  | none =>
    refine ⟨rfl, t, orFail_ok.1 ht, ?_⟩
    simp only [hstopped] at hd
    split at hd
    · cases hd
      rfl
    · cases hd
      rfl

/-- **A detection has a result** just when its search is not stopped and its clones can be
counted. -/
theorem detect_ok_iff {files : List SourceFile} :
    (∃ d, (Duplication.detect limits files).outcome = .ok d) ↔
    (search limits (files.map SourceFile.normal)).stopped = none ∧
      ((search limits (files.map SourceFile.normal)).clones = [] ∨ limits.Keeps) := by
  constructor
  · rintro ⟨d, hd⟩
    obtain ⟨hstopped, t, ht, -⟩ := detect_inv hd
    exact ⟨hstopped, count_ok_iff.1 ⟨t, ht⟩⟩
  · rintro ⟨hstopped, hcounted⟩
    obtain ⟨t, ht⟩ := count_ok_iff.2 hcounted
    obtain ⟨d, hd, -⟩ := detect_outcome hstopped ht
    exact ⟨d, hd⟩

/-- A detection with a result counts the lines of all clones. -/
theorem lines_of_detect {g : Gauge} (h : limits.Gauged g) (hsize : 1 ≤ g.minSize)
    {files : List SourceFile} {d : Duplication}
    (hd : (Duplication.detect limits files).outcome = .ok d) :
    d.lines = (coveredLines (search limits (files.map SourceFile.normal)).clones).card := by
  obtain ⟨-, t, ht, hlines⟩ := detect_inv hd
  refine hlines.trans (length_lines ht fun c hc => ?_)
  obtain ⟨s, -, hs⟩ := standsAt_of_search h hsize hc
  exact ⟨s, hs⟩

/-- Under gauged limits only clones that cannot be kept make a detection fail. -/
theorem detect_ok_of_gauged {g : Gauge} (h : limits.Gauged g) (hsize : 1 ≤ g.minSize)
    (files : List SourceFile)
    (hkeeps : (search limits (files.map SourceFile.normal)).clones = [] ∨ limits.Keeps) :
    ∃ d, (Duplication.detect limits files).outcome = .ok d := by
  obtain ⟨n, hn⟩ := exists_within (files.map SourceFile.normal)
  exact detect_ok_iff.2 ⟨by rw [search_eq_sites h hsize hn], hkeeps⟩

end Clone

end SourceSurvey
