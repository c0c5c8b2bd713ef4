import SourceSurvey.Proofs.Clone.Tally
import SourceSurvey.Proofs.Double.Monotone

/-!
# Stricter limits

The greatest window alone decides how far the window from a site reaches.  So when the other limits
are raised, the windows stay where they are, and the clones of the stricter search are among those
of the first one.  When lines count as equal as before, they are those that the stricter limits
admit, unchanged; when fewer lines do, their similarities may be lower (`search_stricter`).

* `Gauge.Stricter`: a gauge with the same greatest window and no lower limits;
* `Gauge.admits`, `Clone.Weakens`: what the stricter limits say of a clone of the first search;
* `clone?_filter`, `clone?_weakens`: the two laws at one site.
-/

namespace SourceSurvey

/-- A number that is the same as another or below it. -/
def Number.AtMost (x y : Number) : Prop := x = y ∨ Comparison.le.ofNumbers x y = true

/-- The second gauge is at least as strict as the first, and has the same greatest window. -/
structure Gauge.Stricter (g g' : Gauge) : Prop where
  minSize : g.minSize ≤ g'.minSize
  maxWindow : g'.maxWindow = g.maxWindow
  minAnchor : g.minAnchor.AtMost g'.minAnchor
  minMatch : g.minMatch.AtMost g'.minMatch
  similarity : g.similarity.AtMost g'.similarity

/-- Whether a clone at a site has the least size, the similarity and the length of anchor that a
gauge wants. -/
def Gauge.admits (g : Gauge) (s : Site) (c : Clone) : Bool :=
  decide (g.minSize ≤ c.size) && Comparison.ge.ofNumbers (.float c.similarity) g.similarity &&
    Comparison.ge.ofNumbers (.int s.anchor.length) g.minAnchor

/-- The same two ranges, with a similarity that is not above the other. -/
structure Clone.Weakens (c d : Clone) : Prop where
  first : c.first = d.first
  second : c.second = d.second
  size : c.size = d.size
  similarity : Comparison.le.ofNumbers (.float c.similarity) (.float d.similarity) = true

/-! ## Integers for stricter numbers -/

theorem isBelow_of_atMost {x y : Number} (h : x.AtMost y) {k : ℕ}
    (hk : isBelow x k = true) : isBelow y k = true := by
  rcases h with rfl | h
  · exact hk
  · obtain ⟨-, hy, hle⟩ := (Comparison.ofNumbers_iff _ _ _).1 h
    rw [isBelow_iff] at hk ⊢
    exact ⟨hy, hk.2.trans_le hle⟩

theorem isNotAbove_of_atMost {x y : Number} (h : x.AtMost y) {k : ℕ} (hk : isNotAbove x k = true) :
    isNotAbove y k = true := by
  rcases h with rfl | h
  · exact hk
  · obtain ⟨hx, -, hle⟩ := (Comparison.ofNumbers_iff _ _ _).1 h
    rw [isNotAbove_iff] at hk ⊢
    exact .inr ((hk.resolve_left hx).trans hle)

namespace Clone

/-- Integer bounds of which the second are at least as strict, with the same greatest window. -/
structure Tightens (b b' : Bounds) : Prop where
  minSize : b.minSize ≤ b'.minSize
  maxWindow : b'.maxWindow = b.maxWindow
  minAnchor : b.minAnchor ≤ b'.minAnchor
  minMatch : b.minMatch ≤ b'.minMatch

theorem tightens_within {g g' : Gauge} (h : g.Stricter g') (n : ℕ) :
    Tightens (g.within n).widened (g'.within n).widened where
  minSize := h.minSize
  maxWindow := by simp only [Bounds.widened, Gauge.within, h.maxWindow]
  minAnchor := by
    have hcut := cutoff_mono (fun k => isBelow_of_atMost h.minAnchor (k := k)) n
    simp only [Bounds.widened, Gauge.within]
    omega
  minMatch := by
    have hcut := cutoff_mono (fun k => isNotAbove_of_atMost h.minMatch (k := k)) n
    simp only [Bounds.widened, Gauge.within]
    omega

theorem notBelow_iff {b : Bounds} {x : Double} (hx : x ≠ .nan) :
    notBelow b x = true ↔ b.similarity = .float .nan ∨ b.similarity.place ≤ x.place := by
  have hfloat : Number.float x ≠ .float .nan := fun h => hx (Number.float.inj h)
  rw [notBelow, Bool.not_eq_true', ← Bool.not_eq_true, Comparison.ofNumbers_iff]
  simp [hfloat, Comparison.Relates, or_iff_not_imp_left, Number.place]

/-- What is not below the higher threshold is not below the lower one, and no more is anything
greater. -/
theorem notBelow_of_stricter (b b' : Bounds) (h : b.similarity.AtMost b'.similarity) {x y : Double}
    (hx : x ≠ .nan) (hy : y ≠ .nan) (hxy : x.place ≤ y.place) (haccepts : notBelow b' x = true) :
    notBelow b y = true := by
  rw [notBelow_iff hx] at haccepts
  rw [notBelow_iff hy]
  rcases h with heq | h
  · rw [heq]
    exact haccepts.imp_right fun hle => hle.trans hxy
  · obtain ⟨-, hnumber, hle⟩ := (Comparison.ofNumbers_iff _ _ _).1 h
    exact .inr (hle.trans ((haccepts.resolve_left hnumber).trans hxy))

/-! ## Windows and similarities -/

theorem reach_eq_of_tightens {b b' : Bounds} (h : Tightens b b') (as bs : List Line) (i j : ℕ) :
    reach b' as bs i j = reach b as bs i j := by
  simp only [reach, h.maxWindow]

theorem equalLines_le_of_tightens {b b' : Bounds} (h : Tightens b b') (as bs : List Line)
    (i j size : ℕ) :
    equalLines b' as bs i j size ≤ equalLines b as bs i j size := by
  refine List.countP_mono_left fun k _ hk => ?_
  simp only [decide_eq_true_eq] at hk ⊢
  exact ⟨hk.1, h.minMatch.trans_lt hk.2⟩

theorem equalLines_le (b : Bounds) (as bs : List Line)
    (i j size : ℕ) : equalLines b as bs i j size ≤ size - 1 :=
  List.countP_le_length.trans (by rw [List.length_range'])

/-- Fewer equal lines give no greater share. -/
theorem share_mono {equal more lines : ℕ} (h : equal ≤ more) (hmore : more ≤ lines) :
    (share equal lines).place ≤ (share more lines).place := by
  unfold share
  split_ifs with hlines
  · exact le_rfl
  · have hpos : 0 < lines := Nat.pos_of_ne_zero hlines
    have hposq : (0 : ℚ) < lines := by exact_mod_cast hpos
    have hle : (more : ℚ) / lines ≤ 1 := (div_le_one hposq).2 (by exact_mod_cast hmore)
    refine Double.ofRatio_mono hpos hpos ?_
      (hle.trans_lt (one_lt_zpow₀ (by norm_num) (by norm_num)))
    exact div_le_div_of_nonneg_right (by exact_mod_cast h) hposq.le

/-! ## One site -/

variable {b b' : Bounds} {s : Site}

/-- Where lines count as equal as before, the stricter limits keep a clone as it is or drop it. -/
theorem clone?_filter (h : Tightens b b') (hmatch : b'.minMatch = b.minMatch)
    {accepts accepts' : Double → Bool}
    (haccepts : ∀ x, x ≠ .nan → accepts' x = true → accepts x = true) :
    s.clone? b' accepts' = (s.clone? b accepts).filter fun c =>
      decide (b'.minSize ≤ c.size) && accepts' c.similarity &&
        decide (b'.minAnchor ≤ s.anchor.length) := by
  have hequal : ∀ size, equalLines b' s.a.lines s.b.lines s.i s.j size =
      equalLines b s.a.lines s.b.lines s.i s.j size :=
    fun size => by simp only [equalLines, hmatch]
  simp only [Site.clone?, cloneAt, reach_eq_of_tightens h, hequal]
  set size := reach b s.a.lines s.b.lines s.i s.j
  set similarity :=
    share (equalLines b s.a.lines s.b.lines s.i s.j size) (size - 1) with hsimilarity
  have hnumber : similarity ≠ .nan := share_ne_nan _ _
  by_cases hkeeps : s.a.lines.getD s.i [] = s.b.lines.getD s.j [] ∧
    b'.minAnchor ≤ (s.a.lines.getD s.i []).length ∧
      b'.minSize ≤ size ∧ accepts' similarity = true
  · obtain ⟨hline, hanchor, hsize, haccepted⟩ := hkeeps
    have hfirst := haccepts similarity hnumber haccepted
    rw [if_pos ⟨hline, hanchor, hsize, haccepted⟩,
      if_pos ⟨hline, h.minAnchor.trans hanchor, h.minSize.trans hsize, hfirst⟩,
      Option.filter_some_pos]
    simp only [hsize, haccepted, Site.anchor, hanchor, decide_true, Bool.and_self]
  · rw [if_neg hkeeps]
    split_ifs with hfirst
    · refine (Option.filter_some_neg (Bool.eq_false_iff.2 fun hall => ?_)).symm
      simp only [Bool.and_eq_true, decide_eq_true_eq] at hall
      exact hkeeps ⟨hfirst.1, hall.2, hall.1.1, hall.1.2⟩
    · rfl

/-- A clone under the stricter limits weakens one of the first search at the same site. -/
theorem clone?_weakens (h : Tightens b b') {accepts accepts' : Double → Bool}
    (haccepts : ∀ x y, x ≠ .nan → y ≠ .nan → x.place ≤ y.place → accepts' x = true →
      accepts y = true) {c : Clone}
    (hc : s.clone? b' accepts' = some c) : ∃ d, s.clone? b accepts = some d ∧ c.Weakens d := by
  simp only [Site.clone?, cloneAt, reach_eq_of_tightens h] at hc
  split_ifs at hc with hall
  obtain rfl := Option.some.inj hc
  obtain ⟨hline, hanchor, hsize, haccepted⟩ := hall
  set size := reach b s.a.lines s.b.lines s.i s.j with hreach
  set equal := equalLines b s.a.lines s.b.lines s.i s.j size with hequal
  have hplace := share_mono (equalLines_le_of_tightens h s.a.lines s.b.lines s.i s.j size)
    (equalLines_le b s.a.lines s.b.lines s.i s.j size)
  have hfirst := haccepts _ _ (share_ne_nan _ _) (share_ne_nan _ _) hplace haccepted
  refine ⟨_, if_pos ⟨hline, h.minAnchor.trans hanchor, h.minSize.trans hsize, hfirst⟩, rfl,
    rfl, rfl, ?_⟩
  rw [Comparison.ofNumbers_iff]
  exact ⟨fun hnan => share_ne_nan _ _ (Number.float.inj hnan),
    fun hnan => share_ne_nan _ _ (Number.float.inj hnan), hplace⟩

theorem length_anchor_le {n : ℕ} (h : s.a.Within n) : s.anchor.length ≤ n := by
  unfold Site.anchor
  rw [List.getD_eq_getElem?_getD]
  cases hline : s.a.lines[s.i]? with
  | none => simp
  | some l => exact h.line l (List.mem_of_getElem? hline)

/-- At a site in files of at most `n` lines with at most `n` characters, the stricter gauge admits a
clone or drops it. -/
theorem gauged?_filter {g g' : Gauge} (h : g.Stricter g') (hmatch : g'.minMatch = g.minMatch)
    (hsimilarity : g'.similarity ≠ .float .nan) (hanchor : g'.minAnchor ≠ .float .nan) {n : ℕ}
    (hs : s.a.Within n) :
    s.gauged? g' n = (s.gauged? g n).filter (g'.admits s) := by
  have hfilter : s.gauged? g' n = (s.gauged? g n).filter fun c =>
      decide ((g'.within n).widened.minSize ≤ c.size) &&
      notBelow (g'.within n) c.similarity &&
      decide ((g'.within n).widened.minAnchor ≤ s.anchor.length) := by
    refine clone?_filter (tightens_within h n) ?_ fun x hx haccepts => ?_
    · simp only [Bounds.widened, Gauge.within, hmatch]
    · exact notBelow_of_stricter (g.within n) (g'.within n) h.similarity hx hx le_rfl haccepts
  have hlength : decide ((g'.within n).widened.minAnchor ≤ s.anchor.length) =
      Comparison.ge.ofNumbers (.int s.anchor.length) g'.minAnchor := by
    have hcut := lt_cutoff (isBelow_descends g'.minAnchor) (length_anchor_le hs)
    rw [isBelow_iff] at hcut
    rw [Bool.eq_iff_iff, decide_eq_true_eq, Comparison.ofNumbers_iff]
    simp only [Bounds.widened, Gauge.within, ne_eq, hanchor, reduceCtorEq,
      not_false_eq_true, true_and, Comparison.Relates] at hcut ⊢
    rw [← not_lt, ← not_lt, ← hcut, Int.ofNat_lt]
  rw [hfilter]
  cases hc : s.gauged? g n with
  | none => rfl
  | some c =>
    obtain ⟨-, equal, -, hshare⟩ := cloneAt_eq_some hc
    have hnumber : c.similarity ≠ .nan := hshare ▸ share_ne_nan _ _
    have hadmits : (decide ((g'.within n).widened.minSize ≤ c.size) &&
        notBelow (g'.within n) c.similarity &&
        decide ((g'.within n).widened.minAnchor ≤ s.anchor.length)) = g'.admits s c := by
      rw [hlength, notBelow_eq_atLeast hnumber hsimilarity]
      rfl
    simp only [Option.filter_some, hadmits]

/-! ## All sites -/

/-- The clones at sites, each with its site. -/
def located (clone? : Site → Option Clone) (sites : List Site) : List (Site × Clone) :=
  sites.filterMap fun s => (clone? s).map (Prod.mk s)

@[simp] theorem located_cons (clone? : Site → Option Clone) (s : Site) (sites : List Site) :
    located clone? (s :: sites) = ((clone? s).map (Prod.mk s)).toList ++ located clone? sites := by
  unfold located
  cases h : clone? s <;> simp [h]

@[simp] theorem map_snd_located (clone? : Site → Option Clone) (sites : List Site) :
    (located clone? sites).map Prod.snd = sites.filterMap clone? := by
  rw [located, List.map_filterMap]
  refine List.filterMap_congr fun s _ => ?_
  cases clone? s <;> rfl

theorem map_fst_located_sublist (clone? : Site → Option Clone) (sites : List Site) :
    ((located clone? sites).map Prod.fst).Sublist sites := by
  induction sites with
  | nil => exact .slnil
  | cons s sites ih =>
    rw [located_cons, List.map_append]
    cases clone? s with
    | none => exact ih.cons s
    | some c => exact ih.cons_cons s

theorem filter_located (clone? : Site → Option Clone) (keeps : Site → Clone → Bool)
    (sites : List Site) :
    ((located clone? sites).filter fun x => keeps x.1 x.2).map Prod.snd =
      sites.filterMap fun s => (clone? s).filter (keeps s) := by
  induction sites with
  | nil => rfl
  | cons s sites ih =>
    rw [located_cons, List.filter_append, List.map_append, ih, List.filterMap_cons]
    cases clone? s with
    | none => rfl
    | some c => cases hkeeps : keeps s c <;> simp [hkeeps, Option.filter]

theorem sublistForall₂_filterMap {R : Clone → Clone → Prop} {clone? clone?' : Site → Option Clone}
    {sites : List Site}
    (h : ∀ s ∈ sites, ∀ c, clone?' s = some c → ∃ d, clone? s = some d ∧ R c d) :
    List.SublistForall₂ R (sites.filterMap clone?') (sites.filterMap clone?) := by
  induction sites with
  | nil => exact .nil
  | cons s sites ih =>
    have hmore := ih fun s' hs' => h s' (List.mem_cons_of_mem _ hs')
    rw [List.filterMap_cons, List.filterMap_cons]
    cases hstrict : clone?' s with
    | none =>
      cases clone? s with
      | none => exact hmore
      | some d => exact .cons_right hmore
    | some c =>
      obtain ⟨d, hd, hR⟩ := h s List.mem_cons_self c hstrict
      rw [hd]
      exact .cons hR hmore

variable {limits limits' : Limits} {g g' : Gauge}

/-- The clones of the stricter search weaken clones of the first one, in the same order. -/
theorem search_weakens (h : limits.Gauged g) (h' : limits'.Gauged g') (hsize : 1 ≤ g.minSize)
    (hstrict : g.Stricter g') (files : List NormalFile) :
    List.SublistForall₂ Weakens (search limits' files).clones (search limits files).clones := by
  obtain ⟨n, hn⟩ := exists_within files
  rw [search_eq_sites h hsize hn, search_eq_sites h' (hsize.trans hstrict.minSize) hn]
  refine sublistForall₂_filterMap fun s _ c hc => ?_
  exact clone?_weakens (tightens_within hstrict n) (fun x y hx hy hxy haccepts =>
    notBelow_of_stricter (g.within n) (g'.within n) hstrict.similarity hx hy hxy haccepts) hc

theorem coveredLines_subset {clones clones' : List Clone}
    (h : List.SublistForall₂ Weakens clones' clones) :
    coveredLines clones' ⊆ coveredLines clones := by
  refine coveredLines_mono fun c hc => ?_
  obtain ⟨kept, hforall, hsublist⟩ := List.sublistForall₂_iff.1 h
  obtain ⟨k, hk, rfl⟩ := List.getElem_of_mem hc
  have hlength := hforall.length_eq
  have hweakens := hforall.get hk (hlength ▸ hk)
  exact ⟨_, hsublist.subset (List.getElem_mem _), hweakens.first.symm⟩

/-- **Stricter limits** only remove clones and lower similarities.  Where lines count as equal as
before, the clones are those that the stricter limits admit.  The lines that a detection counts
never become more. -/
theorem search_stricter (limits limits' : Limits) (g g' : Gauge) (h : limits.Gauged g)
    (h' : limits'.Gauged g') (hsize : 1 ≤ g.minSize) (hstrict : g.Stricter g')
    (hkept : limits'.maxKept = limits.maxKept) (hranking : limits'.ranking = limits.ranking) :
    (∀ files : List NormalFile, (search limits files).stopped = none ∧
      (search limits' files).stopped = none ∧
      (g'.minMatch = g.minMatch → g'.similarity ≠ .float .nan → g'.minAnchor ≠ .float .nan →
        ∃ clones : List (Site × Clone), clones.map Prod.snd = (search limits files).clones ∧
          (clones.map Prod.fst).Sublist (Site.all files) ∧ (∀ x ∈ clones, x.2.StandsAt x.1) ∧
          (search limits' files).clones = (clones.filter fun x => g'.admits x.1 x.2).map Prod.snd) ∧
      List.SublistForall₂ Weakens (search limits' files).clones (search limits files).clones) ∧
    ∀ (files : List SourceFile) (d : Duplication),
      (Duplication.detect limits files).outcome = .ok d →
      ∃ d', (Duplication.detect limits' files).outcome = .ok d' ∧ d'.lines ≤ d.lines := by
  have hsize' : 1 ≤ g'.minSize := hsize.trans hstrict.minSize
  constructor
  · intro files
    have hweakens := search_weakens h h' hsize hstrict files
    obtain ⟨n, hn⟩ := exists_within files
    have hfirst := search_eq_sites h hsize hn
    have hsecond := search_eq_sites h' hsize' hn
    refine ⟨by rw [hfirst], by rw [hsecond], fun hmatch hsimilarity hanchor => ?_, hweakens⟩
    refine ⟨located (Site.gauged? g n) (Site.all files), ?_, map_fst_located_sublist _ _, ?_, ?_⟩
    · rw [map_snd_located, hfirst]
    · intro x hx
      obtain ⟨s, -, hs⟩ := List.mem_filterMap.1 hx
      obtain ⟨c, hc, rfl⟩ := Option.map_eq_some_iff.1 hs
      exact Site.standsAt_of_clone? hsize hc
    · rw [filter_located, hsecond]
      refine List.filterMap_congr fun s hs => ?_
      have hmem := List.mem_of_mem_dropLast (Site.mem_dropLast_of_mem_all hs)
      exact gauged?_filter hstrict hmatch hsimilarity hanchor (hn _ hmem)
  · intro files d hd
    have hweakens := search_weakens h h' hsize hstrict (files.map SourceFile.normal)
    have hkeeps : (search limits' (files.map SourceFile.normal)).clones = [] ∨ limits'.Keeps := by
      refine (detect_ok_iff.1 ⟨d, hd⟩).2.imp (fun hnone => ?_) fun hkeeps => ?_
      · rw [hnone] at hweakens
        obtain ⟨kept, hforall, hsublist⟩ := List.sublistForall₂_iff.1 hweakens
        rwa [List.sublist_nil.1 hsublist, List.forall₂_nil_right_iff] at hforall
      · simpa only [Limits.Keeps, Limits.hasRoom, hkept, hranking] using hkeeps
    obtain ⟨d', hd'⟩ := detect_ok_of_gauged h' hsize' files hkeeps
    refine ⟨d', hd', ?_⟩
    rw [lines_of_detect h hsize hd, lines_of_detect h' hsize' hd']
    exact Finset.card_le_card (coveredLines_subset hweakens)

/-- Of two clones in two files, one is larger than a line and has a similarity of one. -/
theorem search_stricter_two_files :
    let limits : Limits := ⟨.int 1, .int 0, .int 50, .int 50, .int 1, .int 0, .scan⟩
    let limits' : Limits := ⟨.int 2, .int 1, .int 50, .int 50, .int 1, .int 0, .scan⟩
    let g : Gauge := ⟨1, .int 50, .int 1, .int 0, .int 0⟩
    let g' : Gauge := ⟨2, .int 50, .int 1, .int 0, .int 1⟩
    let files : List NormalFile := [⟨"a", [['x'], ['y'], ['z']]⟩, ⟨"b", [['w'], ['x'], ['y']]⟩]
    limits.Gauged g ∧ limits'.Gauged g' ∧ 1 ≤ g.minSize ∧ g.Stricter g' ∧
      ((search limits files).clones.length = 2 ∧ (search limits' files).clones.length = 1) ∧
      List.SublistForall₂ Weakens (search limits' files).clones (search limits files).clones := by
  intro limits limits' g g' files
  have h : limits.Gauged g := ⟨rfl, rfl, rfl, rfl, rfl⟩
  have h' : limits'.Gauged g' := ⟨rfl, rfl, rfl, rfl, rfl⟩
  have hstrict : g.Stricter g' := ⟨by decide, rfl, .inl rfl, .inl rfl, .inr rfl⟩
  have hall := (search_stricter limits limits' g g' h h' le_rfl hstrict rfl rfl).1 files
  exact ⟨h, h', le_rfl, hstrict, by decide +kernel, hall.2.2.2⟩

end Clone

end SourceSurvey
