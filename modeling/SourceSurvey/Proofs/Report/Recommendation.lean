import SourceSurvey.Proofs.Json.Numeral
import SourceSurvey.Proofs.Trace
import SourceSurvey.Proofs.Value.Order
import SourceSurvey.Report.Summary

/-!
# Recommendations

Each check of the parts of a report adds at most one text.  Texts of different checks differ in
their first letters (`opening`), and a text that counts something gives its number back
(`numbered_inj`).  So a text is among the recommendations just when its check asks for it
(`Advises`, `recommendations_advises`).
-/

namespace SourceSurvey.Recommendation

/-! ## Texts -/

/-- The first letters of a text. -/
def opening (text : String) : List Char := text.toList.take 3

theorem opening_append {front : String} {letters : List Char} (h : front.toList.take 3 = letters)
    (hlength : letters.length = 3) (rest : String) : opening (front ++ rest) = letters := by
  have hfront := congrArg List.length h
  rw [List.length_take, hlength] at hfront
  rw [opening, String.toList_append, List.take_append_of_le_length (by omega), h]

@[simp] theorem opening_refactor (n : ℕ) : opening (refactor n) = ['R', 'e', 'f'] := by
  simp only [refactor, String.append_assoc]
  exact opening_append rfl rfl _

@[simp] theorem opening_address (n : ℕ) : opening (address n) = ['A', 'd', 'd'] := by
  simp only [address, String.append_assoc]
  exact opening_append rfl rfl _

@[simp] theorem opening_review (n : ℕ) : opening (review n) = ['R', 'e', 'v'] := by
  simp only [review, String.append_assoc]
  exact opening_append rfl rfl _

@[simp] theorem opening_reduce (share : String) : opening (reduce share) = ['R', 'e', 'd'] := by
  unfold reduce
  simp only [String.append_assoc]
  exact opening_append rfl rfl _

@[simp] theorem opening_update (n : ℕ) (names : String) :
    opening (update n names) = ['U', 'p', 'd'] := by
  simp only [update, String.append_assoc]
  exact opening_append rfl rfl _

@[simp] theorem opening_lock : opening lock = ['L', 'o', 'c'] := by simp [opening, lock]

@[simp] theorem opening_praise : opening praise = ['G', 'r', 'e'] := by simp [opening, praise]

/-- A number in a text is determined by it, and so is what follows the number. -/
theorem numbered_inj {front rest rest' : List Char} (hrest : Text.NoDigit rest)
    (hrest' : Text.NoDigit rest') {n m : ℕ}
    (h : front ++ (Nat.toDigits 10 n ++ rest) = front ++ (Nat.toDigits 10 m ++ rest')) :
    n = m ∧ rest = rest' := by
  have hspan := congrArg Text.digitSpan (List.append_cancel_left h)
  rw [Text.digitSpan_append (Text.digits_toDigits n) hrest,
    Text.digitSpan_append (Text.digits_toDigits m) hrest', Prod.mk.injEq] at hspan
  refine ⟨?_, hspan.2⟩
  rw [← Text.numeral_toDigits n, Text.numeral, hspan.1, ← Text.numeral, Text.numeral_toDigits]

theorem noDigit_append {s : String} (h : s.toList.head? = some ' ') (rest : List Char) :
    Text.NoDigit (s.toList ++ rest) := by
  obtain ⟨cs, hcs⟩ := List.head?_eq_some_iff.1 h
  rw [hcs]
  exact Text.noDigit_cons rfl _

/-- A text that counts something gives its number back. -/
theorem numbered_injective {text : ℕ → String} {front back rest : String}
    (htext : ∀ n, text n = front ++ toString n ++ back ++ rest)
    (hback : back.toList.head? = some ' ') :
    Function.Injective text := by
  intro n m h
  have hlist := congrArg String.toList ((htext n).symm.trans (h.trans (htext m)))
  simp only [String.toList_append, toString, Nat.toList_repr, List.append_assoc] at hlist
  have hrest := noDigit_append hback rest.toList
  exact (numbered_inj hrest hrest hlist).1

theorem refactor_injective : Function.Injective refactor := numbered_injective (fun _ => rfl) rfl

theorem address_injective : Function.Injective address := numbered_injective (fun _ => rfl) rfl

theorem review_injective : Function.Injective review := numbered_injective (fun _ => rfl) rfl

theorem update_inj {n m : ℕ} {names names' : String} (h : update n names = update m names') :
    n = m ∧ names = names' := by
  have hlist := congrArg String.toList h
  simp only [update, String.toList_append, toString, Nat.toList_repr, List.append_assoc] at hlist
  have hrest := noDigit_append (s := " dependenc(y/ies) with known vulnerabilities: ") rfl
  obtain ⟨hn, hnames⟩ := numbered_inj (hrest _) (hrest _) hlist
  exact ⟨hn, String.toList_injective (List.append_cancel_left hnames)⟩

theorem reduce_injective : Function.Injective reduce := by
  intro share share' h
  unfold reduce at h
  have hlist := congrArg String.toList h
  simp only [String.toList_append, toString, List.append_assoc] at hlist
  exact String.toList_injective (List.append_cancel_right (List.append_cancel_left hlist))

/-! ## Checks -/

theorem mem_counted {text : ℕ → String} (htext : Function.Injective text) {n m : ℕ} :
    text n ∈ counted m (text m) ↔ n = m ∧ 0 < n := by
  unfold counted
  split_ifs with hm
  · rw [List.mem_singleton, htext.eq_iff]
    exact ⟨fun h => ⟨h, h ▸ hm⟩, And.left⟩
  · refine iff_of_false List.not_mem_nil ?_
    rintro ⟨rfl, hn⟩
    exact hm hn

theorem eq_of_mem_counted {n : ℕ} {text t : String} (h : t ∈ counted n text) : t = text := by
  unfold counted at h
  split_ifs at h
  · exact List.mem_singleton.1 h
  · cases h

@[simp] theorem counted_eq_nil {n : ℕ} {text : String} : counted n text = [] ↔ n = 0 := by
  unfold counted
  split_ifs with h
  · simp [h.ne']
  · simp [Nat.eq_zero_of_not_pos h]

/-- The text about duplication is there just when the share is above the bound. -/
theorem ofDuplication_ok {d : DuplicationPart} {warning : Value} {texts : List String}
    (h : ofDuplication d warning = .ok texts) :
    (∀ share, reduce share ∈ texts ↔ d.percentage.test .gt warning = .ok true ∧
      d.percentage.fixed 1 = .ok share) ∧
      (∀ t ∈ texts, ∃ share, t = reduce share) ∧
      (texts = [] ↔ d.percentage.test .gt warning = .ok false) := by
  rw [ofDuplication, bind_eq_ok] at h
  obtain ⟨above, habove, h⟩ := h
  cases above with
  | false =>
    obtain rfl := Except.ok.inj h
    simp [habove]
  | true =>
    obtain ⟨share, hshare, h⟩ := bind_eq_ok.1 h
    obtain rfl := Except.ok.inj h
    simp [habove, hshare, reduce_injective.eq_iff, eq_comm]

/-! ## Vulnerable dependencies -/

/-- Vulnerabilities are counted or unknown. -/
def Counted (d : DependencyEntry) : Prop := d.vulnerabilities = .null ∨
  ∃ i, d.vulnerabilities = .int i

/-- Whether vulnerabilities are counted, and there are some. -/
def hasVulnerabilities (d : DependencyEntry) : Bool :=
  match d.vulnerabilities with
  | .int i => decide (0 < i)
  | _ => false

/-- The names of the dependencies with vulnerabilities. -/
def vulnerableNames (p : DependencyPart) : List String :=
  (p.dependencies.filter hasVulnerabilities).map (·.name.text)

theorem isVulnerable_eq {d : DependencyEntry} (h : Counted d) :
    d.isVulnerable = .ok (hasVulnerabilities d) := by
  unfold DependencyEntry.isVulnerable hasVulnerabilities
  rcases h with h | ⟨i, h⟩
  · rw [h]
    rfl
  · rw [h]
    by_cases hi : i = 0
    · subst hi
      rfl
    · have htruthy : (Value.int i).truthy = true := by simpa [Value.truthy] using hi
      rw [if_pos htruthy, Value.test_of_number rfl rfl, Comparison.ofNumbers_int_gt]

theorem vulnerable_eq {p : DependencyPart} (h : ∀ d ∈ p.dependencies, Counted d) :
    p.vulnerable = .ok (p.dependencies.filter hasVulnerabilities) :=
  filterM_eq_ok fun d hd => isVulnerable_eq (h d hd)

theorem joinable_ok {items : List Value} {position : ℕ} {texts : List String}
    (h : Value.joinable position items = .ok texts) : texts = items.map Value.text := by
  induction items generalizing position texts with
  | nil => exact (Except.ok.inj h).symm
  | cons v items ih =>
    cases v with
    | str s =>
      obtain ⟨rest, hrest, rfl⟩ := map_eq_ok.1 h
      rw [ih hrest]
      rfl
    | _ => cases h

theorem ofDependencies_ok {p : DependencyPart} (hp : ∀ d ∈ p.dependencies, Counted d)
    {texts : List String} (h : ofDependencies p = .ok texts) :
    texts = counted (vulnerableNames p).length
      (update (vulnerableNames p).length (String.intercalate ", " (vulnerableNames p))) := by
  unfold vulnerableNames
  rw [ofDependencies, vulnerable_eq hp] at h
  obtain ⟨_, ⟨⟩, h⟩ := bind_eq_ok.1 h
  cases hfound : p.dependencies.filter hasVulnerabilities with
  | nil =>
    rw [hfound] at h
    exact (Except.ok.inj h).symm
  | cons d found =>
    rw [hfound] at h
    obtain ⟨names, hnames, h⟩ := bind_eq_ok.1 h
    obtain rfl := Except.ok.inj h
    obtain ⟨joined, hjoined, rfl⟩ := map_eq_ok.1 hnames
    rw [joinable_ok hjoined, List.map_map, counted, if_pos (by simp), List.length_map]
    rfl

/-! ## All checks together -/

/-- The texts of some checks, each with the first letters of its texts. -/
abbrev Checks := List (List Char × List String)

/-- The texts of each check begin with its own letters. -/
structure Distinct (checks : Checks) : Prop where
  letters : (checks.map Prod.fst).Nodup
  texts : ∀ letters texts, (letters, texts) ∈ checks → ∀ t ∈ texts, opening t = letters

theorem Distinct.mem_iff {checks : Checks} (h : Distinct checks) {letters : List Char}
    {texts : List String} (hcheck : (letters, texts) ∈ checks) {t : String}
    (ht : opening t = letters) :
    t ∈ (checks.map Prod.snd).flatten ↔ t ∈ texts := by
  simp only [List.mem_flatten, List.mem_map]
  constructor
  · rintro ⟨_, ⟨⟨letters', texts'⟩, hmem, rfl⟩, ht'⟩
    have hsame : letters' = letters := (h.texts _ _ hmem t ht').symm.trans ht
    have heq := List.inj_on_of_nodup_map h.letters hmem hcheck hsame
    obtain rfl : texts' = texts := (Prod.mk.inj heq).2
    exact ht'
  · exact fun ht' => ⟨texts, ⟨_, hcheck, rfl⟩, ht'⟩

/-- What recommendations should say: each text is there just when its check asks for it, praise just
when none does, and nothing else is there. -/
structure Advises (high critical severe : ℕ) (rate warning : Value) (vulnerable : List String)
    (locked : Bool) (texts : List String) : Prop where
  mem_refactor : ∀ n, refactor n ∈ texts ↔ n = high ∧ 0 < n
  mem_address : ∀ n, address n ∈ texts ↔ n = critical ∧ 0 < n
  mem_review : ∀ n, review n ∈ texts ↔ n = severe ∧ 0 < n
  mem_reduce : ∀ share, reduce share ∈ texts ↔ rate.test .gt warning = .ok true ∧
    rate.fixed 1 = .ok share
  mem_update : ∀ n names, update n names ∈ texts ↔
    n = vulnerable.length ∧ 0 < n ∧ names = String.intercalate ", " vulnerable
  mem_lock : lock ∈ texts ↔ locked = false
  mem_praise : praise ∈ texts ↔ high = 0 ∧ critical = 0 ∧ severe = 0 ∧
    rate.test .gt warning = .ok false ∧
    vulnerable = [] ∧ locked = true
  complete : ∀ t ∈ texts, (∃ n, t = refactor n) ∨ (∃ n, t = address n) ∨ (∃ n, t = review n) ∨
    (∃ share, t = reduce share) ∨ (∃ n names, t = update n names) ∨ t = lock ∨ t = praise

section All

variable {high critical severe : ℕ} {shares vulnerable : List String} {locked : Bool}

/-- The texts of all checks. -/
def allChecks (high critical severe : ℕ) (shares vulnerable : List String)
    (locked : Bool) : Checks :=
  [(['R', 'e', 'f'], counted high (refactor high)),
    (['A', 'd', 'd'], counted critical (address critical)),
    (['R', 'e', 'v'], counted severe (review severe)), (['R', 'e', 'd'], shares),
    (['U', 'p', 'd'],
      counted vulnerable.length (update vulnerable.length (String.intercalate ", " vulnerable))),
    (['L', 'o', 'c'], if locked then [] else [lock])]

theorem mem_lock_if {t : String} :
    (t ∈ if locked then [] else [lock]) ↔ t = lock ∧ locked = false := by
  cases locked <;> simp

variable (high critical severe vulnerable locked) in
theorem distinct_allChecks (hshares : ∀ t ∈ shares, ∃ share, t = reduce share) :
    Distinct (allChecks high critical severe shares vulnerable locked) := by
  refine ⟨by simp [allChecks], ?_⟩
  simp only [allChecks, List.mem_cons, List.not_mem_nil, or_false, Prod.mk.injEq]
  rintro letters texts (⟨rfl, rfl⟩ | ⟨rfl, rfl⟩ | ⟨rfl, rfl⟩ | ⟨rfl, rfl⟩ | ⟨rfl, rfl⟩ | ⟨rfl, rfl⟩)
    t ht
  · rw [eq_of_mem_counted ht, opening_refactor]
  · rw [eq_of_mem_counted ht, opening_address]
  · rw [eq_of_mem_counted ht, opening_review]
  · obtain ⟨share, rfl⟩ := hshares t ht
    exact opening_reduce share
  · rw [eq_of_mem_counted ht, opening_update]
  · rw [(mem_lock_if.1 ht).1, opening_lock]

/-- The texts of all checks, or praise when there are none. -/
def orPraise (texts : List String) : List String := if texts.isEmpty then [praise] else texts

/-- Praise stands alone, and begins like no other text. -/
theorem mem_orPraise {texts : List String} {t : String} (ht : opening t ≠ opening praise) :
    t ∈ orPraise texts ↔ t ∈ texts := by
  unfold orPraise
  cases texts with
  | nil =>
    refine iff_of_false ?_ List.not_mem_nil
    intro h
    exact ht (congrArg opening (List.mem_singleton.1 h))
  | cons => rfl

theorem of_mem_orPraise {texts : List String} {t : String} (h : t ∈ orPraise texts) :
    t ∈ texts ∨ t = praise := by
  unfold orPraise at h
  split_ifs at h
  · exact .inr (List.mem_singleton.1 h)
  · exact .inl h

theorem praise_mem_orPraise {texts : List String} (h : praise ∉ texts) :
    praise ∈ orPraise texts ↔ texts = [] := by
  unfold orPraise
  cases texts with
  | nil => simp
  | cons t texts => exact iff_of_false h (List.cons_ne_nil _ _)

theorem Distinct.praise_not_mem {checks : Checks} (h : Distinct checks)
    (hletters : ['G', 'r', 'e'] ∉ checks.map Prod.fst) :
    praise ∉ (checks.map Prod.snd).flatten := by
  simp only [List.mem_flatten, List.mem_map]
  rintro ⟨_, ⟨⟨letters, texts⟩, hmem, rfl⟩, ht⟩
  have hsame := h.texts _ _ hmem praise ht
  rw [opening_praise] at hsame
  exact hletters (List.mem_map.2 ⟨_, hmem, hsame.symm⟩)

theorem allChecks_flatten_eq_nil :
    ((allChecks high critical severe shares vulnerable locked).map Prod.snd).flatten = [] ↔
      high = 0 ∧ critical = 0 ∧ severe = 0 ∧ shares = [] ∧ vulnerable = [] ∧ locked = true := by
  simp [allChecks]

theorem mem_allChecks_flatten {t : String}
    (h : t ∈ ((allChecks high critical severe shares vulnerable locked).map Prod.snd).flatten) :
    t = refactor high ∨ t = address critical ∨ t = review severe ∨ t ∈ shares ∨
      t = update vulnerable.length (String.intercalate ", " vulnerable) ∨ t = lock := by
  simp only [allChecks, List.map_cons, List.map_nil, List.flatten_cons, List.flatten_nil,
    List.append_nil, List.mem_append] at h
  rcases h with h | h | h | h | h | h
  · exact .inl (eq_of_mem_counted h)
  · exact .inr (.inl (eq_of_mem_counted h))
  · exact .inr (.inr (.inl (eq_of_mem_counted h)))
  · exact .inr (.inr (.inr (.inl h)))
  · exact .inr (.inr (.inr (.inr (.inl (eq_of_mem_counted h)))))
  · exact .inr (.inr (.inr (.inr (.inr (mem_lock_if.1 h).1))))

theorem mem_counted_update {n m : ℕ} {names names' : String} :
    update n names ∈ counted m (update m names') ↔ n = m ∧ 0 < n ∧ names = names' := by
  unfold counted
  split_ifs with hm
  · rw [List.mem_singleton]
    constructor
    · intro h
      obtain ⟨rfl, rfl⟩ := update_inj h
      exact ⟨rfl, hm, rfl⟩
    · rintro ⟨rfl, -, rfl⟩
      rfl
  · refine iff_of_false List.not_mem_nil ?_
    rintro ⟨rfl, hn, -⟩
    exact hm hn

variable (high critical severe vulnerable locked) in
/-- The texts of all checks advise as they should when those about duplication do. -/
theorem advises_orPraise {rate warning : Value}
    (hmem : ∀ share, reduce share ∈ shares ↔ rate.test .gt warning = .ok true ∧
      rate.fixed 1 = .ok share)
    (hshares : ∀ t ∈ shares, ∃ share, t = reduce share)
    (hnil : shares = [] ↔ rate.test .gt warning = .ok false) :
    Advises high critical severe rate warning vulnerable locked
      (orPraise ((allChecks high critical severe shares vulnerable locked).map
        Prod.snd).flatten) := by
  have hdistinct := distinct_allChecks high critical severe vulnerable locked hshares
  have hpraise := hdistinct.praise_not_mem (by simp [allChecks])
  constructor
  case mem_refactor =>
    intro n
    rw [mem_orPraise (by simp),
      hdistinct.mem_iff (.head _) (opening_refactor n), mem_counted refactor_injective]
  case mem_address =>
    intro n
    rw [mem_orPraise (by simp),
      hdistinct.mem_iff (.tail _ (.head _)) (opening_address n), mem_counted address_injective]
  case mem_review =>
    intro n
    rw [mem_orPraise (by simp),
      hdistinct.mem_iff (.tail _ (.tail _ (.head _))) (opening_review n),
      mem_counted review_injective]
  case mem_reduce =>
    intro share
    rw [mem_orPraise (by simp),
      hdistinct.mem_iff (.tail _ (.tail _ (.tail _ (.head _)))) (opening_reduce share), hmem]
  case mem_update =>
    intro n names
    rw [mem_orPraise (by simp),
      hdistinct.mem_iff (.tail _ (.tail _ (.tail _ (.tail _ (.head _))))) (opening_update n names),
      mem_counted_update]
  case mem_lock =>
    rw [mem_orPraise (by simp),
      hdistinct.mem_iff (.tail _ (.tail _ (.tail _ (.tail _ (.tail _ (.head _)))))) opening_lock,
      mem_lock_if,
      and_iff_right rfl]
  case mem_praise => rw [praise_mem_orPraise hpraise, allChecks_flatten_eq_nil, hnil]
  case complete =>
    intro t ht
    rcases of_mem_orPraise ht with ht | rfl
    swap
    · exact .inr (.inr (.inr (.inr (.inr (.inr rfl)))))
    rcases mem_allChecks_flatten ht with rfl | rfl | rfl | h | rfl | rfl
    · exact .inl ⟨_, rfl⟩
    · exact .inr (.inl ⟨_, rfl⟩)
    · exact .inr (.inr (.inl ⟨_, rfl⟩))
    · exact .inr (.inr (.inr (.inl (hshares t h))))
    · exact .inr (.inr (.inr (.inr (.inl ⟨_, _, rfl⟩))))
    · exact .inr (.inr (.inr (.inr (.inr (.inl rfl)))))

end All

/-- Whether a file is rated high or very high. -/
def ratedHigh (e : ComplexityEntry) : Bool := e.rating.isText "high" || e.rating.isText "very-high"

theorem highFiles_eq {complexity : List ComplexityEntry}
    (h : ∀ e ∈ complexity, ∃ rating, e.rating = .str rating) :
    highFiles complexity = .ok (complexity.filter ratedHigh) := by
  refine filterM_eq_ok fun e he => ?_
  obtain ⟨rating, hrating⟩ := h e he
  unfold ComplexityEntry.isHigh ratedHigh
  rw [hrating]
  rfl

/-- Each recommendation is there just when its check asks for it. -/
theorem recommendations_advises {complexity : List ComplexityEntry} {security : List SecurityEntry}
    {duplication : DuplicationPart} {dependencies : DependencyPart} {warning : Value}
    {texts : List String} (hrated : ∀ e ∈ complexity, ∃ rating, e.rating = .str rating)
    (hcounted : ∀ d ∈ dependencies.dependencies, Counted d)
    (h : recommendations complexity security duplication dependencies warning = .ok texts) :
    Advises (complexity.countP ratedHigh) (countIssues security "critical")
    (countIssues security "high")
      duplication.percentage warning (vulnerableNames dependencies)
      dependencies.locked.truthy texts := by
  rw [recommendations, highFiles_eq hrated] at h
  obtain ⟨_, ⟨⟩, h⟩ := bind_eq_ok.1 h
  obtain ⟨shares, hshares, h⟩ := bind_eq_ok.1 h
  obtain ⟨updates, hupdates, h⟩ := bind_eq_ok.1 h
  obtain rfl := ofDependencies_ok hcounted hupdates
  obtain ⟨hmem, hall, hnil⟩ := ofDuplication_ok hshares
  have hadvises := advises_orPraise (complexity.countP ratedHigh) (countIssues security "critical")
    (countIssues security "high") (vulnerableNames dependencies) dependencies.locked.truthy
    hmem hall hnil
  obtain rfl := Except.ok.inj h
  simpa [orPraise, allChecks, List.countP_eq_length_filter] using hadvises

end SourceSurvey.Recommendation
