import MacroFusion.Proofs.Analysis.Balance

/-!
# Independence: one rule more in the catalog

The records of all rules stand in one list, ordered by function and position, and rules may share their
names and their patterns, so two rules can even make the same record.  Which rule made a record is told by
its site.  A rule more in the table then adds the records of its own sites and moves no other.

* `Picks`               the entries of a list at certain indices;
* `Enumerates.unique`   an enumeration is determined by what it enumerates;
* `Enumerates.picks`    entries that are enumerated by other indices are the entries at those;
* `getElem?_insertIdx_of_ne`   where an entry stands before one more entry was put in;
* `Catalog.insertRule`, `Catalog.insertMissed`   one entry more in either table;
* `countP_scanMatches_insertRule`, `length_scanMisses_insertMissed`   the counters of one function;
* `run_independent`     the analysis under the longer table, taken apart.
-/

namespace MacroFusion

/-! ## Entries at some indices -/

/-- `ys` are the entries of `xs` at the indices that pass the test, where `P` tells what is at which
index -/
def Picks {ι α : Type} (lt : ι → ι → Prop) (P : ι → α → Prop) (q : ι → Prop) [DecidablePred q]
    (xs ys : List α) : Prop :=
  ∃ is : List ι, is.Pairwise lt ∧ (∀ i, i ∈ is ↔ ∃ x, P i x) ∧ List.Forall₂ P is xs
    ∧ ys = ((is.zip xs).filter fun entry => q entry.1).map Prod.snd

namespace Enumerates
variable {ι α : Type} {lt : ι → ι → Prop} {P Q : ι → α → Prop} {xs ys : List α}

theorem unique (hlt : ∀ i j, lt i j → ¬ lt j i) (hP : ∀ i x y, P i x → P i y → x = y)
    (hx : Enumerates lt P xs) (hy : Enumerates lt P ys) : xs = ys := by
  obtain ⟨is, his, hmi, hxs⟩ := hx
  obtain ⟨js, hjs, hmj, hys⟩ := hy
  have nodup : ∀ {ks : List ι}, ks.Pairwise lt → ks.Nodup := by
    intro ks hks
    refine hks.imp ?_
    intro i j hij heq
    rw [heq] at hij
    exact hlt j j hij hij
  have hperm : is.Perm js := by
    apply (List.perm_ext_iff_of_nodup (nodup his) (nodup hjs)).mpr
    intro i
    rw [hmi, hmj]
  have hij : is = js :=
    hperm.eq_of_pairwise (fun i j _ _ h h' => absurd h' (hlt i j h)) his hjs
  rw [← hij] at hys
  exact List.right_unique_forall₂' (fun i x y => hP i x y) hxs hys

theorem exists_picks (q : ι → Prop) [DecidablePred q] (h : Enumerates lt P xs) :
    ∃ ys, Picks lt P q xs ys ∧ Enumerates lt (fun i x => q i ∧ P i x) ys := by
  obtain ⟨is, hlt, hmem, hall⟩ := h
  refine ⟨_, ⟨is, hlt, hmem, hall, rfl⟩, is.filter fun i => q i, hlt.filter _, ?_, ?_⟩
  · intro i
    rw [List.mem_filter, hmem, decide_eq_true_iff]
    constructor
    · rintro ⟨⟨x, hx⟩, hq⟩
      exact ⟨x, hq, hx⟩
    · rintro ⟨x, hq, hx⟩
      exact ⟨⟨x, hx⟩, hq⟩
  · clear hlt hmem
    induction hall with
    | nil => exact List.Forall₂.nil
    | @cons i x is xs hx _ ih =>
      rw [List.zip_cons_cons, List.filter_cons, List.filter_cons]
      by_cases hq : q i
      · rw [if_pos (decide_eq_true hq), if_pos (decide_eq_true hq)]
        exact List.Forall₂.cons ⟨hq, hx⟩ ih
      · rw [if_neg (by simpa using hq), if_neg (by simpa using hq)]
        exact ih

/-- A list that has the same entries by other indices: `g` takes the indices of the long list that pass
the test to those of the short one, and keeps their order. -/
theorem picks (hlt : ∀ i j, lt i j → ¬ lt j i) (hQ : ∀ i x y, Q i x → Q i y → x = y)
    (hx : Enumerates lt P xs) (hy : Enumerates lt Q ys) (q : ι → Prop) [DecidablePred q] (g : ι → ι)
    (hg : ∀ i j, q i → q j → lt i j → lt (g i) (g j))
    (hPQ : ∀ i x, Q i x ↔ ∃ j, g j = i ∧ q j ∧ P j x) : Picks lt P q xs ys := by
  obtain ⟨zs, hpick, henum⟩ := hx.exists_picks q
  have hzs : Enumerates lt Q zs :=
    henum.reindex g (fun i j _ _ hi hj hij => hg i j hi.1 hj.1 hij) hPQ
  rwa [unique hlt hQ hzs hy] at hpick

end Enumerates

/-! ## One entry more in a table -/

section
variable {α : Type}

/-- the place of an entry before one more was put in at `k` -/
def lowered (k j : Nat) : Nat := if j < k then j else j - 1

/-- the place of an entry after one more was put in at `k` -/
def raised (k j : Nat) : Nat := if j < k then j else j + 1

theorem raised_ne (k j : Nat) : raised k j ≠ k := by
  unfold raised
  split <;> omega

theorem lowered_raised (k j : Nat) : lowered k (raised k j) = j := by
  unfold raised
  split
  · rename_i h
    exact if_pos h
  · rename_i h
    have h' : ¬ j + 1 < k := by omega
    rw [lowered, if_neg h', Nat.add_sub_cancel]

theorem lowered_lt_lowered {k i j : Nat} (hi : i ≠ k) (hj : j ≠ k) (h : i < j) :
    lowered k i < lowered k j := by
  unfold lowered
  split <;> split <;> omega

theorem getElem?_insertIdx_of_ne {k j : Nat} (h : j ≠ k) (x : α) (l : List α) :
    (l.insertIdx k x)[j]? = l[lowered k j]? := by
  rw [List.getElem?_insertIdx, lowered, if_neg h]
  split <;> rfl

end

namespace Catalog

/-- the catalog with a rule more, at place `k` of its table -/
def insertRule (c : Catalog) (k : Nat) (r : Rule) : Catalog := { c with rules := c.rules.insertIdx k r }

/-- the catalog with an opportunity more, at place `k` of its table -/
def insertMissed (c : Catalog) (k : Nat) (p : MissedPattern) : Catalog :=
  { c with missed := c.missed.insertIdx k p }

/-- the rule on its own -/
def onlyRule (c : Catalog) (r : Rule) : Catalog := { c with rules := [r], missed := [] }

/-- the opportunity on its own -/
def onlyMissed (c : Catalog) (p : MissedPattern) : Catalog := { c with rules := [], missed := [p] }

/-! ## The scan of one function -/

theorem scanMatches_congr {c d : Catalog} {function : String}
    (h : ∀ a b, c.matchesAt function a b = d.matchesAt function a b) (is : List Instruction) :
    c.scanMatches function is = d.scanMatches function is := by
  induction is with
  | nil => rfl
  | cons a is ih =>
    cases is with
    | nil => rfl
    | cons b rest => rw [scanMatches, scanMatches, ih, h]

theorem scanMisses_congr {c d : Catalog} {function : String}
    (h : ∀ a window, c.missesAt function a window = d.missesAt function a window)
    (is : List Instruction) : c.scanMisses function is = d.scanMisses function is := by
  induction is with
  | nil => rfl
  | cons a is ih =>
    cases is with
    | nil => rfl
    | cons b rest => rw [scanMisses, scanMisses, ih, h]

section
variable (c : Catalog) {k : Nat} (function : String)

theorem scanMisses_insertRule (r : Rule) (is : List Instruction) :
    (c.insertRule k r).scanMisses function is = c.scanMisses function is := by
  apply scanMisses_congr
  intro a window
  rfl

theorem scanMatches_insertMissed (p : MissedPattern) (is : List Instruction) :
    (c.insertMissed k p).scanMatches function is = c.scanMatches function is := by
  apply scanMatches_congr
  intro a b
  rfl

theorem countP_matchesAt_insertRule (hk : k ≤ c.rules.length) (r : Rule) (q : Match → Bool)
    (a b : Instruction) :
    ((c.insertRule k r).matchesAt function a b).countP q
      = (c.matchesAt function a b).countP q + ((c.onlyRule r).matchesAt function a b).countP q := by
  unfold matchesAt
  rw [insertRule, onlyRule, (((List.perm_insertIdx r c.rules hk).filter _).map _).countP_eq,
    ← List.singleton_append, List.filter_append, List.map_append, List.countP_append, Nat.add_comm]

theorem countP_scanMatches_insertRule (hk : k ≤ c.rules.length) (r : Rule) (q : Match → Bool)
    (is : List Instruction) :
    ((c.insertRule k r).scanMatches function is).countP q
      = (c.scanMatches function is).countP q + ((c.onlyRule r).scanMatches function is).countP q := by
  induction is with
  | nil => rfl
  | cons a is ih =>
    cases is with
    | nil => rfl
    | cons b rest =>
      have hstep := c.countP_matchesAt_insertRule function hk r q a b
      simp only [scanMatches, List.countP_append]
      omega

theorem length_missesAt_insertMissed (hk : k ≤ c.missed.length) (p : MissedPattern)
    (a : Instruction) (window : List Instruction) :
    ((c.insertMissed k p).missesAt function a window).length
      = (c.missesAt function a window).length
        + ((c.onlyMissed p).missesAt function a window).length := by
  unfold missesAt
  rw [insertMissed, onlyMissed, (((List.perm_insertIdx p c.missed hk).filter _).map _).length_eq,
    ← List.singleton_append, List.filter_append, List.map_append, List.length_append, Nat.add_comm]

theorem length_scanMisses_insertMissed (hk : k ≤ c.missed.length) (p : MissedPattern)
    (is : List Instruction) :
    ((c.insertMissed k p).scanMisses function is).length
      = (c.scanMisses function is).length + ((c.onlyMissed p).scanMisses function is).length := by
  induction is with
  | nil => rfl
  | cons a is ih =>
    cases is with
    | nil => rfl
    | cons b rest =>
      have hstep := c.length_missesAt_insertMissed function hk p a ((a :: b :: rest).take Detector.reach)
      simp only [scanMisses, List.length_append]
      omega

end

end Catalog

/-! ## Tallies -/

namespace Tally

/-- the fused pairs of `t` counted on top of those of `s` -/
def addFused (s t : Tally) : Tally :=
  { s with
    universal := s.universal + t.universal
    implementationSpecific := s.implementationSpecific + t.implementationSpecific }

/-- the missed opportunities of `t` counted on top of those of `s` -/
def addMissed (s t : Tally) : Tally := { s with missed := s.missed + t.missed }

end Tally

namespace Catalog

theorem tally_insertRule (c : Catalog) {k : Nat} (hk : k ≤ c.rules.length) (r : Rule) (f : Function) :
    ((c.insertRule k r).scan f).tally = (c.scan f).tally.addFused ((c.onlyRule r).scan f).tally := by
  have hu := c.countP_scanMatches_insertRule f.name hk r (·.category = .universal) f.instructions
  have hs := c.countP_scanMatches_insertRule f.name hk r (·.category = .implementationSpecific)
    f.instructions
  unfold Tally.addFused
  simp only [scan_eq, hu, hs, scanMisses_insertRule, Int.natCast_add]

theorem tally_insertMissed (c : Catalog) {k : Nat} (hk : k ≤ c.missed.length) (p : MissedPattern)
    (f : Function) :
    ((c.insertMissed k p).scan f).tally
      = (c.scan f).tally.addMissed ((c.onlyMissed p).scan f).tally := by
  have hm := c.length_scanMisses_insertMissed f.name hk p f.instructions
  unfold Tally.addMissed
  simp only [scan_eq, hm, scanMatches_insertMissed, Int.natCast_add]

end Catalog

/-! ## Sites -/

namespace Analysis

theorem before_asymm (s t : Nat × Nat × Nat) (h : Before s t) : ¬ Before t s := by
  intro h'
  simp only [Before, Prod.lex_def] at h h'
  omega

/-- another order of the rules at one position does not matter to sites at other positions -/
theorem before_of_rule_lt {s t : Nat × Nat × Nat} {u v : Nat} (h : Before s t)
    (huv : s.2.2 < t.2.2 → u < v) : Before (s.1, s.2.1, u) (t.1, t.2.1, v) := by
  simp only [Before, Prod.lex_def] at h ⊢
  rcases h with h | ⟨h1, h | ⟨h2, h⟩⟩
  · exact Or.inl h
  · exact Or.inr ⟨h1, Or.inl h⟩
  · exact Or.inr ⟨h1, Or.inr ⟨h2, huv h⟩⟩

section
variable {α : Type} {P P' : Nat × Nat × Nat → α → Prop} {xs xs' : List α} {k : Nat}

/-- what is left of a longer table without entry number `k` -/
theorem picks_others (hP : ∀ s x y, P s x → P s y → x = y) (h' : Enumerates Before P' xs')
    (h : Enumerates Before P xs)
    (hk : ∀ f i j x, j ≠ k → (P' (f, i, j) x ↔ P (f, i, lowered k j) x)) :
    Picks Before P' (fun site => site.2.2 ≠ k) xs' xs := by
  refine h'.picks before_asymm hP h _ (fun s => (s.1, s.2.1, lowered k s.2.2)) ?_ ?_
  · intro s t hs ht hst
    exact before_of_rule_lt hst (lowered_lt_lowered hs ht)
  · rintro ⟨f, i, j⟩ x
    constructor
    · intro hx
      refine ⟨(f, i, raised k j), by rw [lowered_raised], raised_ne k j, ?_⟩
      rwa [hk f i _ x (raised_ne k j), lowered_raised]
    · rintro ⟨⟨f', i', j'⟩, heq, hne, hx⟩
      rw [hk f' i' j' x hne] at hx
      rwa [← heq]

/-- what entry number `k` of a longer table makes, which stands alone in another -/
theorem picks_own (hP : ∀ s x y, P s x → P s y → x = y) (h' : Enumerates Before P' xs')
    (h : Enumerates Before P xs) (hk : ∀ f i x, P' (f, i, k) x ↔ P (f, i, 0) x)
    (h0 : ∀ f i j x, P (f, i, j) x → j = 0) :
    Picks Before P' (fun site => site.2.2 = k) xs' xs := by
  refine h'.picks before_asymm hP h _ (fun s => (s.1, s.2.1, 0)) ?_ ?_
  · intro s t hs ht hst
    refine before_of_rule_lt hst ?_
    intro hlt
    rw [hs, ht] at hlt
    exact absurd hlt (Nat.lt_irrefl k)
  · rintro ⟨f, i, j⟩ x
    constructor
    · intro hx
      obtain rfl := h0 f i j x hx
      exact ⟨(f, i, k), rfl, rfl, (hk f i x).mpr hx⟩
    · rintro ⟨⟨f', i', j'⟩, heq, rfl, hx⟩
      rw [← heq]
      exact (hk f' i' x).mp hx

end

section
variable {c d : Catalog} {fs : List Function}

theorem fused_enumerates (c : Catalog) (fs : List Function) (lowConfidence : Bool)
    (warnings : List String) :
    Enumerates Before (FusedAt c fs) (ofFunctions c fs lowConfidence warnings).fused := by
  rw [fused_ofFunctions]
  exact Enumerates.flatMap fs fun f => c.scanMatches_enumerates f.name f.instructions

theorem missed_enumerates (c : Catalog) (fs : List Function) (lowConfidence : Bool)
    (warnings : List String) :
    Enumerates Before (MissedAt c fs) (ofFunctions c fs lowConfidence warnings).missed := by
  rw [missed_ofFunctions]
  exact Enumerates.flatMap fs fun f => c.scanMisses_enumerates f.name f.instructions

theorem FusedAt.unique (s : Nat × Nat × Nat) (m m' : Match) (h : FusedAt c fs s m)
    (h' : FusedAt c fs s m') : m = m' := by
  obtain ⟨f, hf, h⟩ := h
  obtain ⟨f', hf', h'⟩ := h'
  obtain rfl : f = f' := Option.some.inj (hf.symm.trans hf')
  exact Catalog.FusedIn.unique h h'

theorem MissedAt.unique (s : Nat × Nat × Nat) (m m' : Miss) (h : MissedAt c fs s m)
    (h' : MissedAt c fs s m') : m = m' := by
  obtain ⟨f, hf, h⟩ := h
  obtain ⟨f', hf', h'⟩ := h'
  obtain rfl : f = f' := Option.some.inj (hf.symm.trans hf')
  exact Catalog.MissedIn.unique h h'

/-- a record tells nothing of the number of its rule -/
theorem fusedAt_congr {f i j j' : Nat} (h : c.rules[j]? = d.rules[j']?) (m : Match) :
    FusedAt c fs (f, i, j) m ↔ FusedAt d fs (f, i, j') m := by
  simp only [FusedAt, Catalog.FusedIn, h]

theorem missedAt_congr {f i j j' : Nat} (h : c.missed[j]? = d.missed[j']?) (m : Miss) :
    MissedAt c fs (f, i, j) m ↔ MissedAt d fs (f, i, j') m := by
  simp only [MissedAt, Catalog.MissedIn, h]

end

/-- every function has its tally, whatever the catalog -/
theorem length_perFunction (c d : Catalog) (fs : List Function) (lowConfidence : Bool)
    (warnings : List String) :
    (ofFunctions c fs lowConfidence warnings).perFunction.length
      = (ofFunctions d fs lowConfidence warnings).perFunction.length := by
  rw [perFunction_ofFunctions, perFunction_ofFunctions, List.length_map, List.length_map]

section
variable (c : Catalog) {k : Nat} (fs : List Function) (lowConfidence : Bool) (warnings : List String)

theorem fused_insertRule_others (r : Rule) :
    Picks Before (FusedAt (c.insertRule k r) fs) (fun site => site.2.2 ≠ k)
      (ofFunctions (c.insertRule k r) fs lowConfidence warnings).fused
      (ofFunctions c fs lowConfidence warnings).fused := by
  refine picks_others FusedAt.unique (fused_enumerates _ fs lowConfidence warnings)
    (fused_enumerates c fs lowConfidence warnings) ?_
  intro f i j m hj
  exact fusedAt_congr (getElem?_insertIdx_of_ne hj r c.rules) m

theorem fused_insertRule_own (hk : k ≤ c.rules.length) (r : Rule) :
    Picks Before (FusedAt (c.insertRule k r) fs) (fun site => site.2.2 = k)
      (ofFunctions (c.insertRule k r) fs lowConfidence warnings).fused
      (ofFunctions (c.onlyRule r) fs lowConfidence warnings).fused := by
  refine picks_own FusedAt.unique (fused_enumerates _ fs lowConfidence warnings)
    (fused_enumerates _ fs lowConfidence warnings) ?_ ?_
  · intro f i m
    have hr : (c.rules.insertIdx k r)[k]? = some r := by rw [List.getElem?_insertIdx_self, if_pos hk]
    exact fusedAt_congr hr m
  · rintro f i j m ⟨_, _, a, b, rule, _, _, hrule, _⟩
    have hj : j < [r].length := (List.getElem?_eq_some_iff.mp hrule).1
    exact Nat.lt_one_iff.mp hj

theorem perFunction_insertRule (hk : k ≤ c.rules.length) (r : Rule) :
    (ofFunctions (c.insertRule k r) fs lowConfidence warnings).perFunction
      = List.zipWith Tally.addFused (ofFunctions c fs lowConfidence warnings).perFunction
        (ofFunctions (c.onlyRule r) fs lowConfidence warnings).perFunction := by
  simp only [perFunction_ofFunctions, List.zipWith_map, List.zipWith_self, c.tally_insertRule hk r]

theorem ofFunctions_insertRule (r : Rule) :
    let before := ofFunctions c fs lowConfidence warnings
    let after := ofFunctions (c.insertRule k r) fs lowConfidence warnings
    after = { before with fused := after.fused, perFunction := after.perFunction } := by
  intro before after
  have hmissed : after.missed = before.missed := by
    show (ofFunctions (c.insertRule k r) fs lowConfidence warnings).missed
      = (ofFunctions c fs lowConfidence warnings).missed
    simp only [missed_ofFunctions, Catalog.scanMisses_insertRule]
  have htotal : after.totalInstructions = before.totalInstructions := by
    show (ofFunctions (c.insertRule k r) fs lowConfidence warnings).totalInstructions
      = (ofFunctions c fs lowConfidence warnings).totalInstructions
    rw [totalInstructions_ofFunctions, totalInstructions_ofFunctions]
  rw [← hmissed, ← htotal]
  rfl

theorem missed_insertMissed_others (p : MissedPattern) :
    Picks Before (MissedAt (c.insertMissed k p) fs) (fun site => site.2.2 ≠ k)
      (ofFunctions (c.insertMissed k p) fs lowConfidence warnings).missed
      (ofFunctions c fs lowConfidence warnings).missed := by
  refine picks_others MissedAt.unique (missed_enumerates _ fs lowConfidence warnings)
    (missed_enumerates c fs lowConfidence warnings) ?_
  intro f i j m hj
  exact missedAt_congr (getElem?_insertIdx_of_ne hj p c.missed) m

theorem missed_insertMissed_own (hk : k ≤ c.missed.length) (p : MissedPattern) :
    Picks Before (MissedAt (c.insertMissed k p) fs) (fun site => site.2.2 = k)
      (ofFunctions (c.insertMissed k p) fs lowConfidence warnings).missed
      (ofFunctions (c.onlyMissed p) fs lowConfidence warnings).missed := by
  refine picks_own MissedAt.unique (missed_enumerates _ fs lowConfidence warnings)
    (missed_enumerates _ fs lowConfidence warnings) ?_ ?_
  · intro f i m
    have hp : (c.missed.insertIdx k p)[k]? = some p := by rw [List.getElem?_insertIdx_self, if_pos hk]
    exact missedAt_congr hp m
  · rintro f i j m ⟨_, _, a, pattern, _, _, hpattern, _⟩
    have hj : j < [p].length := (List.getElem?_eq_some_iff.mp hpattern).1
    exact Nat.lt_one_iff.mp hj

theorem perFunction_insertMissed (hk : k ≤ c.missed.length) (p : MissedPattern) :
    (ofFunctions (c.insertMissed k p) fs lowConfidence warnings).perFunction
      = List.zipWith Tally.addMissed (ofFunctions c fs lowConfidence warnings).perFunction
        (ofFunctions (c.onlyMissed p) fs lowConfidence warnings).perFunction := by
  simp only [perFunction_ofFunctions, List.zipWith_map, List.zipWith_self, c.tally_insertMissed hk p]

theorem ofFunctions_insertMissed (p : MissedPattern) :
    let before := ofFunctions c fs lowConfidence warnings
    let after := ofFunctions (c.insertMissed k p) fs lowConfidence warnings
    after = { before with missed := after.missed, perFunction := after.perFunction } := by
  intro before after
  have hfused : after.fused = before.fused := by
    show (ofFunctions (c.insertMissed k p) fs lowConfidence warnings).fused
      = (ofFunctions c fs lowConfidence warnings).fused
    simp only [fused_ofFunctions, Catalog.scanMatches_insertMissed]
  have htotal : after.totalInstructions = before.totalInstructions := by
    show (ofFunctions (c.insertMissed k p) fs lowConfidence warnings).totalInstructions
      = (ofFunctions c fs lowConfidence warnings).totalInstructions
    rw [totalInstructions_ofFunctions, totalInstructions_ofFunctions]
  rw [← hfused, ← htotal]
  rfl

end

/-- **Rules are independent of each other, and so are opportunities.**  With one rule more in the table,
wherever it is put in, the fused pairs without those of its sites are the ones that were there before, and
those of its sites are the ones that it finds on its own; nothing else changes but the counts of fused
pairs, which grow by its own.  In the same way one opportunity more only adds its own misses, and their
counts. -/
theorem run_independent (c : Catalog) (workers : Nat) (functions : List Function)
    (filter : Option String) (lowConfidence : Bool) (warnings : List String) :
    let analysis (d : Catalog) := run d workers functions filter lowConfidence warnings
    let scanned := select filter functions
    (∀ (k : Fin (c.rules.length + 1)) (r : Rule),
      let before := analysis c
      let after := analysis (c.insertRule k r)
      let own := analysis (c.onlyRule r)
      Picks Before (FusedAt (c.insertRule k r) scanned) (fun site => site.2.2 ≠ k)
        after.fused before.fused
      ∧ Picks Before (FusedAt (c.insertRule k r) scanned) (fun site => site.2.2 = k)
        after.fused own.fused
      ∧ own.perFunction.length = before.perFunction.length
      ∧ after.perFunction = List.zipWith Tally.addFused before.perFunction own.perFunction
      ∧ after = { before with fused := after.fused, perFunction := after.perFunction })
    ∧ ∀ (k : Fin (c.missed.length + 1)) (p : MissedPattern),
      let before := analysis c
      let after := analysis (c.insertMissed k p)
      let own := analysis (c.onlyMissed p)
      Picks Before (MissedAt (c.insertMissed k p) scanned) (fun site => site.2.2 ≠ k)
        after.missed before.missed
      ∧ Picks Before (MissedAt (c.insertMissed k p) scanned) (fun site => site.2.2 = k)
        after.missed own.missed
      ∧ own.perFunction.length = before.perFunction.length
      ∧ after.perFunction = List.zipWith Tally.addMissed before.perFunction own.perFunction
      ∧ after = { before with missed := after.missed, perFunction := after.perFunction } := by
  simp only [run_eq]
  generalize select filter functions = fs
  constructor
  · intro k r
    have hk : k.val ≤ c.rules.length := Nat.le_of_lt_succ k.isLt
    exact ⟨fused_insertRule_others c fs lowConfidence warnings r,
      fused_insertRule_own c fs lowConfidence warnings hk r,
      length_perFunction (c.onlyRule r) c fs lowConfidence warnings,
      perFunction_insertRule c fs lowConfidence warnings hk r,
      ofFunctions_insertRule c fs lowConfidence warnings r⟩
  · intro k p
    have hk : k.val ≤ c.missed.length := Nat.le_of_lt_succ k.isLt
    exact ⟨missed_insertMissed_others c fs lowConfidence warnings p,
      missed_insertMissed_own c fs lowConfidence warnings hk p,
      length_perFunction (c.onlyMissed p) c fs lowConfidence warnings,
      perFunction_insertMissed c fs lowConfidence warnings hk p,
      ofFunctions_insertMissed c fs lowConfidence warnings p⟩

end Analysis

end MacroFusion
