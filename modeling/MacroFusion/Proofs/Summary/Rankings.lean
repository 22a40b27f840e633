import MacroFusion.Proofs.Summary.Views

/-!
# Rankings: what a stable sort by weight leaves to choose

Names are ranked by their counts, and functions by their findings.  Both rankings are stable sorts: what
weighs more goes first, and what weighs the same keeps the order in which it came.  That fixes the place
of every entry, so that a ranking is known by what is in it.

* `Ahead`              before in a ranking: more weight, or as much and an earlier place;
* `filter_mergeSort`   a sort keeps the order of elements that tie;
* `pairwise_ahead_mergeSort`   so a list in the order of places is sorted to one in which all that stands
                       before is ahead;
* `IsRanking`          the distinct names with their counts, those with higher counts and then those that
                       came earlier first;
* `IsRanking.unique`   there is one such list;
* `IsRanking.filter`   a part of it ranks a part of the names;
* `isRanking_iff_eq_ranked`   it is the one that is made, and it counts every occurrence, as do the counts
                       of every summary.
-/

namespace MacroFusion

/-! ## Stable sorts -/

section
variable {α κ : Type} [LinearOrder κ]

/-- `a` goes before `b`: it has more weight, or as much and an earlier place -/
def Ahead (weight : α → κ) (place : α → Nat) (a b : α) : Prop :=
  weight b < weight a ∨ (weight b = weight a ∧ place a < place b)

instance (weight : α → κ) (place : α → Nat) (a b : α) : Decidable (Ahead weight place a b) :=
  inferInstanceAs (Decidable (weight b < weight a ∨ (weight b = weight a ∧ place a < place b)))

theorem Ahead.asymm {weight : α → κ} {place : α → Nat} {a b : α} (h : Ahead weight place a b) :
    ¬ Ahead weight place b a := by
  rcases h with h | ⟨hw, hp⟩
  · rintro (h' | ⟨hw', -⟩)
    · exact lt_asymm h h'
    · exact h.ne' hw'
  · rintro (h' | ⟨-, hp'⟩)
    · exact h'.ne' hw
    · exact lt_asymm hp hp'

instance (weight : α → κ) (place : α → Nat) : Std.Irrefl (Ahead weight place) :=
  ⟨fun _ h => h.asymm h⟩

instance (weight : α → κ) (place : α → Nat) : Std.Antisymm (Ahead weight place) :=
  ⟨fun _ _ h h' => absurd h' h.asymm⟩

/-- Elements that tie with each other stay as they were. -/
theorem filter_mergeSort {le : α → α → Bool} (trans : ∀ a b c, le a b → le b c → le a c)
    (total : ∀ a b, le a b || le b a) {p : α → Bool} (tie : ∀ a b, p a → p b → le a b)
    (xs : List α) : (xs.mergeSort le).filter p = xs.filter p := by
  have hties : (xs.filter p).Pairwise fun a b => le a b :=
    List.pairwise_filter.mpr (List.pairwise_of_forall tie)
  have hsub : (xs.filter p).Sublist (xs.mergeSort le) :=
    List.sublist_mergeSort trans total hties List.filter_sublist
  have hfilter : (xs.filter p).Sublist ((xs.mergeSort le).filter p) := by
    have h := hsub.filter p
    rwa [List.filter_filter, funext fun x => Bool.and_self (p x)] at h
  exact (hfilter.eq_of_length ((List.mergeSort_perm xs le).filter p).length_eq.symm).symm

/-- **A stable sort by weight.**  What stands before is ahead, if the list was in the order of places. -/
theorem pairwise_ahead_mergeSort {weight : α → κ} {place : α → Nat} {xs : List α}
    (h : xs.Pairwise fun a b => place a < place b) :
    (xs.mergeSort fun a b => weight b ≤ weight a).Pairwise (Ahead weight place) := by
  have trans : ∀ a b c : α, decide (weight b ≤ weight a) = true →
      decide (weight c ≤ weight b) = true → decide (weight c ≤ weight a) = true := by
    intro a b c hab hbc
    simp only [decide_eq_true_eq] at hab hbc ⊢
    exact hbc.trans hab
  have total : ∀ a b : α, (decide (weight b ≤ weight a) || decide (weight a ≤ weight b)) = true := by
    intro a b
    simpa using le_total (weight b) (weight a)
  refine List.pairwise_iff_forall_sublist.mpr fun {a b} hab => ?_
  have hle : weight b ≤ weight a := by
    simpa using List.pairwise_iff_forall_sublist.mp (List.pairwise_mergeSort trans total xs) hab
  rcases hle.lt_or_eq with hlt | heq
  · exact Or.inl hlt
  · -- of the elements with this weight, the two stand in the order in which they came
    have hkept := filter_mergeSort trans total (p := fun x => weight x = weight a)
      (fun x y hx hy => by simp_all) xs
    have hpair : [a, b].Sublist ((xs.mergeSort fun a b => weight b ≤ weight a).filter
        fun x => weight x = weight a) := by
      have hf := hab.filter fun x => weight x = weight a
      rwa [List.filter_cons_of_pos (by simp), List.filter_cons_of_pos (by simpa using heq),
        List.filter_nil] at hf
    rw [hkept] at hpair
    exact Or.inr ⟨heq, List.pairwise_iff_forall_sublist.mp h (hpair.trans List.filter_sublist)⟩

end

/-! ## Names by count -/

/-- of two distinct names, the first to come is the first to be listed -/
theorem distinct_pairwise (names : List String) :
    (distinct names).Pairwise fun a b => names.idxOf a < names.idxOf b := by
  induction names using List.reverseRecOn with
  | nil => exact .nil
  | append_singleton names name ih =>
    -- a name more does not change where the others first come
    have hidx : ∀ other ∈ distinct names, (names ++ [name]).idxOf other = names.idxOf other := by
      intro other ho
      rw [List.idxOf_append, if_pos (mem_distinct.mp ho)]
    have hbefore : (distinct names).Pairwise fun a b =>
        (names ++ [name]).idxOf a < (names ++ [name]).idxOf b := by
      refine ih.imp_of_mem fun {a b} ha hb hab => ?_
      rwa [hidx a ha, hidx b hb]
    rw [distinct_concat]
    by_cases h : name ∈ names
    · rwa [if_pos h]
    · rw [if_neg h]
      refine List.pairwise_append.mpr ⟨hbefore, List.pairwise_singleton _ _, ?_⟩
      intro other ho last hlast
      rw [List.mem_singleton.mp hlast, hidx other ho, List.idxOf_append, if_neg h]
      exact Nat.lt_add_left _ (List.idxOf_lt_length_iff.mpr (mem_distinct.mp ho))

/-- names that are left out do not change which of two others comes first -/
theorem idxOf_filter_lt {p : String → Bool} {names : List String} {a b : String} (ha : p a = true)
    (h : names.idxOf a < names.idxOf b) :
    (names.filter p).idxOf a < (names.filter p).idxOf b := by
  induction names with
  | nil => exact h
  | cons name names ih =>
    have hne : name ≠ b := by
      intro e
      rw [e, List.idxOf_cons_self] at h
      exact Nat.not_lt_zero _ h
    by_cases hp : p name = true
    · rw [List.filter_cons_of_pos hp, List.idxOf_cons_ne _ hne]
      by_cases hn : name = a
      · rw [hn, List.idxOf_cons_self]
        exact Nat.succ_pos _
      · rw [List.idxOf_cons_ne _ hn, List.idxOf_cons_ne _ hne] at h
        rw [List.idxOf_cons_ne _ hn]
        exact Nat.succ_lt_succ (ih (Nat.lt_of_succ_lt_succ h))
    · have hn : name ≠ a := fun e => hp (e ▸ ha)
      rw [List.idxOf_cons_ne _ hn, List.idxOf_cons_ne _ hne] at h
      rw [List.filter_cons_of_neg hp]
      exact ih (Nat.lt_of_succ_lt_succ h)

/-- the distinct names, each once and with the number of its occurrences, higher counts first and names
of equal counts in the order of their first occurrences -/
structure IsRanking (names : List String) (ranking : List (String × Nat)) : Prop where
  nodup : (ranking.map (·.1)).Nodup
  mem_iff : ∀ name, name ∈ ranking.map (·.1) ↔ name ∈ names
  count_eq : ∀ entry ∈ ranking, entry.2 = names.count entry.1
  ordered : ranking.Pairwise (Ahead (·.2) fun entry => names.idxOf entry.1)

theorem isRanking_ranked (names : List String) : IsRanking names (ranked names) := by
  have hkeys : (counted names).keys = distinct names := by
    rw [counted_eq, Dictionary.keys_table]
  have hperm : ((ranked names).map (·.1)).Perm (distinct names) :=
    hkeys ▸ (List.mergeSort_perm (counted names) fun a b => b.2 ≤ a.2).map (·.1)
  refine ⟨hperm.nodup_iff.mpr (nodup_distinct names), ?_, ?_, ?_⟩
  · intro name
    rw [hperm.mem_iff, mem_distinct]
  · intro entry he
    rw [ranked_eq, List.mem_mergeSort] at he
    obtain ⟨name, -, rfl⟩ := List.mem_map.mp he
    rfl
  · rw [ranked_eq]
    apply pairwise_ahead_mergeSort
    exact List.pairwise_map.mpr (distinct_pairwise names)

namespace IsRanking

variable {names : List String} {ranking other : List (String × Nat)}

theorem mem_entry_iff (h : IsRanking names ranking) (entry : String × Nat) :
    entry ∈ ranking ↔ entry.1 ∈ names ∧ entry.2 = names.count entry.1 := by
  constructor
  · intro he
    exact ⟨(h.mem_iff _).mp (List.mem_map_of_mem he), h.count_eq entry he⟩
  · rintro ⟨hn, hc⟩
    obtain ⟨found, hf, hname⟩ := List.mem_map.mp ((h.mem_iff _).mpr hn)
    have heq : found = entry := Prod.ext hname (by rw [h.count_eq found hf, hc, hname])
    exact heq ▸ hf

/-- Entries are known from the names, and their order from the entries. -/
theorem unique (h : IsRanking names ranking) (h' : IsRanking names other) : ranking = other := by
  refine List.Pairwise.eq_of_mem_iff h.ordered h'.ordered fun entry => ?_
  rw [h.mem_entry_iff, h'.mem_entry_iff]

/-- **A part of a ranking ranks a part of the names.** -/
theorem filter (h : IsRanking names ranking) (p : String → Bool) :
    IsRanking (names.filter p) (ranking.filter fun entry => p entry.1) where
  nodup := h.nodup.sublist (List.filter_sublist.map _)
  mem_iff := by
    intro name
    rw [List.mem_filter, ← h.mem_iff]
    simp only [List.mem_map, List.mem_filter]
    constructor
    · rintro ⟨entry, ⟨he, hp⟩, rfl⟩
      exact ⟨⟨entry, he, rfl⟩, hp⟩
    · rintro ⟨⟨entry, he, rfl⟩, hp⟩
      exact ⟨entry, ⟨he, hp⟩, rfl⟩
  count_eq := by
    intro entry he
    obtain ⟨he, hp⟩ := List.mem_filter.mp he
    rw [List.count_filter hp]
    exact h.count_eq entry he
  ordered := by
    refine (h.ordered.filter _).imp_of_mem fun hx _ hxy => ?_
    rcases hxy with hlt | ⟨heq, hlt⟩
    · exact Or.inl hlt
    · exact Or.inr ⟨heq, idxOf_filter_lt (List.mem_filter.mp hx).2 hlt⟩

end IsRanking

/-! ## Sums of counts -/

theorem sum_counts (names : List String) : ((ranked names).map (·.2)).sum = names.length := by
  have h := sum_ranked (fun _ => true) names
  rwa [List.filter_true, List.countP_true] at h

namespace Summary

theorem sum_countsInt (names : List String) :
    ((rankedInt names).map (·.2)).sum = (names.length : Int) := by
  have h := sum_rankedInt (fun _ => true) names
  rwa [List.filter_true, List.countP_true] at h

theorem sum_countsByRule (a : Analysis) (config : Config) (c : Catalog) (x y : Binary64) :
    ((ofShares a config c x y).countsByRule.map (·.2)).sum
      = (ofShares a config c x y).savedDecodeSlots := by
  show ((rankedInt (a.fused.map (·.rule))).map (·.2)).sum
    = (a.universalMatches.length + a.specificMatches.length : Int)
  rw [sum_countsInt, List.length_map, ← a.length_matches, Nat.cast_add]

theorem sum_countsByPattern (a : Analysis) (config : Config) (c : Catalog) (x y : Binary64) :
    ((ofShares a config c x y).countsByPattern.map (·.2)).sum = (ofShares a config c x y).missed := by
  show ((rankedInt (a.missed.map (·.pattern))).map (·.2)).sum = (a.missed.length : Int)
  rw [sum_countsInt, List.length_map]

end Summary

/-- **Rankings.**  The list that is made of some names is a ranking of them, and the only one.  Its counts
add up to the number of names, and so in every summary the counts of the rules add up to the decode slots
that are saved, and those of the missed patterns to the misses. -/
theorem isRanking_iff_eq_ranked :
    (∀ names ranking, IsRanking names ranking ↔ ranking = ranked names)
    ∧ (∀ names, ((ranked names).map (·.2)).sum = names.length)
    ∧ ∀ (a : Analysis) (config : Config) (c : Catalog) (s : Summary),
      Summary.ofAnalysis a config c = .ok s →
      (s.countsByRule.map (·.2)).sum = s.savedDecodeSlots
      ∧ (s.countsByPattern.map (·.2)).sum = s.missed := by
  refine ⟨fun names ranking => ⟨fun h => h.unique (isRanking_ranked names), ?_⟩, sum_counts, ?_⟩
  · rintro rfl
    exact isRanking_ranked names
  · intro a config c s hs
    obtain ⟨-, x, y, rfl⟩ := Summary.of_ofAnalysis_ok (Summary.pos_of_ofAnalysis_ok hs).le hs
    exact ⟨Summary.sum_countsByRule a config c x y, Summary.sum_countsByPattern a config c x y⟩

/-- two functions of one name and with as many findings, and misses of two patterns in turns -/
def Analysis.crowded : Analysis where
  catalog := "apple-m"
  totalInstructions := 12
  fused := [⟨"f", "0", "MOV+RET", .universal, ""⟩, ⟨"g", "10", "CMP+B.cond", .universal, ""⟩,
    ⟨"g", "18", "CMP+B.cond", .implementationSpecific, ""⟩]
  missed := [⟨"g", "14", "late", "", ""⟩, ⟨"g", "1c", "early", "", ""⟩, ⟨"f", "20", "late", "", ""⟩]
  perFunction := [{ name := "f", instructionCount := 3, universal := 1 },
    { name := "g", instructionCount := 6, universal := 1, implementationSpecific := 1, missed := 2 },
    { name := "f", instructionCount := 2, missed := 1 }, { name := "h", instructionCount := 1 }]

theorem Analysis.crowded_countable : crowded.Countable :=
  ⟨Binary64.lt_overflow_of_le (k := 4) (by decide) (by decide),
    Binary64.lt_overflow_of_le (k := 4) (by decide) (by decide)⟩

/-- names of equal counts stay in the order in which they came, whichever sorts first -/
theorem isRanking_iff_eq_ranked_tie :
    IsRanking ["c", "b", "a", "b", "a"] [("b", 2), ("a", 2), ("c", 1)]
    ∧ ranked ["c", "b", "a", "b", "a"] = [("b", 2), ("a", 2), ("c", 1)]
    ∧ ∃ s, Summary.ofAnalysis .crowded {} .appleM = .ok s
      ∧ (s.countsByRule.map (·.2)).sum = 3 ∧ (s.countsByPattern.map (·.2)).sum = 3 := by
  obtain ⟨hiff, -, hsums⟩ := isRanking_iff_eq_ranked
  have hranking : IsRanking ["c", "b", "a", "b", "a"] [("b", 2), ("a", 2), ("c", 1)] := by
    refine ⟨by decide, fun name => ?_, by decide, by decide⟩
    simp only [List.map_cons, List.map_nil, List.mem_cons, List.not_mem_nil, or_false]
    tauto
  obtain ⟨x, y, hs⟩ := Summary.ofAnalysis_of_countable (by decide) Analysis.crowded_countable {} .appleM
  exact ⟨hranking, ((hiff _ _).mp hranking).symm, _, hs, hsums _ _ _ _ hs⟩

end MacroFusion
