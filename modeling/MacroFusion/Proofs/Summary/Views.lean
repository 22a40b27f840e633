import Mathlib.Algebra.BigOperators.Group.List.Lemmas
import Mathlib.Algebra.BigOperators.Ring.Finset
import MacroFusion.Catalog.AppleM
import MacroFusion.Proofs.Summary.Data
import MacroFusion.Proofs.Summary.Shares

/-!
# Views: the rule counts of one category

A summary counts fused pairs in two ways.  The counts of the two categories go by the category that each
pair has; the counts of the rules go by name, and a view picks those of one category through a dictionary
from names to categories, which takes the catalog first and then the pairs.  A catalog may give one name
to rules of different categories, and the pairs may come from another catalog, so that the two ways need
not agree.

* `resolved?`             the category that a name stands for;
* `lookup_categories`     this is what the dictionary has;
* `sum_rankedInt`         the counts of some of the names, in a ranking of all;
* `sum_ruleCountsFor`     so a view counts the pairs whose name stands for its category;
* `resolved?_of_mem_run`  in an analysis, where equal names have equal categories, that is the category of
                          the pair;
* `ruleCountsFor_split`   the two views share out the rules, and where names stand for the categories of
                          the pairs, their sums are the counts of the categories.
-/

namespace MacroFusion

/-! ## What a name stands for -/

theorem Dictionary.lookup_putNew {α : Type} (key : String) (value : α) (d : Dictionary α)
    (name : String) :
    (d.putNew key value).lookup name = (d.lookup name).or (if key = name then some value else none) := by
  unfold putNew
  cases hk : d.lookup key with
  | some known =>
    show d.lookup name = _
    by_cases h : key = name
    · rw [← h, hk]
      rfl
    · rw [if_neg h, Option.or_none]
  | none =>
    show List.lookup name (d ++ [(key, value)]) = _
    rw [List.lookup_append, List.lookup_cons, List.lookup_nil]
    by_cases h : key = name
    · rw [if_pos h, h, beq_self_eq_true]
    · have h' : (name == key) = false := by simpa using fun e => h e.symm
      rw [if_neg h, h']

/-- of several values for one name, the first one is kept -/
theorem Dictionary.lookup_foldl_putNew {α β : Type} (key : β → String) (value : β → α) (d : Dictionary α)
    (xs : List β) (name : String) :
    (xs.foldl (fun d x => d.putNew (key x) (value x)) d).lookup name
      = (d.lookup name).or ((xs.find? (key · = name)).map value) := by
  -- one more has a say only if none of those before it has the name
  induction xs using List.reverseRecOn with
  | nil => exact (Option.or_none).symm
  | append_singleton xs x ih =>
    have hlast : (if key x = name then some (value x) else none)
        = ([x].find? (key · = name)).map value := by
      by_cases h : key x = name <;> simp [h]
    rw [List.foldl_concat, lookup_putNew, ih, hlast, Option.or_assoc, ← Option.map_or,
      ← List.find?_append]

namespace Catalog

/-- **The last rule of a name counts.** -/
theorem lookup_ruleCategories (c : Catalog) (name : String) :
    c.ruleCategories.lookup name
      = (c.rules.reverse.find? (·.name = name)).map (·.category) := by
  unfold ruleCategories
  induction c.rules using List.reverseRecOn with
  | nil => rfl
  | append_singleton rules r ih =>
    rw [List.foldl_concat, List.reverse_concat]
    by_cases h : r.name = name
    · rw [List.find?_cons_of_pos (by simpa using h), ← h, Dictionary.lookup_put_self]
      rfl
    · rw [List.find?_cons_of_neg (by simpa using h),
        Dictionary.lookup_put_of_ne (fun e => h e.symm), ih]

end Catalog

namespace Summary

/-- the category that a name stands for: that of the last rule of the name in the catalog or, if there is
none, of the first fused pair of the name -/
def resolved? (c : Catalog) (found : List Match) (name : String) : Option Category :=
  ((c.rules.reverse.find? (·.name = name)).map (·.category)).or
    ((found.find? (·.rule = name)).map (·.category))

theorem lookup_categories (c : Catalog) (found : List Match) (name : String) :
    (categories c found).lookup name = resolved? c found name := by
  unfold categories resolved?
  rw [← c.lookup_ruleCategories]
  exact Dictionary.lookup_foldl_putNew _ _ _ found name

theorem exists_resolved {c : Catalog} {found : List Match} {name : String}
    (h : name ∈ found.map (·.rule)) : ∃ k, resolved? c found name = some k := by
  rw [← lookup_categories]
  exact Option.isSome_iff_exists.mp (Dictionary.mem_keys_iff.mp (mem_keys_categories.mpr (Or.inl h)))

end Summary

/-! ## Sums of rankings -/

/-- a ranking counts every occurrence once -/
theorem sum_ranked (p : String → Bool) (names : List String) :
    (((ranked names).filter fun entry => p entry.1).map (·.2)).sum = names.countP p := by
  -- sums do not depend on the order, so any list of the names without repetitions will do
  have hdedup : (distinct names).Perm names.dedup := by
    apply (List.perm_ext_iff_of_nodup (nodup_distinct names) names.nodup_dedup).mpr
    intro name
    rw [mem_distinct, List.mem_dedup]
  calc (((ranked names).filter fun entry => p entry.1).map (·.2)).sum
      = ((((distinct names).map fun name => (name, names.count name)).filter
          fun entry => p entry.1).map (·.2)).sum := by
        rw [ranked_eq]
        exact (((List.mergeSort_perm _ _).filter _).map _).sum_eq
    _ = (((distinct names).filter p).map fun name => names.count name).sum := by
        rw [List.filter_map, List.map_map]
        rfl
    _ = ((names.dedup.filter p).map fun name => names.count name).sum :=
        ((hdedup.filter p).map _).sum_eq
    _ = names.countP p := List.sum_map_count_dedup_filter_eq_countP p names

theorem Summary.sum_rankedInt (p : String → Bool) (names : List String) :
    (((rankedInt names).filter fun entry => p entry.1).map (·.2)).sum = (names.countP p : Int) := by
  rw [← sum_ranked, Nat.cast_list_sum, rankedInt, List.filter_map, List.map_map, List.map_map]
  rfl

/-! ## The two views -/

namespace Summary

theorem names_ruleCountsFor (s : Summary) (k : Category) :
    (s.ruleCountsFor k).map (·.1)
      = (s.countsByRule.map (·.1)).filter fun name => s.ruleCategories.lookup name = some k := by
  rw [List.filter_map]
  rfl

theorem ruleCountsFor_sublist (s : Summary) (k : Category) :
    (s.ruleCountsFor k).Sublist s.countsByRule := List.filter_sublist

section
variable (a : Analysis) (config : Config) (c : Catalog) (improvement advantage : Binary64)

/-- **A view counts the pairs whose name stands for its category.** -/
theorem sum_ruleCountsFor (k : Category) :
    (((ofShares a config c improvement advantage).ruleCountsFor k).map (·.2)).sum
      = (a.fused.countP fun m => resolved? c a.fused m.rule = some k : Int) := by
  show (((rankedInt (a.fused.map (·.rule))).filter fun entry =>
    decide ((categories c a.fused).lookup entry.1 = some k)).map (·.2)).sum = _
  rw [sum_rankedInt fun name => decide ((categories c a.fused).lookup name = some k), List.countP_map]
  simp only [lookup_categories]
  rfl

/-- **Each name is in one view.** -/
theorem mem_ruleCountsFor_xor {name : String}
    (h : name ∈ (ofShares a config c improvement advantage).countsByRule.map (·.1)) :
    Xor (name ∈ ((ofShares a config c improvement advantage).ruleCountsFor .universal).map (·.1))
      (name ∈ ((ofShares a config c improvement advantage).ruleCountsFor
        .implementationSpecific).map (·.1)) := by
  have hfused : name ∈ a.fused.map (·.rule) := by
    obtain ⟨entry, he, rfl⟩ := List.mem_map.mp h
    obtain ⟨ranking, hr, rfl⟩ := List.mem_map.mp he
    exact fst_mem_of_mem_ranked hr
  have hmem : ∀ k, name ∈ ((ofShares a config c improvement advantage).ruleCountsFor k).map (·.1)
      ↔ resolved? c a.fused name = some k := by
    intro k
    rw [names_ruleCountsFor, List.mem_filter, decide_eq_true_iff, ← lookup_categories]
    exact and_iff_right h
  rw [hmem, hmem]
  obtain ⟨k, hk⟩ := exists_resolved (c := c) hfused
  rw [hk]
  cases k with
  | universal => exact .inl ⟨rfl, by simp⟩
  | implementationSpecific => exact .inr ⟨rfl, by simp⟩

end

/-- where names stand for the categories of their pairs, both ways of counting agree -/
theorem countP_resolved {c : Catalog} {found : List Match}
    (h : ∀ m ∈ found, resolved? c found m.rule = some m.category) (k : Category) :
    (found.countP fun m => resolved? c found m.rule = some k) = (found.filter (·.category = k)).length := by
  rw [← List.countP_eq_length_filter]
  apply List.countP_congr
  intro m hm
  rw [h m hm]
  simp

end Summary

/-! ## Pairs that an analysis finds -/

/-- equal names, equal categories -/
def Catalog.Consistent (c : Catalog) : Prop :=
  ∀ r ∈ c.rules, ∀ r' ∈ c.rules, r.name = r'.name → r.category = r'.category

theorem Catalog.exists_rule_of_mem_scanMatches {c : Catalog} {function : String}
    {is : List Instruction} {m : Match} (h : m ∈ c.scanMatches function is) :
    ∃ r ∈ c.rules, m.rule = r.name ∧ m.category = r.category := by
  obtain ⟨⟨i, k⟩, a, b, r, -, -, hr, -, rfl⟩ := (c.scanMatches_enumerates function is).exists_of_mem h
  exact ⟨r, List.mem_of_getElem? hr, rfl, rfl⟩

namespace Summary

theorem resolved?_of_mem_rules {c : Catalog} (hc : c.Consistent) {r : Rule} (hr : r ∈ c.rules)
    (found : List Match) : resolved? c found r.name = some r.category := by
  have hsome : (c.rules.reverse.find? (·.name = r.name)).isSome = true :=
    List.find?_isSome.mpr ⟨r, List.mem_reverse.mpr hr, decide_eq_true rfl⟩
  obtain ⟨last, hlast⟩ := Option.isSome_iff_exists.mp hsome
  have hname : last.name = r.name := by simpa using List.find?_some hlast
  have hmem : last ∈ c.rules := List.mem_reverse.mp (List.mem_of_find?_eq_some hlast)
  rw [resolved?, hlast, hc r hr last hmem hname.symm]
  rfl

theorem resolved?_of_mem_run {c : Catalog} (hc : c.Consistent) {workers : Nat}
    {functions : List Function} {filter : Option String} {lowConfidence : Bool}
    {warnings : List String} {m : Match}
    (hm : m ∈ (Analysis.run c workers functions filter lowConfidence warnings).fused)
    (found : List Match) : resolved? c found m.rule = some m.category := by
  rw [Analysis.run_eq, Analysis.fused_ofFunctions] at hm
  obtain ⟨f, _, hm⟩ := List.mem_flatMap.mp hm
  obtain ⟨r, hr, hrule, hcategory⟩ := Catalog.exists_rule_of_mem_scanMatches hm
  rw [hrule, hcategory]
  exact resolved?_of_mem_rules hc hr found

/-- **The views share out the rules.**  A summary of instructions can be made, unless a count is too large
for a share of it, and then it can be written.  Each rule that it counts is in one of the two views, in
the same rank, and a view counts the pairs whose name stands for its category.  Where every pair has the
category that its name stands for, the views add up to the counts of the two categories, and so it is in
every analysis under a catalog that gives equal categories to equal names. -/
theorem ruleCountsFor_split (a : Analysis) (config : Config) (c : Catalog)
    (h : 0 < a.totalInstructions) :
    (a.Countable → ∃ s, ofAnalysis a config c = .ok s)
    ∧ (¬ a.Countable → ofAnalysis a config c = .error .countTooLarge)
    ∧ (∀ s, ofAnalysis a config c = .ok s →
      (∃ j, s.toJson = .ok j)
      ∧ (∀ name ∈ s.countsByRule.map (·.1),
        Xor (name ∈ (s.ruleCountsFor .universal).map (·.1))
          (name ∈ (s.ruleCountsFor .implementationSpecific).map (·.1)))
      ∧ (∀ k, (s.ruleCountsFor k).Sublist s.countsByRule)
      ∧ (∀ k, ((s.ruleCountsFor k).map (·.2)).sum
        = (a.fused.countP fun m => resolved? c a.fused m.rule = some k : Int))
      ∧ ((∀ m ∈ a.fused, resolved? c a.fused m.rule = some m.category) →
        ((s.ruleCountsFor .universal).map (·.2)).sum = s.universal
        ∧ ((s.ruleCountsFor .implementationSpecific).map (·.2)).sum = s.implementationSpecific))
    ∧ ∀ (d : Catalog) (workers : Nat) (functions : List Function) (filter : Option String)
      (lowConfidence : Bool) (warnings : List String), d.Consistent →
      let found := (Analysis.run d workers functions filter lowConfidence warnings).fused
      ∀ m ∈ found, resolved? d found m.rule = some m.category := by
  refine ⟨fun hc => ?_, fun hc => ofAnalysis_of_not_countable h hc config c, ?_, ?_⟩
  · obtain ⟨x, y, hs⟩ := ofAnalysis_of_countable h hc config c
    exact ⟨_, hs⟩
  · intro s hs
    obtain ⟨-, x, y, rfl⟩ := of_ofAnalysis_ok h.le hs
    refine ⟨toJson_ofShares a config c x y, fun name hn => mem_ruleCountsFor_xor a config c x y hn,
      ruleCountsFor_sublist _, sum_ruleCountsFor a config c x y, fun hcat => ?_⟩
    rw [sum_ruleCountsFor, sum_ruleCountsFor, countP_resolved hcat, countP_resolved hcat]
    exact ⟨rfl, rfl⟩
  · intro d workers functions filter lowConfidence warnings hd found m hm
    exact resolved?_of_mem_run hd hm found

/-- a pair that has not the category of its rule, and two of one name and different categories -/
def foreign : Analysis where
  catalog := "apple-m"
  totalInstructions := 6
  fused := [⟨"f", "0", "CMP+B.cond", .implementationSpecific, ""⟩, ⟨"f", "8", "MOV+RET", .universal, ""⟩,
    ⟨"f", "10", "MOV+RET", .implementationSpecific, ""⟩]

/-- all three names stand for the universal category, and one pair is of it -/
theorem ruleCountsFor_split_foreign :
    0 < foreign.totalInstructions
    ∧ (∃ s, ofAnalysis foreign {} .appleM = .ok s)
    ∧ (∀ s, ofAnalysis foreign {} .appleM = .ok s →
      ((s.ruleCountsFor .universal).map (·.2)).sum = 3
      ∧ ((s.ruleCountsFor .implementationSpecific).map (·.2)).sum = 0)
    ∧ foreign.universalMatches.length = 1 := by
  have hpos : 0 < foreign.totalInstructions := by decide
  have hcount : foreign.Countable :=
    ⟨Binary64.lt_overflow_of_le (k := 3) (by decide) (by decide),
      Binary64.lt_overflow_of_le (k := 3) (by decide) (by decide)⟩
  obtain ⟨hmade, -, hviews, -⟩ := ruleCountsFor_split foreign {} .appleM hpos
  refine ⟨hpos, hmade hcount, ?_, by decide⟩
  intro s hs
  obtain ⟨-, -, -, hsum, -⟩ := hviews s hs
  rw [hsum, hsum]
  decide +kernel

end Summary

end MacroFusion
