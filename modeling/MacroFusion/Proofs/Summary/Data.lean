import MacroFusion.Proofs.Summary.Collecting
import MacroFusion.Report.Data

/-!
# Summaries as data: every summary of an analysis can be written

A summary is written with the category of each rule that it counts.  It counts the rules of the fused
pairs, and these are among the names that it knows the category of, even where the catalog has no rule
of the name.

* `mem_keys_categories`   the names with a category;
* `fst_mem_of_mem_ranked` a ranking has the names that it ranks;
* `toJson_ofShares`       the summary of an analysis has a form as data;
* `field?_examples`       the examples stand in one field of it.
-/

namespace MacroFusion

theorem fst_mem_of_mem_ranked {entry : String × Nat} {names : List String}
    (h : entry ∈ ranked names) : entry.1 ∈ names := by
  rw [ranked_eq, List.mem_mergeSort] at h
  obtain ⟨name, hn, rfl⟩ := List.mem_map.mp h
  exact mem_distinct.mp hn

theorem exists_mapM_ok {α β ε : Type} {f : α → Except ε β} {xs : List α}
    (h : ∀ x ∈ xs, ∃ y, f x = .ok y) : ∃ ys, xs.mapM f = .ok ys := by
  induction xs with
  | nil => exact ⟨[], rfl⟩
  | cons x xs ih =>
    obtain ⟨y, hy⟩ := h x List.mem_cons_self
    obtain ⟨ys, hys⟩ := ih fun other ho => h other (List.mem_cons_of_mem x ho)
    refine ⟨y :: ys, ?_⟩
    rw [List.mapM_cons, hy, hys]
    rfl

namespace Summary

theorem mem_keys_categories {c : Catalog} {found : List Match} {name : String} :
    name ∈ (categories c found).keys ↔ name ∈ found.map (·.rule) ∨ name ∈ c.ruleCategories.keys := by
  unfold categories
  induction found using List.reverseRecOn with
  | nil => simp
  | append_singleton found m ih =>
    rw [List.foldl_concat, Dictionary.mem_keys_putNew, ih, List.map_append, List.mem_append, ← or_assoc,
      or_comm (a := name = m.rule)]
    exact or_congr_left (or_congr_right List.mem_singleton.symm)

theorem exists_ruleCountJson {s : Summary} {name : String} (h : name ∈ s.ruleCategories.keys)
    (count : Int) : ∃ j, s.ruleCountJson (name, count) = .ok j := by
  obtain ⟨category, hc⟩ := Option.isSome_iff_exists.mp (Dictionary.mem_keys_iff.mp h)
  unfold ruleCountJson
  dsimp only
  rw [hc]
  exact ⟨_, rfl⟩

/-- no rule is counted without a category -/
theorem toJson_ofShares (a : Analysis) (config : Config) (c : Catalog)
    (improvement advantage : Binary64) :
    ∃ j, (ofShares a config c improvement advantage).toJson = .ok j := by
  generalize hs : ofShares a config c improvement advantage = s
  have hcounted : ∀ entry ∈ s.countsByRule, ∃ j, s.ruleCountJson entry = .ok j := by
    rw [← hs]
    intro entry he
    obtain ⟨ranking, hr, rfl⟩ := List.mem_map.mp he
    exact exists_ruleCountJson (mem_keys_categories.mpr (Or.inl (fst_mem_of_mem_ranked hr))) _
  obtain ⟨counts, hcounts⟩ := exists_mapM_ok hcounted
  unfold toJson
  rw [hcounts]
  exact ⟨_, rfl⟩

theorem field?_examples {s : Summary} {j : Json} (h : s.toJson = .ok j) :
    j.field? "examples" = some s.examplesJson := by
  unfold toJson at h
  cases hc : s.countsByRule.mapM s.ruleCountJson with
  | error f =>
    rw [hc] at h
    cases h
  | ok counts =>
    rw [hc] at h
    rw [← Except.ok.inj h]
    rfl

end Summary

end MacroFusion
