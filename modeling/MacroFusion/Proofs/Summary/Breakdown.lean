import MacroFusion.Proofs.Summary.Rankings

/-!
# The breakdown: which functions are listed

A summary lists the functions with most findings.  Functions are told apart by their places in the source,
since two of them may have the same name and even the same counts.

* `found`        the functions with findings, with their places;
* `worst_eq`     the list is the head of their ranking, without the places;
* `Leads`        so many of them as there is room for, in order, and ahead of all others;
* `leads_take`, `Leads.unique`   the head of the ranking leads, and nothing else does;
* `worstFunctions_lead`   the same of every summary.
-/

namespace MacroFusion.Summary

/-- the functions with findings, with their places in the source -/
def found (tallies : List Tally) : List (Tally × Nat) :=
  tallies.zipIdx.filter fun e => 0 < e.1.total

/-- the functions with findings in the order of a breakdown -/
def ranking (tallies : List Tally) : List (Tally × Nat) :=
  (found tallies).mergeSort fun s t => t.1.total ≤ s.1.total

/-- before in a breakdown: more findings, or as many and earlier in the source -/
abbrev Outranks : Tally × Nat → Tally × Nat → Prop := Ahead (fun e => e.1.total) fun e => e.2

theorem found_pairwise (tallies : List Tally) :
    (found tallies).Pairwise fun s t => s.2 < t.2 := by
  have hplaces : (tallies.zipIdx.map Prod.snd).Pairwise (· < ·) := by
    rw [List.zipIdx_map_snd]
    exact List.pairwise_lt_range'
  exact (List.pairwise_map.mp hplaces).filter _

theorem map_fst_found (tallies : List Tally) :
    (found tallies).map (·.1) = tallies.filter fun t => 0 < t.total := by
  have h := List.filter_map (f := Prod.fst) (p := fun t : Tally => decide (0 < t.total))
    (l := tallies.zipIdx)
  rw [List.zipIdx_map_fst] at h
  exact h.symm

theorem length_found (tallies : List Tally) :
    (found tallies).length = tallies.countP fun t => 0 < t.total := by
  rw [List.countP_eq_length_filter, ← map_fst_found, List.length_map]

theorem ranking_perm (tallies : List Tally) : (ranking tallies).Perm (found tallies) :=
  List.mergeSort_perm _ _

theorem ranking_pairwise (tallies : List Tally) : (ranking tallies).Pairwise Outranks :=
  pairwise_ahead_mergeSort (found_pairwise tallies)

theorem worst_eq (top : Nat) (tallies : List Tally) :
    worst top tallies = ((ranking tallies).take top).map (·.1) := by
  have hsort : (ranking tallies).map (·.1)
      = ((found tallies).map (·.1)).mergeSort fun s t => t.total ≤ s.total :=
    List.map_mergeSort fun _ _ _ _ => rfl
  rw [worst, List.map_take, hsort, map_fst_found]

/-- some of the functions with findings, so many as there is room for: they stand in order, and each of
them is before every function that is left out -/
structure Leads (top : Nat) (tallies : List Tally) (listed : List (Tally × Nat)) : Prop where
  subperm : listed.Subperm (found tallies)
  length_eq : listed.length = min top (tallies.countP fun t => 0 < t.total)
  ordered : listed.Pairwise Outranks
  outranks : ∀ e ∈ found tallies, e ∉ listed → ∀ l ∈ listed, Outranks l e

theorem leads_take (top : Nat) (tallies : List Tally) :
    Leads top tallies ((ranking tallies).take top) where
  subperm := (List.take_sublist _ _).subperm.trans (ranking_perm tallies).subperm
  length_eq := by
    rw [List.length_take, (ranking_perm tallies).length_eq, length_found]
  ordered := (ranking_pairwise tallies).sublist (List.take_sublist _ _)
  outranks := by
    intro e he hout l hl
    have hmem : e ∈ (ranking tallies).take top ++ (ranking tallies).drop top := by
      rw [List.take_append_drop]
      exact (ranking_perm tallies).mem_iff.mpr he
    have hdrop : e ∈ (ranking tallies).drop top := (List.mem_append.mp hmem).resolve_left hout
    exact (ranking_pairwise tallies).rel_of_mem_take_of_mem_drop hl hdrop

/-- What leads, followed by the ranking of the rest, is the whole ranking. -/
theorem Leads.isPrefix {top : Nat} {tallies : List Tally} {listed : List (Tally × Nat)}
    (h : Leads top tallies listed) : listed <+: ranking tallies := by
  have hrest := (found_pairwise tallies).filter fun e => decide (e ∉ listed)
  generalize hr : (found tallies).filter (fun e => decide (e ∉ listed)) = rest at hrest
  have hmem : ∀ e, e ∈ rest ↔ e ∈ found tallies ∧ e ∉ listed := by
    intro e
    rw [← hr, List.mem_filter, decide_eq_true_iff]
  refine ⟨rest.mergeSort fun s t => t.1.total ≤ s.1.total, ?_⟩
  refine List.Pairwise.eq_of_mem_iff (r := Outranks) ?_ (ranking_pairwise tallies) fun e => ?_
  · refine List.pairwise_append.mpr ⟨h.ordered, pairwise_ahead_mergeSort hrest, ?_⟩
    intro l hl e he
    obtain ⟨hfound, hout⟩ := (hmem e).mp (List.mem_mergeSort.mp he)
    exact h.outranks e hfound hout l hl
  · rw [List.mem_append, List.mem_mergeSort, hmem, (ranking_perm tallies).mem_iff]
    have hsub : e ∈ listed → e ∈ found tallies := fun he => h.subperm.subset he
    tauto

theorem Leads.unique {top : Nat} {tallies : List Tally} {listed : List (Tally × Nat)}
    (h : Leads top tallies listed) : listed = (ranking tallies).take top := by
  have hlen : listed.length = ((ranking tallies).take top).length :=
    h.length_eq.trans (leads_take top tallies).length_eq.symm
  have hpre := List.prefix_of_prefix_length_le h.isPrefix (List.take_prefix top _) hlen.le
  exact hpre.eq_of_length hlen

/-- **The functions of a breakdown are those that lead.**  A summary lists functions with findings, each
place of the source at most once and so many as the limit allows, by falling numbers of findings and in the
order of the source where these are equal.  Every function with findings that is left out has fewer than
each of them, or as many and comes later.  No other list is like this. -/
theorem worstFunctions_lead (a : Analysis) (config : Config) (c : Catalog) :
    (0 < a.totalInstructions → a.Countable → ∃ s, ofAnalysis a config c = .ok s)
    ∧ ∀ s, ofAnalysis a config c = .ok s →
      ∃ listed, s.worstFunctions = listed.map (·.1) ∧ Leads config.topFunctions a.perFunction listed
        ∧ ∀ other, Leads config.topFunctions a.perFunction other → other = listed := by
  refine ⟨fun hpos hc => ?_, fun s hs => ?_⟩
  · obtain ⟨x, y, hs⟩ := ofAnalysis_of_countable hpos hc config c
    exact ⟨_, hs⟩
  · obtain ⟨-, x, y, rfl⟩ := of_ofAnalysis_ok (pos_of_ofAnalysis_ok hs).le hs
    exact ⟨_, worst_eq _ _, leads_take _ _, fun _ h => h.unique⟩

/-- of two functions of one name and with one finding each, the first is listed -/
theorem worstFunctions_lead_crowded :
    ∃ s, ofAnalysis .crowded { topFunctions := 2 } .appleM = .ok s
      ∧ s.worstFunctions.map (fun t => (t.name, t.total, t.instructionCount))
        = [("g", 4, 6), ("f", 1, 3)] := by
  obtain ⟨hmade, hleads⟩ := worstFunctions_lead .crowded { topFunctions := 2 } .appleM
  obtain ⟨s, hs⟩ := hmade (by decide) Analysis.crowded_countable
  obtain ⟨listed, hworst, -, hunique⟩ := hleads s hs
  have hlisted : Leads 2 Analysis.crowded.perFunction
      [({ name := "g", instructionCount := 6, universal := 1, implementationSpecific := 1,
          missed := 2 }, 1),
        ({ name := "f", instructionCount := 3, universal := 1 }, 0)] :=
    ⟨by decide, by decide, by decide, by decide⟩
  refine ⟨s, hs, ?_⟩
  rw [hworst, ← hunique _ hlisted]
  decide

end MacroFusion.Summary
