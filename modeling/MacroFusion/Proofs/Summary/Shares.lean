import MacroFusion.Proofs.Binary64.Range
import MacroFusion.Summary.Basic

/-!
# Shares: which analyses can be summed up

A summary gives two counts as shares of the number of instructions.  That takes instructions, and
counts that floating-point numbers can hold; nothing else can go wrong.

* `Analysis.Countable`            the counts are in the range of floating-point numbers;
* `exists_shares`, `ofAnalysis_of_countable`   then the summary is made of the analysis and its two
                                  shares;
* `ofAnalysis_of_not_countable`   otherwise the summary is refused for the size of a count;
* `ofAnalysis_of_zero`            without instructions it is refused for the filter, if there is one;
* `pos_of_ofAnalysis_ok`          nor is there one of fewer instructions than none;
* `of_ofAnalysis_ok`              what a summary that was made tells of its analysis.
-/

namespace MacroFusion

namespace Analysis

/-- the instructions and the fused pairs are few enough for floating-point numbers -/
def Countable (a : Analysis) : Prop :=
  a.totalInstructions.natAbs < Binary64.overflow ∧ a.fused.length < Binary64.overflow

/-- every fused pair is of one of the two categories -/
theorem length_matches (a : Analysis) :
    a.universalMatches.length + a.specificMatches.length = a.fused.length := by
  unfold universalMatches specificMatches
  induction a.fused with
  | nil => rfl
  | cons m ms ih =>
    have hm : m.category = .universal ∨ m.category = .implementationSpecific := by
      cases m.category with
      | universal => exact Or.inl rfl
      | implementationSpecific => exact Or.inr rfl
    rcases hm with hm | hm <;> simp [hm] <;> omega

end Analysis

namespace Summary

theorem percentage_of_lt {part total : Int} (ht : 0 < total) (hp : part.natAbs < Binary64.overflow)
    (hn : total.natAbs < Binary64.overflow) : ∃ share, percentage part total = .ok share := by
  have hpos : ¬ total ≤ 0 := by omega
  have hf : ((Binary64.ofInt part).isFinite && (Binary64.ofInt total).isFinite) = true := by
    rw [Bool.and_eq_true, Binary64.isFinite_ofInt_iff, Binary64.isFinite_ofInt_iff]
    exact ⟨hp, hn⟩
  unfold percentage
  rw [if_neg hpos]
  exact ⟨_, if_pos hf⟩

theorem percentage_of_not_lt {part total : Int} (ht : 0 < total)
    (h : ¬ (part.natAbs < Binary64.overflow ∧ total.natAbs < Binary64.overflow)) :
    percentage part total = .error .countTooLarge := by
  have hpos : ¬ total ≤ 0 := by omega
  have hf : ¬ ((Binary64.ofInt part).isFinite && (Binary64.ofInt total).isFinite) = true := by
    rw [Bool.and_eq_true, Binary64.isFinite_ofInt_iff, Binary64.isFinite_ofInt_iff]
    exact h
  unfold percentage
  rw [if_neg hpos]
  exact if_neg hf

/-- the two shares, one after the other -/
theorem ofAnalysis_of_ne_zero {a : Analysis} (h : a.totalInstructions ≠ 0) (config : Config)
    (c : Catalog) :
    ofAnalysis a config c
      = percentage a.fused.length a.totalInstructions >>= fun improvement =>
          percentage a.specificMatches.length a.totalInstructions >>= fun advantage =>
            .ok (ofShares a config c improvement advantage) := by
  unfold ofAnalysis
  rw [if_neg h]
  show percentage ((a.universalMatches.length + a.specificMatches.length : Nat) : Int) _ >>= _ = _
  rw [a.length_matches]
  rfl

/-- the two shares are those of the analysis, whatever the configuration and the catalog -/
theorem exists_shares {a : Analysis} (h : 0 < a.totalInstructions) (hc : a.Countable) :
    ∃ improvement advantage, ∀ config c,
      ofAnalysis a config c = .ok (ofShares a config c improvement advantage) := by
  have hs : a.specificMatches.length < Binary64.overflow := by
    have hl := a.length_matches
    have hf := hc.2
    omega
  obtain ⟨x, hx⟩ : ∃ share, percentage a.fused.length a.totalInstructions = .ok share :=
    percentage_of_lt h hc.2 hc.1
  obtain ⟨y, hy⟩ : ∃ share, percentage a.specificMatches.length a.totalInstructions = .ok share :=
    percentage_of_lt h hs hc.1
  refine ⟨x, y, fun config c => ?_⟩
  rw [ofAnalysis_of_ne_zero (by omega), hx, hy]
  rfl

theorem ofAnalysis_of_countable {a : Analysis} (h : 0 < a.totalInstructions) (hc : a.Countable)
    (config : Config) (c : Catalog) :
    ∃ improvement advantage, ofAnalysis a config c = .ok (ofShares a config c improvement advantage) := by
  obtain ⟨x, y, hs⟩ := exists_shares h hc
  exact ⟨x, y, hs config c⟩

theorem ofAnalysis_of_not_countable {a : Analysis} (h : 0 < a.totalInstructions)
    (hc : ¬ a.Countable) (config : Config) (c : Catalog) :
    ofAnalysis a config c = .error .countTooLarge := by
  have hx : percentage a.fused.length a.totalInstructions = .error .countTooLarge :=
    percentage_of_not_lt h fun hl => hc ⟨hl.2, hl.1⟩
  rw [ofAnalysis_of_ne_zero (by omega), hx]
  rfl

theorem ofAnalysis_of_zero {a : Analysis} (h : a.totalInstructions = 0) (config : Config)
    (c : Catalog) :
    ofAnalysis a config c = .error (match config.filter with
      | some text => if text.isEmpty then .nothingAnalyzed else .noInstructionsMatching text
      | none => .nothingAnalyzed) := by
  unfold ofAnalysis
  rw [if_pos h]
  cases config.filter with
  | none => rfl
  | some text =>
    show (if text.isEmpty = true then _ else _) = Except.error (if text.isEmpty = true then _ else _)
    split <;> rfl

theorem pos_of_ofAnalysis_ok {a : Analysis} {config : Config} {c : Catalog} {s : Summary}
    (h : ofAnalysis a config c = .ok s) : 0 < a.totalInstructions := by
  by_cases hz : a.totalInstructions = 0
  · rw [ofAnalysis_of_zero hz] at h
    cases h
  by_contra hn
  have hneg : a.totalInstructions ≤ 0 := by omega
  rw [ofAnalysis_of_ne_zero hz, percentage, if_pos hneg] at h
  cases h

/-- a summary that was made is one of instructions, with two shares -/
theorem of_ofAnalysis_ok {a : Analysis} {config : Config} {c : Catalog} {s : Summary}
    (hn : 0 ≤ a.totalInstructions) (h : ofAnalysis a config c = .ok s) :
    0 < a.totalInstructions ∧ ∃ improvement advantage, s = ofShares a config c improvement advantage := by
  by_cases hz : a.totalInstructions = 0
  · rw [ofAnalysis_of_zero hz] at h
    cases h
  have hpos : 0 < a.totalInstructions := by omega
  by_cases hc : a.Countable
  · obtain ⟨x, y, hok⟩ := ofAnalysis_of_countable hpos hc config c
    rw [hok] at h
    exact ⟨hpos, x, y, (Except.ok.inj h).symm⟩
  · rw [ofAnalysis_of_not_countable hpos hc] at h
    cases h

end Summary

end MacroFusion
