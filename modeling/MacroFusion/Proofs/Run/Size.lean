import Mathlib.Data.List.Flatten
import MacroFusion.Proofs.Run.Outcome
import MacroFusion.Proofs.Text.Lines

/-!
# Size: short texts have counts in range

A line takes a character at least, an instruction takes a line, and at an instruction every rule fires at
most once.  So the counts of a run are no larger than the text, but for the number of rules, and
floating-point numbers hold them for every text that fits into a memory.

* `namedInstructions_le`      instructions and characters;
* `length_fused_analyze_le`   fused pairs and instructions;
* `countable_of_length`       the counts are in range if characters times rules are, with room to spare.
-/

namespace MacroFusion

namespace Run

theorem namedInstructions_le (text : String) (filter : Option String) :
    namedInstructions text filter ≤ text.toList.length := by
  unfold namedInstructions
  rw [← List.length_flatMap]
  calc ((listingOf text).functions.filter fun f => Named filter f).flatMap (·.instructions) |>.length
    _ ≤ (listingOf text).instructionCount := (List.filter_sublist.flatMap _).length_le
    _ = (Listing.classified text).countP (·.isInstruction) := Listing.instructionCount_ofLines _
    _ ≤ (Listing.classified text).length := List.countP_le_length
    _ = (Text.lines text.toList).length := List.length_map _
    _ ≤ text.toList.length := Text.length_lines_le _

theorem length_fused_analyze_le (text : String) (config : Config) (c : Catalog) :
    (analyze (listingOf text) config c).fused.length
      ≤ c.rules.length * namedInstructions text config.filter := by
  unfold analyze
  rw [Analysis.run_eq, Analysis.fused_ofFunctions, select_eq]
  have h := Catalog.length_flatMap_scanMatches_le (c := c) (a := 1) (b := c.rules.length)
    (fun f => by
      rw [Nat.one_mul]
      exact c.length_scanMatches_le_mul f.name f.instructions)
    ((listingOf text).functions.filter fun f => Named config.filter f)
  rwa [Nat.one_mul] at h

/-- the exponents of the bounds add up -/
theorem countable_of_length {text : String} {c : Catalog} {a b : Nat} (hab : b + a < 1023)
    (ht : text.toList.length ≤ 2 ^ a) (hc : c.rules.length ≤ 2 ^ b) (config : Config) :
    (analyze (listingOf text) config c).Countable := by
  have hn := namedInstructions_le text config.filter
  constructor
  · rw [totalInstructions_analyze, Int.natAbs_natCast]
    exact Binary64.lt_overflow_of_le (by omega) (Nat.le_trans hn ht)
  · apply Binary64.lt_overflow_of_le hab
    calc (analyze (listingOf text) config c).fused.length
      _ ≤ c.rules.length * namedInstructions text config.filter := length_fused_analyze_le text config c
      _ ≤ 2 ^ b * 2 ^ a := Nat.mul_le_mul hc (Nat.le_trans hn ht)
      _ = 2 ^ (b + a) := (Nat.pow_add 2 b a).symm

end Run

end MacroFusion
