import MacroFusion.Catalog.AppleM
import MacroFusion.Catalog.NeoverseV2
import MacroFusion.Proofs.Analysis.Independence

/-!
# The baseline: what two targets have in common

The two shipped catalogs compare one baseline with two targets.  Their tables are written apart from
each other and put the common rules between others, so that the records of one scan are mixed in a
different way under each.  Picked out by their kind, the common ones are the same records in the same
order: a rule fires without regard to the others, and a record shows nothing of a rule but its name and
its category.

* `Rule.bare`, `MissedPattern.bare`   what a record can depend on: all but the description;
* `filter_scanMatches_eq`   two tables that agree on the bare rules of a kind find the same pairs of it;
* `filter_scanMisses_eq`    and likewise for missed opportunities;
* `universal_rules_eq`, `aes_rules_eq`, `aes_missed_eq`   where the shipped tables agree;
* `baseline_unaffected`     so the target has no say in these records.
-/

namespace MacroFusion

/-! ## Descriptions are not looked at -/

/-- the rule without its description -/
def Rule.bare (r : Rule) : Rule := { r with description := "" }

/-- the opportunity without its description -/
def MissedPattern.bare (p : MissedPattern) : MissedPattern := { p with description := "" }

namespace Catalog

theorem matchesAt_bare (c : Catalog) (function : String) (a b : Instruction) :
    { c with rules := c.rules.map Rule.bare }.matchesAt function a b = c.matchesAt function a b := by
  unfold matchesAt
  rw [List.filter_map, List.map_map]
  rfl

theorem missesAt_bare (c : Catalog) (function : String) (a : Instruction)
    (window : List Instruction) :
    { c with missed := c.missed.map MissedPattern.bare }.missesAt function a window
      = c.missesAt function a window := by
  unfold missesAt
  rw [List.filter_map, List.map_map]
  rfl

section
variable {c d : Catalog}

/-- **Records of a kind come from the rules of that kind**, in whatever company these stand. -/
theorem filter_scanMatches_eq {kind : String → Category → Bool}
    (h : (c.rules.filter fun r => kind r.name r.category).map Rule.bare
      = (d.rules.filter fun r => kind r.name r.category).map Rule.bare)
    (function : String) (is : List Instruction) :
    (c.scanMatches function is).filter (fun m => kind m.rule m.category)
      = (d.scanMatches function is).filter (fun m => kind m.rule m.category) := by
  rw [filter_scanMatches, filter_scanMatches]
  apply scanMatches_congr
  intro a b
  rw [← matchesAt_bare, ← matchesAt_bare { d with rules := _ }]
  simp only [matchesAt, h]

theorem filter_scanMisses_eq {kind : String → Bool}
    (h : (c.missed.filter fun p => kind p.name).map MissedPattern.bare
      = (d.missed.filter fun p => kind p.name).map MissedPattern.bare)
    (function : String) (is : List Instruction) :
    (c.scanMisses function is).filter (fun m => kind m.pattern)
      = (d.scanMisses function is).filter (fun m => kind m.pattern) := by
  rw [filter_scanMisses, filter_scanMisses]
  apply scanMisses_congr
  intro a window
  rw [← missesAt_bare, ← missesAt_bare { d with missed := _ }]
  simp only [missesAt, h]

end

/-! ## Where the shipped tables agree -/

theorem universal_rules_eq :
    (appleM.rules.filter fun r => r.category = .universal).map Rule.bare
      = (neoverseV2.rules.filter fun r => r.category = .universal).map Rule.bare := by
  simp (disch := decide) only [appleM, neoverseV2, Rule.universalBranches, Rule.branch,
    List.cons_append, List.nil_append, List.filter_cons_of_pos, List.filter_cons_of_neg, List.filter_nil]

theorem aes_rules_eq :
    (appleM.rules.filter fun r => r.name = "AES+AESMC (crypto)").map Rule.bare
      = (neoverseV2.rules.filter fun r => r.name = "AES+AESMC (crypto)").map Rule.bare := by
  simp (disch := decide) only [appleM, neoverseV2, Rule.universalBranches, Rule.branch, Rule.bare,
    List.cons_append, List.nil_append, List.filter_cons_of_pos, List.filter_cons_of_neg,
    List.filter_nil, List.map_cons, List.map_nil]

theorem aes_missed_eq :
    (appleM.missed.filter fun p => p.name = "AES without AESMC").map MissedPattern.bare
      = (neoverseV2.missed.filter fun p => p.name = "AES without AESMC").map MissedPattern.bare := by
  simp (disch := decide) only [appleM, neoverseV2, MissedPattern.bare, List.filter_cons_of_pos,
    List.filter_cons_of_neg, List.filter_nil, List.map_cons, List.map_nil]

end Catalog

/-! ## What an analysis finds -/

namespace Analysis

section
variable {c d : Catalog} {fs : List Function} {low low' : Bool} {warnings warnings' : List String}

theorem filter_fused_eq (kind : String → Category → Bool)
    (h : (c.rules.filter fun r => kind r.name r.category).map Rule.bare
      = (d.rules.filter fun r => kind r.name r.category).map Rule.bare) :
    (ofFunctions c fs low warnings).fused.filter (fun m => kind m.rule m.category)
      = (ofFunctions d fs low' warnings').fused.filter (fun m => kind m.rule m.category) := by
  rw [fused_ofFunctions, fused_ofFunctions, List.filter_flatMap, List.filter_flatMap]
  simp only [Catalog.filter_scanMatches_eq h]

theorem filter_missed_eq (kind : String → Bool)
    (h : (c.missed.filter fun p => kind p.name).map MissedPattern.bare
      = (d.missed.filter fun p => kind p.name).map MissedPattern.bare) :
    (ofFunctions c fs low warnings).missed.filter (fun m => kind m.pattern)
      = (ofFunctions d fs low' warnings').missed.filter (fun m => kind m.pattern) := by
  rw [missed_ofFunctions, missed_ofFunctions, List.filter_flatMap, List.filter_flatMap]
  simp only [Catalog.filter_scanMisses_eq h]

end

/-- **The baseline does not depend on the target.**  Whatever is scanned, with whatever workers, the pairs
that every core fuses are the same records in the same order under both catalogs, and so are the rounds
of AES that fuse and those that could have. -/
theorem baseline_unaffected (functions : List Function) (filter : Option String)
    (workers workers' : Nat) (low low' : Bool) (warnings warnings' : List String) :
    let apple := run .appleM workers functions filter low warnings
    let neoverse := run .neoverseV2 workers' functions filter low' warnings'
    apple.universalMatches = neoverse.universalMatches
    ∧ apple.fused.filter (·.rule = "AES+AESMC (crypto)")
      = neoverse.fused.filter (·.rule = "AES+AESMC (crypto)")
    ∧ apple.missed.filter (·.pattern = "AES without AESMC")
      = neoverse.missed.filter (·.pattern = "AES without AESMC") := by
  intro apple neoverse
  have happle : apple = ofFunctions .appleM (select filter functions) low warnings := run_eq ..
  have hneoverse : neoverse = ofFunctions .neoverseV2 (select filter functions) low' warnings' :=
    run_eq ..
  rw [happle, hneoverse]
  refine ⟨?_, ?_, ?_⟩
  · exact filter_fused_eq (fun _ category => category = .universal) Catalog.universal_rules_eq
  · exact filter_fused_eq (fun name _ => name = "AES+AESMC (crypto)") Catalog.aes_rules_eq
  · exact filter_missed_eq (fun name => name = "AES without AESMC") Catalog.aes_missed_eq

/-- a branch and a round of AES with a pair between them that only one of the targets fuses -/
example :
    let f : Function := ⟨"f", [⟨"0", "CMP", "x0, x1", ""⟩, ⟨"4", "B.EQ", "a", ""⟩,
      ⟨"8", "ADRP", "x2, a", ""⟩, ⟨"c", "ADD", "x2, x2", ""⟩, ⟨"10", "AESE", "v0", ""⟩,
      ⟨"14", "AESMC", "v0", ""⟩]⟩
    (Catalog.appleM.scan f).fused.map (·.address) = ["0", "8", "10"]
    ∧ (Catalog.neoverseV2.scan f).fused.map (·.address) = ["0", "10"] := by
  decide +kernel

end Analysis

end MacroFusion
