import MacroFusion.Analysis
import MacroFusion.Binary64.Basic
import MacroFusion.Config
import MacroFusion.Ranking

/-!
# Summaries

The numbers of a report.  Each fused pair is issued as one operation and saves one decode slot, so the
estimated gain in throughput is the share of saved slots in all instructions, and the advantage of the
wider core is the part of it that only this core fuses.

Limits of the configuration cut lists of examples; no number depends on them.
-/

namespace MacroFusion

structure Summary where
  catalog : String := defaultCatalog
  totalInstructions : Int := 0
  universal : Int := 0
  implementationSpecific : Int := 0
  missed : Int := 0
  savedDecodeSlots : Int := 0
  throughputImprovement : Binary64 := .zero
  implementationAdvantage : Binary64 := .zero
  countsByCategory : Dictionary Int := []
  countsByRule : List (String × Int) := []
  ruleCategories : Dictionary Category := []
  countsByPattern : List (String × Int) := []
  fixes : Dictionary String := []
  worstFunctions : List Tally := []
  universalExamples : List Match := []
  specificExamples : List Match := []
  missExamples : Dictionary (List Miss) := []
  lowConfidence : Bool := false
  warnings : List String := []
  baselineLabel : String := "baseline"
  targetLabel : String := "target"
  baselineFusionsPerCycle : Int := 1
  targetFusionsPerCycle : Int := 1
  deriving Repr

namespace Summary

/-- `part` of `total` in percent, rounded to two places -/
def percentage (part total : Int) : Except Fault Binary64 :=
  if total ≤ 0 then .error .zeroTotal
  else
    let part := Binary64.ofInt part
    let total := Binary64.ofInt total
    if part.isFinite && total.isFinite then .ok (((part.natMul 100).div total).roundTo 2)
    else .error .countTooLarge

/-- the category of every rule name: as the catalog has it, else as it first occurs -/
def categories (c : Catalog) (found : List Match) : Dictionary Category :=
  found.foldl (fun d m => d.putNew m.rule m.category) c.ruleCategories

/-- the advice that goes with the first miss of each pattern -/
def fixesOf (missed : List Miss) : Dictionary String :=
  missed.foldl (fun d m => d.putNew m.pattern m.fix) []

/-- one more example, unless there are as many as the limit allows -/
def keepMiss (limit : Nat) (m : Miss) (kept : List Miss) : List Miss :=
  if kept.length < limit then kept ++ [m] else kept

/-- the examples of each missed pattern, taken from the misses in one pass -/
def missExamplesOf (limit : Nat) (missed : List Miss) : Dictionary (List Miss) :=
  missed.foldl (fun d m => d.update m.pattern [] (keepMiss limit m)) []

/-- the functions with findings, those with most of them first -/
def worst (top : Nat) (tallies : List Tally) : List Tally :=
  ((tallies.filter fun t => 0 < t.total).mergeSort fun s t => t.total ≤ s.total).take top

/-- counts as they stand in a report -/
def rankedInt (names : List String) : List (String × Int) :=
  (ranked names).map fun (name, count) => (name, (count : Int))

/-- the summary of an analysis under the catalog that it was made with, given its two shares -/
def ofShares (a : Analysis) (config : Config) (c : Catalog)
    (throughputImprovement implementationAdvantage : Binary64) : Summary :=
  let universal := a.universalMatches
  let specific := a.specificMatches
  { catalog := a.catalog
    totalInstructions := a.totalInstructions
    universal := universal.length
    implementationSpecific := specific.length
    missed := a.missed.length
    savedDecodeSlots := universal.length + specific.length
    throughputImprovement, implementationAdvantage
    countsByCategory :=
      [(Category.universal.label, universal.length),
        (Category.implementationSpecific.label, specific.length)]
    countsByRule := rankedInt (a.fused.map (·.rule))
    ruleCategories := categories c a.fused
    countsByPattern := rankedInt (a.missed.map (·.pattern))
    fixes := fixesOf a.missed
    worstFunctions := worst config.topFunctions a.perFunction
    universalExamples := universal.take config.exampleLimit
    specificExamples := specific.take config.exampleLimit
    missExamples := missExamplesOf config.missExampleLimit a.missed
    lowConfidence := a.lowConfidence
    warnings := a.warnings
    baselineLabel := c.baselineLabel
    targetLabel := c.targetLabel
    baselineFusionsPerCycle := c.baselineFusionsPerCycle
    targetFusionsPerCycle := c.targetFusionsPerCycle }

/-- the summary of an analysis; one of no instructions has none -/
def ofAnalysis (a : Analysis) (config : Config) (c : Catalog) : Except Fault Summary := do
  if a.totalInstructions = 0 then
    match config.filter with
    | some text =>
      if text.isEmpty then .error .nothingAnalyzed else .error (.noInstructionsMatching text)
    | none => .error .nothingAnalyzed
  else
    let specific := a.specificMatches.length
    let saved := a.universalMatches.length + specific
    let throughputImprovement ← percentage saved a.totalInstructions
    let implementationAdvantage ← percentage specific a.totalInstructions
    return ofShares a config c throughputImprovement implementationAdvantage

/-- fusions on the target core -/
def totalFusions (s : Summary) : Int := s.universal + s.implementationSpecific

/-- the rule counts of one category, in their rank -/
def ruleCountsFor (s : Summary) (category : Category) : List (String × Int) :=
  s.countsByRule.filter fun (name, _) => s.ruleCategories.lookup name = some category

end Summary

end MacroFusion
