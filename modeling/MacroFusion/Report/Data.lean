import MacroFusion.Json.Writer
import MacroFusion.Summary.Basic

/-!
# Summaries as data

A summary in the form that other programs read.  It can only be written if every counted rule has a
category.
-/

namespace MacroFusion.Summary

def ruleCountJson (s : Summary) : String × Int → Except Fault Json
  | (name, count) =>
    match s.ruleCategories.lookup name with
    | some category =>
      .ok (.object [("rule", .string name), ("category", .string category.label),
        ("count", .integer count)])
    | none => .error (.uncategorizedRule name)

def patternCountJson (s : Summary) : String × Int → Json
  | (name, count) =>
    .object [("pattern", .string name), ("count", .integer count),
      ("fix", .string ((s.fixes.lookup name).getD ""))]

def examplesJson (s : Summary) : Json :=
  .object [
    ("universal", .array (s.universalExamples.map Match.toJson)),
    ("implementation_specific", .array (s.specificExamples.map Match.toJson)),
    ("missed", .object (s.missExamples.map fun (k, ms) => (k, .array (ms.map Miss.toJson))))]

def toJson (s : Summary) : Except Fault Json := do
  let countsByRule ← s.countsByRule.mapM s.ruleCountJson
  return .object [
    ("catalog", .string s.catalog),
    ("total_instructions", .integer s.totalInstructions),
    ("universal", .integer s.universal),
    ("implementation_specific", .integer s.implementationSpecific),
    ("missed", .integer s.missed),
    ("saved_decode_slots", .integer s.savedDecodeSlots),
    ("throughput_improvement_pct", .number s.throughputImprovement),
    ("implementation_advantage_pct", .number s.implementationAdvantage),
    ("counts_by_category", .object (s.countsByCategory.map fun (k, n) => (k, .integer n))),
    ("counts_by_rule", .array countsByRule),
    ("counts_by_pattern", .array (s.countsByPattern.map s.patternCountJson)),
    ("worst_functions", .array (s.worstFunctions.map Tally.toJson)),
    ("examples", s.examplesJson),
    ("low_confidence", .bool s.lowConfidence),
    ("warnings", .array (s.warnings.map .string)),
    ("platforms", .object [
      ("baseline", .object [("label", .string s.baselineLabel), ("fusions", .integer s.universal),
        ("max_fusions_per_cycle", .integer s.baselineFusionsPerCycle)]),
      ("target", .object [("label", .string s.targetLabel), ("fusions", .integer s.totalFusions),
        ("max_fusions_per_cycle", .integer s.targetFusionsPerCycle)])])]

end MacroFusion.Summary
