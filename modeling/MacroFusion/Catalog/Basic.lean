import MacroFusion.Detector
import MacroFusion.Dictionary
import MacroFusion.Json.Basic
import MacroFusion.Rule

/-!
# Catalogs

A catalog models one pair of cores, a baseline and a target: the rules by which neighbours fuse, in
the order in which they are tried, and the opportunities to look for.  A new pair of cores is a new
catalog; the analysis stays the same.
-/

namespace MacroFusion

structure Catalog where
  name : String
  description : String
  rules : List Rule
  missed : List MissedPattern := []
  baselineLabel : String := "baseline"
  targetLabel : String := "target"
  baselineFusionsPerCycle : Int := 1
  targetFusionsPerCycle : Int := 1

def Rule.toJson (r : Rule) : Json :=
  .object [("name", .string r.name), ("category", .string r.category.label),
    ("first", .string r.first.source), ("second", .string r.second.source),
    ("shared_register", .bool r.sharedRegister), ("description", .string r.description)]

def MissedPattern.toJson (p : MissedPattern) : Json :=
  .object [("name", .string p.name), ("description", .string p.description),
    ("detector", .string p.detector.shown), ("fix", .string p.fix)]

namespace Catalog

def rulesIn (c : Catalog) (category : Category) : List Rule :=
  c.rules.filter (·.category = category)

/-- the category of every rule name; of two rules with one name the last one counts -/
def ruleCategories (c : Catalog) : Dictionary Category :=
  c.rules.foldl (fun d r => d.put r.name r.category) []

def toJson (c : Catalog) : Json :=
  .object [("name", .string c.name), ("description", .string c.description),
    ("baseline", .object [("label", .string c.baselineLabel),
      ("max_fusions_per_cycle", .integer c.baselineFusionsPerCycle)]),
    ("target", .object [("label", .string c.targetLabel),
      ("max_fusions_per_cycle", .integer c.targetFusionsPerCycle)]),
    ("fusion_rules", .array (c.rules.map Rule.toJson)),
    ("missed_patterns", .array (c.missed.map MissedPattern.toJson))]

/-- the lines that a listing of the catalogs shows for this one -/
def summaryLines (c : Catalog) : List String :=
  ("## " ++ c.name ++ ": " ++ c.description)
    :: c.rules.map (fun r => "- [" ++ r.category.label ++ "] " ++ r.name)
    ++ c.missed.map (fun p => "- [missed] " ++ p.name ++ ": " ++ p.fix)
    ++ [""]

end Catalog

end MacroFusion
