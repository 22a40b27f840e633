import MacroFusion.Catalog.Basic
import MacroFusion.Fault

/-!
# Drafts of catalogs

A catalog as it is written down, before its patterns are known to be expressions.  Building
it fails at the first text that writes none.
-/

namespace MacroFusion

namespace Draft

/-- a rule, or the branch rule of a flag-setting instruction -/
inductive Rule where
  | pair (name : String) (category : Category) (first second : String) (sharedRegister : Bool)
      (description : String)
  | branch (first : String) (category : Category)
  deriving Repr

inductive Detector where
  | separated (first second : String) (sharedRegister : Bool)
  | unpaired (first second : String)
  deriving Repr

structure MissedPattern where
  name : String
  description : String
  detector : Detector
  fix : String
  deriving Repr

def pattern (source : String) : Except Fault Pattern :=
  match Pattern.ofText source with
  | .ok p => .ok p
  | .error .malformed => .error .invalidPattern
  | .error .tooManyTimes => .error .repetitionTooLarge
  | .error .clashingFlags => .error .clashingFlags

def Rule.build : Rule → Except Fault MacroFusion.Rule
  | .pair name category first second sharedRegister description => do
    let first ← pattern first
    let second ← pattern second
    return { name, category, first, second, sharedRegister, description }
  | .branch first category => do
    let first ← pattern first
    return .branch first category

def Detector.build : Detector → Except Fault MacroFusion.Detector
  | .separated first second sharedRegister => do
    let first ← pattern first
    let second ← pattern second
    return .separated first second sharedRegister
  | .unpaired first second => do
    let first ← pattern first
    let second ← pattern second
    return .unpaired first second

def MissedPattern.build (p : MissedPattern) : Except Fault MacroFusion.MissedPattern := do
  let detector ← p.detector.build
  return { name := p.name, description := p.description, detector, fix := p.fix }

end Draft

/-- a catalog before its patterns are read -/
structure Draft where
  name : String
  description : String := ""
  rules : List Draft.Rule := []
  missed : List Draft.MissedPattern := []
  baselineLabel : String := "baseline"
  targetLabel : String := "target"
  baselineFusionsPerCycle : Int := 1
  targetFusionsPerCycle : Int := 1
  deriving Repr

/-- the catalog of a draft -/
def Draft.build (d : Draft) : Except Fault Catalog := do
  let rules ← d.rules.mapM Draft.Rule.build
  let missed ← d.missed.mapM Draft.MissedPattern.build
  return {
    name := d.name, description := d.description, rules, missed
    baselineLabel := d.baselineLabel, targetLabel := d.targetLabel
    baselineFusionsPerCycle := d.baselineFusionsPerCycle
    targetFusionsPerCycle := d.targetFusionsPerCycle }

end MacroFusion
