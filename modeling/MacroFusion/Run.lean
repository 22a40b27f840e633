import MacroFusion.Listing.Basic
import MacroFusion.Log
import MacroFusion.Summary.Basic

/-!
# Runs

One run takes a text to a summary: the catalog is looked up, the text is read as a listing, the
listing is analyzed and the analysis is summed up.  `Run.log` tells what is noted down on the
way, which is a function of the results.
-/

namespace MacroFusion

/-- the notes on a listing that was read -/
def Listing.log (l : Listing) : Log :=
  l.warnings.map (⟨.warning, .parser, ·⟩)
    ++ [⟨.debug, .parser, "Parsed " ++ toString l.instructionCount ++ " instructions in "
      ++ toString l.functions.length ++ " functions (" ++ toString l.skippedLines
      ++ " lines skipped)"⟩]

/-- the note on an analysis -/
def Analysis.log (a : Analysis) : Log :=
  [⟨.debug, .analyzer, "Analyzed " ++ toString a.perFunction.length ++ " functions: "
    ++ toString a.fused.length ++ " matches, " ++ toString a.missed.length
    ++ " missed opportunities"⟩]

/-- the note on a summary -/
def Summary.log (s : Summary) (c : Catalog) : Log :=
  [⟨.info, .pipeline, c.name ++ ": " ++ toString s.totalInstructions ++ " instructions, "
    ++ toString s.universal ++ " universal, " ++ toString s.implementationSpecific ++ " "
    ++ c.targetLabel ++ "-only, " ++ toString s.missed ++ " missed"⟩]

/-- everything that one run produces -/
structure Run where
  listing : Listing
  analysis : Analysis
  summary : Summary
  deriving Repr

namespace Run

/-- the analysis of a listing under a configuration -/
def analyze (l : Listing) (config : Config) (c : Catalog) : Analysis :=
  Analysis.run c config.workers l.functions config.filter l.lowConfidence l.warnings

/-- a run under a catalog that is at hand -/
def withCatalog (text : String) (config : Config) (c : Catalog) : Except Fault Run := do
  let listing ← Listing.read text
  let analysis := analyze listing config c
  let summary ← Summary.ofAnalysis analysis config c
  return { listing, analysis, summary }

/-- a run under the given catalog, or else under the one that the configuration names -/
def run (registry : Registry) (text : String) (config : Config) (catalog : Option Catalog) :
    Except Fault Run := do
  let c ← match catalog with
    | some c => pure c
    | none => (registry.get config.catalog).map (·.catalog)
  withCatalog text config c

/-- the notes of a run under a catalog, up to the step that fails -/
def logWithCatalog (text : String) (config : Config) (c : Catalog) : Log :=
  match Listing.read text with
  | .error _ => []
  | .ok listing =>
    let analysis := analyze listing config c
    listing.log ++ analysis.log ++
      match Summary.ofAnalysis analysis config c with
      | .error _ => []
      | .ok summary => summary.log c

/-- the notes of a run -/
def log (registry : Registry) (text : String) (config : Config) (catalog : Option Catalog) : Log :=
  match catalog with
  | some c => logWithCatalog text config c
  | none =>
    match registry.get config.catalog with
    | .ok e => logWithCatalog text config e.catalog
    | .error _ => []

end Run

end MacroFusion
