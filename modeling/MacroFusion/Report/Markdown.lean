import MacroFusion.Binary64.Text
import MacroFusion.Summary.Basic

/-!
# Markdown reports

The report for people: a table of the counts, the functions with most findings, the fused pairs of
each category, the missed opportunities and a comparison of the two cores.  Sections without content
are left out, and examples appear only where the summary kept some.
-/

namespace MacroFusion

namespace Report

/-- a comma after every third digit, read from the last digit on -/
def groupThrees : List Char → List Char
  | a :: b :: c :: d :: rest => a :: b :: c :: ',' :: groupThrees (d :: rest)
  | short => short

/-- a number with its digits in groups of three -/
def grouped (n : Int) : String :=
  String.ofList ((if n < 0 then ['-'] else [])
    ++ (groupThrees (Nat.toDigits 10 n.natAbs).reverse).reverse)

/-- a percentage with two places -/
def percent (x : Binary64) : String := x.fixed 2 ++ "%"

def dashes (n : Nat) : String := String.ofList (List.replicate n '-')

end Report

namespace Summary

open Report

def headLines (s : Summary) : List String :=
  ["# ARM64 Macro-op Fusion Analysis", "",
    "Total instructions analyzed: " ++ grouped s.totalInstructions, ""]

def confidenceLines (s : Summary) : List String :=
  if s.lowConfidence then
    ["> ⚠️ **Low confidence:** instructions appeared before any function header; "
      ++ "per-function numbers may be unreliable.", ""]
  else []

def countLines (s : Summary) : List String :=
  ["## Summary", "",
    "| Category | Count | Effect |",
    "|----------|-------|--------|",
    "| Standard fusion (" ++ s.baselineLabel ++ " + " ++ s.targetLabel ++ ") | "
      ++ toString s.universal ++ " | Fuses on all modern ARM |",
    "| " ++ s.targetLabel ++ "-specific fusion | " ++ toString s.implementationSpecific
      ++ " | Fuses ONLY on " ++ s.targetLabel ++ " |",
    "| Missed opportunities | " ++ toString s.missed
      ++ " | Could fuse but instructions not adjacent |",
    ""]

def gainLines (s : Summary) : List String :=
  if 0 < s.savedDecodeSlots then
    ["**Theoretical throughput improvement from fusion:** " ++ percent s.throughputImprovement,
      "(" ++ toString s.savedDecodeSlots ++ " decode slots saved across "
        ++ toString s.totalInstructions ++ " instructions)"]
      ++ (if 0 < s.implementationSpecific then
        ["**" ++ s.targetLabel ++ " advantage:** +" ++ percent s.implementationAdvantage
          ++ " additional fusion vs " ++ s.baselineLabel]
      else [])
      ++ [""]
  else []

def tallyLine (s : Summary) (t : Tally) : String :=
  "- **" ++ t.name ++ "**: " ++ toString t.universal ++ " standard, "
    ++ toString t.implementationSpecific ++ " " ++ s.targetLabel ++ "-specific, "
    ++ toString t.missed ++ " missed"

def breakdownLines (s : Summary) : List String :=
  if s.worstFunctions.isEmpty then []
  else ["## Per-Function Breakdown", ""] ++ s.worstFunctions.map s.tallyLine ++ [""]

def ruleLine : String × Int → String
  | (name, count) => "- " ++ name ++ ": " ++ toString count ++ "×"

def exampleLine (m : Match) : String :=
  "  [" ++ m.function ++ "@" ++ m.address ++ "] " ++ m.rule ++ ": " ++ m.pairText

/-- the rules of a category with their counts, and the examples after them -/
def pairLines (s : Summary) (category : Category) (title : String) (examples : List Match) :
    List String :=
  let counts := s.ruleCountsFor category
  if counts.isEmpty then []
  else
    [title, ""] ++ counts.map ruleLine
      ++ (if examples.isEmpty then [] else "" :: examples.map exampleLine)
      ++ [""]

def missLine (m : Miss) : String :=
  "  - " ++ m.function ++ "@" ++ m.address ++ ": " ++ m.instructionText

/-- a missed pattern with its count, its fix and its examples -/
def patternLines (s : Summary) : String × Int → List String
  | (name, count) =>
    ["### " ++ name ++ " (" ++ toString count ++ "×)",
      "**Fix:** " ++ (s.fixes.lookup name).getD ""]
      ++ ((s.missExamples.lookup name).getD []).map missLine
      ++ [""]

def missedLines (s : Summary) : List String :=
  if s.countsByPattern.isEmpty then []
  else
    ["## Missed Fusion Opportunities", "",
      "These instruction sequences could fuse if rearranged:", ""]
      ++ s.countsByPattern.flatMap s.patternLines

def comparisonLines (s : Summary) : List String :=
  ["## Cross-Platform Comparison", "",
    "| Metric | " ++ s.baselineLabel ++ " | " ++ s.targetLabel ++ " |",
    "|--------|" ++ dashes (s.baselineLabel.length + 2) ++ "|"
      ++ dashes (s.targetLabel.length + 2) ++ "|",
    "| Standard fusions | " ++ toString s.universal ++ " | " ++ toString s.universal ++ " |",
    "| " ++ s.targetLabel ++ "-specific fusions | 0 | " ++ toString s.implementationSpecific
      ++ " |",
    "| Total fusions | " ++ toString s.universal ++ " | " ++ toString s.totalFusions ++ " |",
    "| Max fusions/cycle | " ++ toString s.baselineFusionsPerCycle ++ " | "
      ++ toString s.targetFusionsPerCycle ++ " |",
    "| Effective saved decode slots | " ++ toString s.universal ++ " | "
      ++ toString s.totalFusions ++ " |",
    ""]

/-- the lines of the report -/
def markdownLines (s : Summary) : List String :=
  s.headLines ++ s.confidenceLines ++ s.countLines ++ s.gainLines ++ s.breakdownLines
    ++ s.pairLines .universal
      ("## Standard Fusion Pairs (" ++ s.baselineLabel ++ " + " ++ s.targetLabel ++ ")")
      s.universalExamples
    ++ s.pairLines .implementationSpecific
      ("## " ++ s.targetLabel ++ "-Specific Fusion (not on " ++ s.baselineLabel ++ ")")
      s.specificExamples
    ++ s.missedLines ++ s.comparisonLines

def markdown (s : Summary) : String := "\n".intercalate s.markdownLines

end Summary

end MacroFusion
