import MacroFusion.Json.Basic
import MacroFusion.Rule

/-!
# Findings

What an analysis records: a fused pair, a missed opportunity, and the counts of both for a function.
-/

namespace MacroFusion

/-- a rule that an instruction and its successor satisfy -/
structure Match where
  function : String
  address : String
  rule : String
  category : Category
  pairText : String
  deriving DecidableEq, Repr

/-- an opportunity that is missed at an instruction -/
structure Miss where
  function : String
  address : String
  pattern : String
  instructionText : String
  fix : String
  deriving DecidableEq, Repr

/-- the counts of one function -/
structure Tally where
  name : String
  instructionCount : Int := 0
  universal : Int := 0
  implementationSpecific : Int := 0
  missed : Int := 0
  deriving DecidableEq, Repr

def Match.toJson (m : Match) : Json :=
  .object [("function", .string m.function), ("address", .string m.address),
    ("rule_name", .string m.rule), ("category", .string m.category.label),
    ("pair_text", .string m.pairText)]

def Miss.toJson (m : Miss) : Json :=
  .object [("function", .string m.function), ("address", .string m.address),
    ("pattern_name", .string m.pattern), ("instruction_text", .string m.instructionText),
    ("fix_suggestion", .string m.fix)]

namespace Tally

def total (t : Tally) : Int := t.universal + t.implementationSpecific + t.missed

/-- the counts of two functions together, under the name of the first -/
def add (s t : Tally) : Tally :=
  { name := s.name
    instructionCount := s.instructionCount + t.instructionCount
    universal := s.universal + t.universal
    implementationSpecific := s.implementationSpecific + t.implementationSpecific
    missed := s.missed + t.missed }

def toJson (t : Tally) : Json :=
  .object [("name", .string t.name), ("instruction_count", .integer t.instructionCount),
    ("universal", .integer t.universal),
    ("implementation_specific", .integer t.implementationSpecific),
    ("missed", .integer t.missed)]

end Tally

end MacroFusion
