import MacroFusion.Instruction
import MacroFusion.Pattern

/-!
# Fusion rules

A fusion rule says which two instructions, one directly after the other, a core issues as one
operation.
-/

namespace MacroFusion

/-- which cores honor a rule -/
inductive Category where
  /-- every targeted core -/
  | universal
  /-- only the wider core -/
  | implementationSpecific
  deriving DecidableEq, Repr

def Category.label : Category → String
  | .universal => "universal"
  | .implementationSpecific => "implementation_specific"

/-- a pair of neighbours that fuses -/
structure Rule where
  name : String
  category : Category
  first : Pattern
  second : Pattern
  /-- the second has to mention the destination of the first -/
  sharedRegister : Bool := false
  description : String := ""

namespace Rule

/-- whether `a`, directly followed by `b`, fuses -/
def fuses (r : Rule) (a b : Instruction) : Bool :=
  r.first.fits a.mnemonic && r.second.fits b.mnemonic
    && (!r.sharedRegister || a.sharesRegister b)

/-- the condition codes, with the two aliases and the reserved one -/
def conditionCodes : List String :=
  ["EQ", "NE", "CS", "HS", "CC", "LO", "MI", "PL", "VS", "VC", "HI", "LS", "GE", "LT", "GT", "LE",
    "AL", "NV"]

/-- a branch on any condition -/
def conditionalBranch : Pattern :=
  Pattern.ofSource ("B\\.(?:" ++ "|".intercalate conditionCodes ++ ")")

def comparison : Pattern := .ofSource "CMP"

/-- a round of AES, without its mix-columns step -/
def aesRound : Pattern := .ofSource "AES[ED]"

/-- the mix-columns step of AES, or its inverse -/
def aesMixColumns : Pattern := .ofSource "AESI?MC"

/-- an instruction that sets the flags, followed by a conditional branch -/
def branch (first : Pattern) (category : Category) : Rule :=
  { name := first.source ++ "+B.cond", category, first, second := conditionalBranch
    description := first.source ++ " feeding a conditional branch" }

/-- the branches that every targeted core fuses -/
def universalBranches : List Rule :=
  [branch comparison .universal,
    branch (.ofSource "CMN") .universal,
    branch (.ofSource "TST") .universal,
    branch (.ofSource "ADDS") .universal,
    branch (.ofSource "SUBS") .universal,
    branch (.ofSource "ANDS") .universal]

end Rule

end MacroFusion
