import MacroFusion.Catalog.Basic

/-!
# The catalog for Neoverse-V2

Neoverse-N1 against a core that also fuses the construction of wide immediates and a comparison with
a conditional select.
-/

namespace MacroFusion

namespace Rule

/-- the start of a wide immediate -/
def wideStart : Pattern := .ofSource "MOVZ?"

/-- a further part of it -/
def widePart : Pattern := .ofSource "MOVK"

end Rule

def Catalog.neoverseV2 : Catalog where
  name := "neoverse-v2"
  description := "Neoverse-N1 baseline versus a Neoverse-V2 style core"
  baselineLabel := "Neoverse-N1"
  targetLabel := "Neoverse-V2"
  baselineFusionsPerCycle := 1
  targetFusionsPerCycle := 2
  rules := Rule.universalBranches ++ [
    { name := "AES+AESMC (crypto)"
      category := .implementationSpecific
      first := Rule.aesRound
      second := Rule.aesMixColumns },
    { name := "MOVZ+MOVK (wide immediate)"
      category := .implementationSpecific
      first := Rule.wideStart
      second := Rule.widePart
      sharedRegister := true },
    { name := "CMP+CSEL (conditional select)"
      category := .implementationSpecific
      first := Rule.comparison
      second := .ofSource "CSEL|CSET|CSINC" }]
  missed := [
    { name := "AES without AESMC"
      description := "AES round not directly followed by its mix-columns step"
      detector := .unpaired Rule.aesRound Rule.aesMixColumns
      fix := "Place AESMC/AESIMC immediately after AESE/AESD for crypto fusion" },
    { name := "MOVZ separated from MOVK"
      description := "Wide immediate built with instructions in between"
      detector := .separated Rule.wideStart Rule.widePart true
      fix := "Emit MOVK directly after the MOVZ/MOV that starts the constant" }]

end MacroFusion
