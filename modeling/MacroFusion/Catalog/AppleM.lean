import MacroFusion.Catalog.Basic

/-!
# The catalog for Apple cores

Neoverse-N1 against the Firestorm core and its successors.
-/

namespace MacroFusion

namespace Rule

/-- the page of an address -/
def page : Pattern := .ofSource "ADRP"

def addition : Pattern := .ofSource "ADD"

def load : Pattern := .ofSource "LDR"

/-- what completes the address of a page -/
def additionOrLoad : Pattern := .ofSource "ADD|LDR"

end Rule

def Catalog.appleM : Catalog where
  name := "apple-m"
  description := "Neoverse-N1 baseline versus Apple M-series (Firestorm and later)"
  baselineLabel := "Neoverse-N1"
  targetLabel := "Apple M-series"
  baselineFusionsPerCycle := 1
  targetFusionsPerCycle := 3
  rules := Rule.universalBranches ++ [
    .branch Rule.addition .implementationSpecific,
    .branch (.ofSource "SUB") .implementationSpecific,
    { name := "ADRP+ADD (address generation)"
      category := .implementationSpecific
      first := Rule.page
      second := Rule.addition
      sharedRegister := true
      description := "Page address plus low 12 bits into the same register" },
    { name := "ADRP+LDR (address generation)"
      category := .implementationSpecific
      first := Rule.page
      second := Rule.load
      sharedRegister := true
      description := "Page address then a load through the same register" },
    { name := "AES+AESMC (crypto)"
      category := .implementationSpecific
      first := Rule.aesRound
      second := Rule.aesMixColumns
      description := "AES round followed by the (inverse) mix-columns step" }]
  missed := [
    { name := "CMP separated from B.cond"
      description :=
        "CMP and conditional branch have instructions between them, which prevents fusion"
      detector := .separated Rule.comparison Rule.conditionalBranch false
      fix := "Move CMP immediately before the conditional branch to enable fusion" },
    { name := "ADRP separated from ADD/LDR"
      description :=
        "ADRP and ADD/LDR have instructions between them, which prevents Apple fusion"
      detector := .separated Rule.page Rule.additionOrLoad true
      fix :=
        "Place ADD/LDR immediately after ADRP for Apple Silicon address generation fusion" },
    { name := "AES without AESMC"
      description :=
        "AES encrypt/decrypt without an immediate AESMC, a missed crypto fusion"
      detector := .unpaired Rule.aesRound Rule.aesMixColumns
      fix := "Place AESMC/AESIMC immediately after AESE/AESD for crypto fusion" }]

end MacroFusion
