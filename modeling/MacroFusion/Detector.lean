import MacroFusion.Instruction
import MacroFusion.Pattern
import MacroFusion.Text.Quoted

/-!
# Missed opportunities

A detector looks at an instruction and the two after it, and reports a pair that would fuse if the
compiler had put it together.  Two kinds are made from patterns; a catalog may also bring any other test of
a window, which is taken to give an answer.
-/

namespace MacroFusion

inductive Detector where
  /-- the partner comes after one instruction in between -/
  | separated (first second : Pattern) (sharedRegister : Bool)
  /-- the partner does not come next -/
  | unpaired (first second : Pattern)
  /-- whatever a test says, which is shown as `text` -/
  | custom (text : String) (test : List Instruction → Bool)

namespace Detector

/-- how many instructions a detector is shown at most -/
def reach : Nat := 3

/-- whether the opportunity is missed at the head of the window -/
def detects : Detector → List Instruction → Bool
  | .separated first second shared, a :: _ :: c :: _ =>
    first.fits a.mnemonic && second.fits c.mnemonic && (!shared || a.sharesRegister c)
  | .separated _ _ _, _ => false
  | .unpaired _ _, [] => false
  | .unpaired first _, [a] => first.fits a.mnemonic
  | .unpaired first second, a :: b :: _ => first.fits a.mnemonic && !second.fits b.mnemonic
  | .custom _ test, window => test window

/-- the detector as catalogs show it -/
def shown : Detector → String
  | .separated first second shared =>
    "SeparatedPair(" ++ Text.quoted first.source ++ ", " ++ Text.quoted second.source
      ++ ", shared_register=" ++ (if shared then "True" else "False") ++ ")"
  | .unpaired first second =>
    "UnpairedFirst(" ++ Text.quoted first.source ++ ", " ++ Text.quoted second.source ++ ")"
  | .custom text _ => text

end Detector

/-- an opportunity to look for, with advice on how to seize it -/
structure MissedPattern where
  name : String
  description : String
  detector : Detector
  fix : String

end MacroFusion
