import MacroFusion.Text.Blank
import MacroFusion.Text.Search

/-!
# Instructions and functions

What a listing holds: instructions as the disassembler printed them, grouped under symbols.
-/

namespace MacroFusion

/-- one instruction of a listing -/
structure Instruction where
  /-- hexadecimal digits -/
  address : String
  /-- in capitals, so that patterns need not deal with case -/
  mnemonic : String
  operands : String
  /-- the line as it stood, without the blanks around it -/
  raw : String
  deriving DecidableEq, Repr

/-- a symbol with its instructions in the order of the listing -/
structure Function where
  name : String
  instructions : List Instruction := []
  deriving DecidableEq, Repr

namespace Instruction

/-- the text before the first comma of the operands, without blanks around it -/
def leadingOperand (i : Instruction) : List Char :=
  Text.trim (i.operands.toList.takeWhile (· != ','))

/-- the leading operand, usually the destination register, if it is not empty -/
def firstOperand? (i : Instruction) : Option String :=
  let operand := i.leadingOperand
  if operand.isEmpty then none else some (String.ofList operand)

/-- whether the leading operand of `first` occurs anywhere in the operands of `second`; a matter of
text alone, so that `x1` is found in `x10` -/
def sharesRegister (first second : Instruction) : Bool :=
  match first.firstOperand? with
  | some register => Text.isPartOf register second.operands
  | none => false

end Instruction

end MacroFusion
