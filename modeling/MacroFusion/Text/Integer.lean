import MacroFusion.Text.Blank
import MacroFusion.Text.Digit

/-!
# Integers as text

An integer on the command line may have blanks around it, a sign, digits of any script, and single
underscores between digits.  The four separators before the space are no blanks here.
-/

namespace MacroFusion.Text

/-- the values of digits with single underscores between them; `start` tells that a digit has to come
next -/
def digitValues? : Bool → List Char → Option (List Nat)
  | start, [] => if start then none else some []
  | start, c :: cs =>
    if c = '_' then (if start then none else digitValues? true cs)
    else match digitValue? c with
      | some d => (digitValues? false cs).map (d :: ·)
      | none => none

def natural? (cs : List Char) : Option Nat :=
  (digitValues? true cs).map (·.foldl (fun n d => 10 * n + d) 0)

/-- the blanks that may stand around an integer -/
def isMargin (c : Char) : Bool := isBlank c && !(0x1c ≤ c.toNat && c.toNat ≤ 0x1f)

/-- the integer that a text writes -/
def integer? (s : String) : Option Int :=
  match ((s.toList.dropWhile isMargin).reverse.dropWhile isMargin).reverse with
  | '-' :: cs => (natural? cs).map fun n => -(n : Int)
  | '+' :: cs => (natural? cs).map fun n => (n : Int)
  | cs => (natural? cs).map fun n => (n : Int)

end MacroFusion.Text
