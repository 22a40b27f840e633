import MacroFusion.Regex.Basic

/-!
# Expressions over mnemonics

What the text of a pattern can say.  Beyond the regular expressions of `Regex` it can test the place it
is at, look ahead and behind, name a part and ask for the same characters again, choose by whether a
part took part, and commit to the first way in which a part fits.  Such an expression has no meaning
apart from the order in which its ways are tried, so alternatives and repetitions have one: the left
alternative comes first, and a repetition tries to go on before it stops, unless it is lazy.
-/

namespace MacroFusion

open Regex (CharSet Fold)

/-- a test of the place between two characters -/
inductive Expression.Place where
  /-- the start of the text -/
  | start
  /-- the end of the text -/
  | stop
  /-- the end of the text, or before a line feed that ends it -/
  | lastStop
  /-- the start of a line -/
  | lineStart
  /-- the end of a line -/
  | lineStop
  /-- a word begins or ends here: one neighbour belongs to the class, the other does not -/
  | edge (cls : Regex.Class)
  /-- no word begins or ends here, in a text that is not empty -/
  | inside (cls : Regex.Class)
  deriving DecidableEq, Repr

/-- in which order a repetition tries how often it fits -/
inductive Expression.Manner where
  /-- as often as possible first -/
  | greedy
  /-- as seldom as possible first -/
  | lazy
  /-- as often as possible, each time in the first way, and never otherwise -/
  | possessive
  deriving DecidableEq, Repr

/-- what a pattern says -/
inductive Expression where
  /-- fits the empty text -/
  | nothing
  /-- fits one character of the set -/
  | one (set : CharSet)
  | seq (e f : Expression)
  /-- the first alternative, or else the second -/
  | alt (e f : Expression)
  /-- at least `lo` copies in a row, and at most `hi` if that is a number -/
  | times (e : Expression) (lo : Nat) (hi : Option Nat) (manner : Expression.Manner)
  /-- the part with this number -/
  | group (number : Nat) (e : Expression)
  | place (test : Expression.Place)
  /-- the characters that the part took, up to letters that count as the same -/
  | again (number : Nat) (fold : Fold)
  /-- the first expression if the part took some characters, or else the second -/
  | given (number : Nat) (e f : Expression)
  /-- an expression that has to fit, or must not if `wanted` is false, from `back` characters before;
  no character is taken -/
  | look (back : Nat) (wanted : Bool) (e : Expression)
  /-- the first way in which the expression fits, and no other -/
  | once (e : Expression)
  deriving DecidableEq, Repr

namespace Expression

/-- the expressions in a row -/
def row : List Expression → Expression
  | [] => .nothing
  | [e] => e
  | e :: es => .seq e (row es)

/-- the expressions that an expression puts in a row -/
def parts : Expression → List Expression
  | .nothing => []
  | .seq e f => e.parts ++ f.parts
  | e => [e]

/-- whether an expression fits in one way at most, wherever it is tried -/
def isSimple : Expression → Bool
  | .one _ | .place _ | .again _ _ => true
  | _ => false

/-- the set of all characters of some sets, if the rows are such sets and nothing else -/
def union? : List (List Expression) → Option CharSet
  | [[.one set]] => if set.negated then none else some set
  | [.one set] :: rows =>
    match union? rows with
    | some rest =>
      if set.negated || set.fold ≠ rest.fold then none
      else some ⟨false, set.items ++ rest.items, set.fold⟩
    | none => none
  | _ => none

/-- the rows as alternatives -/
def choice : List (List Expression) → Expression
  | [] => .nothing
  | [es] => row es
  | es :: rows => .alt (row es) (choice rows)

/-- the rows as alternatives, where what all begin with is taken once, and single characters make a
set -/
def branch : List Expression → List (List Expression) → Expression
  | es, [] => row es
  | [], rows => choice ([] :: rows)
  | e :: es, rows =>
    if e.isSimple && rows.all (·.head? = some e) then .seq e (branch es (rows.map List.tail))
    else match union? ((e :: es) :: rows) with
      | some set => .one set
      | none => choice ((e :: es) :: rows)

/-- the regular expression that says the same, where only regular parts are used: for a whole text the
order of the ways and the numbers of parts do not matter -/
def regular? : Expression → Option Regex
  | .nothing => some .epsilon
  | .one set => some (.one set)
  | .seq e f => e.regular?.bind fun r => f.regular?.map fun s => .seq r s
  | .alt e f => e.regular?.bind fun r => f.regular?.map fun s => .alt r s
  | .times e lo hi manner =>
    if manner = .possessive then none else e.regular?.map fun r => .times r lo hi
  | .group _ e => e.regular?
  | .place _ | .again _ _ | .given _ _ _ | .look _ _ _ | .once _ => none

/-- the same expression for a whole text, without tests that hold at the ends of it; `front` and `back`
tell whether it begins and ends where the text does -/
def trimmed (front back : Bool) : Expression → Expression
  | .seq e f => .seq (e.trimmed front false) (f.trimmed false back)
  | .alt e f => .alt (e.trimmed front back) (f.trimmed front back)
  | .group number e => .group number (e.trimmed front back)
  | .place .start => if front then .nothing else .place .start
  | .place .stop => if back then .nothing else .place .stop
  | .place .lastStop => if back then .nothing else .place .lastStop
  | e => e

end Expression

end MacroFusion
