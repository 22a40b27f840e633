import MacroFusion.Regex.Basic

/-!
# Partial derivatives

`Regex.accepts` decides whether a text fits an expression.  It reads the text from left to right and
keeps the expressions of which one has to fit what is left: those of `r.partials c` after the character
`c`.  They are parts of the expression put in a row, and a repetition only counts its bounds down, so
there are few of them, in however many ways the text fits.  Of two that differ only in their bounds, the
one with the wider bounds is kept.

First the expression is prepared: a repetition of repetitions becomes one, and one that may go on for
longer than the text becomes unlimited, so that fewer counts tell expressions apart.
-/

namespace MacroFusion.Regex

/-- whether `lo` copies are not too many -/
def within (lo : Nat) : Option Nat → Bool
  | none => true
  | some hi => lo ≤ hi

/-- whether the empty text fits -/
def nullable : Regex → Bool
  | .empty => false
  | .epsilon => true
  | .one _ => false
  | .seq r s => r.nullable && s.nullable
  | .alt r s => r.nullable || s.nullable
  | .times r lo hi => lo = 0 || (r.nullable && within lo hi)

/-- `seq` with its first part taken apart, so that equal rows of parts look the same -/
def andThen : Regex → Regex → Regex
  | .epsilon, s => s
  | .seq p q, s => .seq p (andThen q s)
  | r, s => .seq r s

/-- the expressions of which one fits what follows the character `c` -/
def partials (c : Char) : Regex → List Regex
  | .empty => []
  | .epsilon => []
  | .one set => if set.holds c then [.epsilon] else []
  | .seq r s => (r.partials c).map (andThen · s) ++ if r.nullable then s.partials c else []
  | .alt r s => r.partials c ++ s.partials c
  | .times r lo hi =>
    if hi = some 0 then []
    else (r.partials c).map (andThen · (.times r (lo - 1) (hi.map (· - 1))))

/-- whether every number within the second bound is within the first -/
def boundCovers : Option Nat → Option Nat → Bool
  | none, _ => true
  | some _, none => false
  | some m, some n => n ≤ m

/-- whether the second expression is the first with narrower bounds, so that what fits it fits the first -/
def covers : Regex → Regex → Bool
  | .times r lo hi, .times s lo' hi' => lo ≤ lo' && boundCovers hi hi' && r = s
  | .seq r s, .seq r' s' => r.covers r' && s.covers s'
  | r, s => r = s

/-- how many neighbours of an expression are asked whether they cover it -/
def neighbours : Nat := 8

/-- the expressions, without those that a neighbour already kept covers -/
def thin (kept : List Regex) : List Regex → List Regex
  | [] => kept
  | r :: rest =>
    if (kept.take neighbours).any (·.covers r) then thin kept rest else thin (r :: kept) rest

/-- some of the expressions, which fit the same texts as all of them; wider bounds come first when they
are sorted, and equal expressions next to each other -/
def distinct (rs : List Regex) : List Regex :=
  thin [] (rs.mergeSort fun r s => (compare s r).isLE)

/-- whether the whole text fits one of the expressions -/
def anyAccepts (rs : List Regex) : List Char → Bool
  | [] => rs.any nullable
  | c :: cs => !rs.isEmpty && anyAccepts (distinct (rs.flatMap (partials c))) cs

/-! ## Fewer expressions to keep apart -/

/-- `seq`, without a second part that fits only the empty text -/
def row (r s : Regex) : Regex := if s = .epsilon then r else .seq r s

/-- the product of two upper bounds -/
def boundMul : Option Nat → Option Nat → Option Nat
  | some m, some n => some (m * n)
  | _, _ => none

/-- copies of copies, taken as copies where the numbers of them have no gap -/
def copies (r : Regex) (lo : Nat) (hi : Option Nat) : Regex :=
  match r with
  | .times s a b =>
    if a ≤ 1 ∧ b ≠ some 0 ∧ hi ≠ some 0 ∧ within lo hi then .times s (a * lo) (boundMul b hi)
    else .times r lo hi
  | _ => .times r lo hi

/-- an upper bound, unless `n` copies more than the lower one are within it -/
def relaxed (n lo : Nat) : Option Nat → Option Nat
  | none => none
  | some hi => if lo + n ≤ hi then none else some hi

/-- a repetition for texts of at most `n` characters -/
def loosen (n : Nat) : Regex → Regex
  | .times r lo hi => .times r lo (relaxed n lo hi)
  | r => r

/-- the same expression for texts of at most `n` characters, with fewer parts and upper bounds -/
def prepare (n : Nat) : Regex → Regex
  | .empty => .empty
  | .epsilon => .epsilon
  | .one set => .one set
  | .seq r s => row (r.prepare n) (s.prepare n)
  | .alt r s => .alt (r.prepare n) (s.prepare n)
  | .times r lo hi => loosen n (copies (r.prepare n) lo hi)

/-- whether the whole text fits -/
def accepts (r : Regex) (text : List Char) : Bool := anyAccepts [r.prepare text.length] text

end MacroFusion.Regex
