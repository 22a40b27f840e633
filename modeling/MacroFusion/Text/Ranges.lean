/-!
# Tables of code points

A character class of the Unicode standard is kept as the list of its maximal ranges, in increasing
order.  Membership walks the list and stops at the first range that begins past the code point, so
the common characters, which come first, are found in a step or two.
-/

namespace MacroFusion.Text

/-- a class of characters: closed ranges of code points, increasing and disjoint -/
abbrev Ranges := List (Nat × Nat)

/-- whether the code point `n` lies in one of the ranges -/
def Ranges.holds : Ranges → Nat → Bool
  | [], _ => false
  | (lo, hi) :: rest, n => if n < lo then false else if n ≤ hi then true else holds rest n

/-- the range that holds the code point `n` -/
def Ranges.find? : Ranges → Nat → Option (Nat × Nat)
  | [], _ => none
  | (lo, hi) :: rest, n =>
    if n < lo then none else if n ≤ hi then some (lo, hi) else find? rest n

/-- increasing and disjoint, with a gap between any two neighbours -/
def Ranges.sorted : Ranges → Bool
  | [] => true
  | [(lo, hi)] => lo ≤ hi
  | (lo, hi) :: (lo', hi') :: rest => lo ≤ hi && hi + 1 < lo' && sorted ((lo', hi') :: rest)

theorem Ranges.holds_cons (lo hi : Nat) (rest : Ranges) (n : Nat) :
    Ranges.holds ((lo, hi) :: rest) n
      = if n < lo then false else if n ≤ hi then true else Ranges.holds rest n := rfl

end MacroFusion.Text
