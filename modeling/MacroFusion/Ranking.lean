import MacroFusion.Dictionary

/-!
# Rankings

Names counted and listed by count, the most frequent first; names with the same count keep the order
in which they first came.
-/

namespace MacroFusion

/-- the distinct names in the order of their first occurrence -/
def distinct (names : List String) : List String := names.eraseDups

/-- the number of occurrences of each name, counted in one pass -/
def counted (names : List String) : Dictionary Nat :=
  names.foldl (fun d name => d.update name 0 (· + 1)) []

/-- the distinct names with the number of their occurrences, the most frequent first -/
def ranked (names : List String) : List (String × Nat) :=
  (counted names).mergeSort fun a b => b.2 ≤ a.2

end MacroFusion
