/-!
# Searching in a text

Filters and register cross-references ask whether one text occurs inside another.
-/

namespace MacroFusion.Text

/-- whether `needle` occurs in `hay`; the empty text occurs everywhere -/
def occursIn (needle : List Char) : List Char → Bool
  | [] => needle.isEmpty
  | c :: cs => needle.isPrefixOf (c :: cs) || occursIn needle cs

/-- `occursIn` on packed text -/
def isPartOf (needle hay : String) : Bool := occursIn needle.toList hay.toList

/-- whether a text ends in another -/
def endsIn (text ending : String) : Bool := ending.toList.isSuffixOf text.toList

/-- whether a text begins with another -/
def beginsWith (text beginning : String) : Bool := beginning.toList.isPrefixOf text.toList

/-- the pieces between the occurrences of a character; there is always at least one -/
def splitAt (sep : Char) : List Char → List (List Char)
  | [] => [[]]
  | c :: cs =>
    if c = sep then [] :: splitAt sep cs
    else match splitAt sep cs with
      | [] => [[c]]
      | piece :: rest => (c :: piece) :: rest

/-- cuts at the first occurrence of a character; `none` where it does not occur -/
def cutAt? (sep : Char) : List Char → Option (List Char × List Char)
  | [] => none
  | c :: cs =>
    if c = sep then some ([], cs)
    else (cutAt? sep cs).map fun (before, after) => (c :: before, after)

theorem occursIn_nil (needle : List Char) : occursIn needle [] = needle.isEmpty := rfl

theorem occursIn_cons (needle : List Char) (c : Char) (cs : List Char) :
    occursIn needle (c :: cs) = (needle.isPrefixOf (c :: cs) || occursIn needle cs) := rfl

theorem occursIn_iff {needle hay : List Char} : occursIn needle hay = true ↔ needle <:+: hay := by
  induction hay with
  | nil => rw [occursIn_nil, List.isEmpty_iff, List.infix_nil]
  | cons c cs ih =>
    rw [occursIn_cons, Bool.or_eq_true, List.isPrefixOf_iff_prefix, ih, List.infix_cons_iff]

theorem isPartOf_iff {needle hay : String} :
    isPartOf needle hay = true ↔ needle.toList <:+: hay.toList := occursIn_iff

theorem splitAt_ne_nil (sep : Char) (cs : List Char) : splitAt sep cs ≠ [] := by
  cases cs with
  | nil => simp [splitAt]
  | cons c cs =>
    rw [splitAt]
    split
    · simp
    · split <;> simp

end MacroFusion.Text
