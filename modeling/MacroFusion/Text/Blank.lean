import MacroFusion.Text.Ranges

/-!
# Blank characters

Which characters separate the columns of a listing, and how a text is freed of them at its ends.
-/

namespace MacroFusion.Text

/-- white space of the Unicode standard, with the four separators before the space -/
def blankRanges : Ranges := [
  (0x9, 0xd), (0x1c, 0x20), (0x85, 0x85), (0xa0, 0xa0), (0x1680, 0x1680), (0x2000, 0x200a),
  (0x2028, 0x2029), (0x202f, 0x202f), (0x205f, 0x205f), (0x3000, 0x3000)]

def isBlank (c : Char) : Bool := blankRanges.holds c.toNat

def trimStart (cs : List Char) : List Char := cs.dropWhile isBlank

def trimEnd (cs : List Char) : List Char := (cs.reverse.dropWhile isBlank).reverse

/-- without the blanks at both ends -/
def trim (cs : List Char) : List Char := trimEnd (trimStart cs)

/-- `trim` on packed text -/
def trimmed (s : String) : String := String.ofList (trim s.toList)

theorem trimStart_cons_of_blank {c : Char} (h : isBlank c = true) (cs : List Char) :
    trimStart (c :: cs) = trimStart cs := by
  simp [trimStart, h]

end MacroFusion.Text
