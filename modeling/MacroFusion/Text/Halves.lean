import MacroFusion.Text.Utf8

/-!
# Halves of characters

A character beyond the first 65536 can be written as a pair of numbers, a high half and a low half.  Two
halves that follow each other are one character.  A half that stands alone is none; where a text has to be
made of it all the same, it is replaced, and `isPaired` tells whether that was needed.
-/

namespace MacroFusion.Text

def isHighHalf (n : Nat) : Bool := 0xd800 ≤ n && n < 0xdc00

def isLowHalf (n : Nat) : Bool := 0xdc00 ≤ n && n < 0xe000

def isHalf (n : Nat) : Bool := isHighHalf n || isLowHalf n

/-- the character of a number, unless it is a half -/
def whole (n : Nat) : Char := if isHalf n then replacement else Char.ofNat n

/-- whether no half stands alone -/
def isPaired : List Nat → Bool
  | [] => true
  | [n] => !isHalf n
  | high :: low :: rest =>
    if isHighHalf high && isLowHalf low then isPaired rest else !isHalf high && isPaired (low :: rest)

/-- the characters of numbers among which there may be halves -/
def joinHalves : List Nat → List Char
  | [] => []
  | [n] => [whole n]
  | high :: low :: rest =>
    if isHighHalf high && isLowHalf low then
      Char.ofNat (0x10000 + (high - 0xd800) * 0x400 + (low - 0xdc00)) :: joinHalves rest
    else whole high :: joinHalves (low :: rest)

end MacroFusion.Text
