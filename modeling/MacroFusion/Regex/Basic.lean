import MacroFusion.Text.Blank
import MacroFusion.Text.Digit
import MacroFusion.Text.Lower
import MacroFusion.Text.Word

/-!
# Regular expressions over mnemonics

A rule describes a mnemonic by an expression that has to fit the whole of it.  An expression that only
puts sets of characters in a row, offers alternatives and repeats is regular: it is a value of `Regex`,
and its meaning is the relation `Regex.Fits`.
-/

namespace MacroFusion

open Text

/-- a named class of characters, of every script or of ASCII only -/
inductive Regex.Class where
  | digit | word | blank
  | asciiDigit | asciiWord | asciiBlank
  deriving DecidableEq, Ord, Repr

/-- which letters count as the same -/
inductive Regex.Fold where
  /-- no two -/
  | exact
  /-- the two cases of an ASCII letter -/
  | ascii
  /-- the cases of a letter of any script -/
  | full
  deriving DecidableEq, Ord, Repr

/-- one entry of a set of characters -/
inductive Regex.Item where
  | range (lo hi : Char)
  | named (cls : Regex.Class)
  | except (cls : Regex.Class)
  deriving DecidableEq, Ord, Repr

/-- the characters of some entries, or all the others; `fold` tells which letters stand for each other
in a range -/
structure Regex.CharSet where
  negated : Bool
  items : List Regex.Item
  fold : Regex.Fold := .exact
  deriving DecidableEq, Ord, Repr

/-- regular expressions -/
inductive Regex where
  /-- fits no text -/
  | empty
  /-- fits the empty text -/
  | epsilon
  /-- fits the texts of one character of the set -/
  | one (set : Regex.CharSet)
  | seq (r s : Regex)
  | alt (r s : Regex)
  /-- at least `lo` copies in a row, and at most `hi` if that is a number -/
  | times (r : Regex) (lo : Nat) (hi : Option Nat)
  deriving DecidableEq, Ord, Repr

namespace Regex

def Class.holds : Class → Char → Bool
  | .digit, c => isDigit c
  | .word, c => isWord c
  | .blank, c => isBlank c
  | .asciiDigit, c => c.isDigit
  | .asciiWord, c => c.isAlphanum || c == '_'
  | .asciiBlank, c => c.isWhitespace || c == '\x0b' || c == '\x0c'

/-- the characters that count as the same as `c` -/
def Fold.variants : Fold → Char → List Char
  | .exact, c => [c]
  | .ascii, c => asciiVariants c
  | .full, c => caseVariants c

/-- the form that tells characters apart -/
def Fold.key : Fold → Char → Char
  | .exact, c => c
  | .ascii, c => c.toLower
  | .full, c => lowerChar c

/-- whether a character, or one that counts as the same, is in a range -/
def Fold.within (fold : Fold) (lo hi c : Char) : Bool :=
  match fold with
  | .exact => lo ≤ c && c ≤ hi
  | fold => (fold.variants c).any fun d => lo ≤ d && d ≤ hi

def Item.holds (fold : Fold) : Item → Char → Bool
  | .range lo hi, c => fold.within lo hi c
  | .named cls, c => cls.holds c
  | .except cls, c => !cls.holds c

def CharSet.holds (set : CharSet) (c : Char) : Bool :=
  set.negated != set.items.any (·.holds set.fold c)

/-- the texts that an expression describes -/
inductive Fits : Regex → List Char → Prop where
  | epsilon : Fits .epsilon []
  | one {set : CharSet} {c : Char} (h : set.holds c = true) : Fits (.one set) [c]
  | seq {r s : Regex} {u v : List Char} (hu : Fits r u) (hv : Fits s v) : Fits (.seq r s) (u ++ v)
  | left {r s : Regex} {u : List Char} (h : Fits r u) : Fits (.alt r s) u
  | right {r s : Regex} {u : List Char} (h : Fits s u) : Fits (.alt r s) u
  | stop {r : Regex} {hi : Option Nat} : Fits (.times r 0 hi) []
  | more {r : Regex} {lo : Nat} {hi : Option Nat} {u v : List Char} (h : hi ≠ some 0)
      (hu : Fits r u) (hv : Fits (.times r (lo - 1) (hi.map (· - 1))) v) :
      Fits (.times r lo hi) (u ++ v)

end Regex

end MacroFusion
