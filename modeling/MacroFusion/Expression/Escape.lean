import MacroFusion.Expression.Basic
import MacroFusion.Expression.Flags
import MacroFusion.Text.CharacterName

/-!
# Escapes

What a backslash makes of the characters after it: a class of characters, a place, a character by its
number or its name, or a part to be taken again.  Other letters and digits make nothing, and any other
character stands for itself.

A character by number may lie among the surrogates, which no text holds; a set then has nothing there.
-/

namespace MacroFusion.Expression

open Regex (Item)

/-- what an escape stands for -/
inductive Escape where
  | item (i : Item)
  | code (n : Nat)
  | place (p : Place)
  /-- the part with this number, taken again -/
  | again (number : Nat)
  deriving DecidableEq, Repr

/-! ## Characters by number -/

def digitOf? (base : Nat) (c : Char) : Option Nat :=
  let d :=
    if c.isDigit then c.toNat - '0'.toNat
    else if 'a' ≤ c && c ≤ 'f' then c.toNat - 'a'.toNat + 10
    else if 'A' ≤ c && c ≤ 'F' then c.toNat - 'A'.toNat + 10
    else base
  if d < base then some d else none

/-- the number that digits write -/
def ofDigits (base : Nat) (cs : List Char) : Nat :=
  cs.foldl (fun n c => base * n + (digitOf? base c).getD 0) 0

/-- at most `n` digits from the head of the text -/
def digits (base n : Nat) (cs : List Char) : List Char :=
  (cs.take n).takeWhile fun c => (digitOf? base c).isSome

/-- the number of just `n` hexadecimal digits -/
def hexadecimal? (n : Nat) (cs : List Char) : Option (Nat × List Char) :=
  let ds := digits 16 n cs
  if ds.length = n then
    let code := ofDigits 16 ds
    if code ≤ 0x10ffff then some (code, cs.drop n) else none
  else none

/-- the largest number that three octal digits may write -/
def octalLimit : Nat := 0o377

/-- the number of the octal digit `c` and at most two more -/
def octal? (c : Char) (cs : List Char) : Option (Nat × List Char) :=
  let ds := digits 8 2 cs
  let code := ofDigits 8 (c :: ds)
  if code ≤ octalLimit then some (code, cs.drop ds.length) else none

/-- the character named between braces -/
def named? : List Char → Option (Nat × List Char)
  | '\x7b' :: cs =>
    match cs.dropWhile (· != '\x7d') with
    | _ :: rest =>
      (Text.codeOfName? (String.ofList (cs.takeWhile (· != '\x7d')))).map fun n => (n, rest)
    | [] => none
  | _ => none

/-- the entry of a set for the characters from one number to another -/
def itemsBetween (lo hi : Nat) : List Item :=
  let lo := if 0xd800 ≤ lo && lo ≤ 0xdfff then 0xe000 else lo
  let hi := if 0xd800 ≤ hi && hi ≤ 0xdfff then 0xd7ff else hi
  if lo ≤ hi then [.range (Char.ofNat lo) (Char.ofNat hi)] else []

/-! ## Escaped characters -/

/-- the class that an escaped letter stands for -/
def classItem? (ascii : Bool) : Char → Option Item
  | 'd' => some (.named (if ascii then .asciiDigit else .digit))
  | 'D' => some (.except (if ascii then .asciiDigit else .digit))
  | 'w' => some (.named (if ascii then .asciiWord else .word))
  | 'W' => some (.except (if ascii then .asciiWord else .word))
  | 's' => some (.named (if ascii then .asciiBlank else .blank))
  | 'S' => some (.except (if ascii then .asciiBlank else .blank))
  | _ => none

/-- the character that an escape stands for in any position -/
def escapedCode? (c : Char) (cs : List Char) : Option (Nat × List Char) :=
  match c with
  | 'a' => some (0x07, cs)
  | 'f' => some (0x0c, cs)
  | 'n' => some (0x0a, cs)
  | 'r' => some (0x0d, cs)
  | 't' => some (0x09, cs)
  | 'v' => some (0x0b, cs)
  | 'x' => hexadecimal? 2 cs
  | 'u' => hexadecimal? 4 cs
  | 'U' => hexadecimal? 8 cs
  | 'N' => named? cs
  | '0' => octal? '0' cs
  | c => if c.isAlphanum then none else some (c.toNat, cs)

/-- a digit other than zero outside a set: three octal digits, or the number of a part -/
def numbered? (c : Char) (cs : List Char) : Option (Escape × List Char) :=
  if (digits 8 3 (c :: cs)).length = 3 then (octal? c cs).map fun (n, rest) => (.code n, rest)
  else
    let ds := digits 10 1 cs
    some (.again (ofDigits 10 (c :: ds)), cs.drop ds.length)

/-- the escape after a backslash outside a set -/
def escape? (flags : Flags) (c : Char) (cs : List Char) : Option (Escape × List Char) :=
  match c with
  | 'A' => some (.place .start, cs)
  | 'Z' => some (.place .stop, cs)
  | 'b' => some (.place (.edge flags.wordClass), cs)
  | 'B' => some (.place (.inside flags.wordClass), cs)
  | c =>
    match classItem? flags.ascii c with
    | some i => some (.item i, cs)
    | none =>
      if c.isDigit && c != '0' then numbered? c cs
      else (escapedCode? c cs).map fun (n, rest) => (.code n, rest)

/-- the escape after a backslash inside a set -/
def setEscape? (flags : Flags) (c : Char) (cs : List Char) : Option (Escape × List Char) :=
  match classItem? flags.ascii c with
  | some i => some (.item i, cs)
  | none =>
    if c = 'b' then some (.code 0x08, cs)
    else if (digitOf? 8 c).isSome then (octal? c cs).map fun (n, rest) => (.code n, rest)
    else (escapedCode? c cs).map fun (n, rest) => (.code n, rest)

end MacroFusion.Expression
