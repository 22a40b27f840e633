import MacroFusion.Expression.Basic

/-!
# Bounds of a repetition

`*`, `+`, `?`, `{m}`, `{m,}`, `{,n}` and `{m,n}` tell how often the part before them is repeated; a `?`
after them makes the repetition lazy, and a `+` possessive.  A brace that opens no bounds stands for
itself.

Bounds from `2 ^ 32 - 1` on are too large.  This shows as soon as the closing brace is read, before what
they repeat is looked at; only a backslash that ends the text right after them shows earlier.
-/

namespace MacroFusion.Expression

/-- why a text writes no expression -/
inductive Failure where
  | malformed
  /-- a bound that is too large -/
  | tooManyTimes
  /-- flags for the whole pattern that contradict each other -/
  | clashingFlags
  deriving DecidableEq, Repr

/-- how often a part may be repeated -/
structure Bounds where
  lo : Nat
  hi : Option Nat
  deriving DecidableEq, Repr

/-- what follows a part: no repetition, bounds, or bounds that are none -/
inductive Suffix where
  | plain
  | times (bounds : Bounds) (rest : List Char)
  | bad (f : Failure)
  deriving DecidableEq, Repr

def decimal (cs : List Char) : Nat := cs.foldl (fun n c => 10 * n + (c.toNat - '0'.toNat)) 0

/-- the smallest bound that is too large -/
def boundLimit : Nat := 4294967295

/-- bounds, unless one is too large or they contradict each other -/
def bounded (lo : Nat) (hi : Option Nat) (rest : List Char) : Suffix :=
  if rest = ['\\'] then .bad .malformed
  else if boundLimit ≤ lo then .bad .tooManyTimes
  else match hi with
    | none => .times ⟨lo, none⟩ rest
    | some n =>
      if boundLimit ≤ n then .bad .tooManyTimes
      else if n < lo then .bad .malformed
      else .times ⟨lo, some n⟩ rest

/-- the bounds after an opening brace -/
def braces (cs : List Char) : Suffix :=
  let lo := cs.takeWhile Char.isDigit
  match cs.dropWhile Char.isDigit with
  | '\x7d' :: rest => if lo.isEmpty then .plain else bounded (decimal lo) (some (decimal lo)) rest
  | ',' :: more =>
    let hi := more.takeWhile Char.isDigit
    match more.dropWhile Char.isDigit with
    | '\x7d' :: rest => bounded (decimal lo) (if hi.isEmpty then none else some (decimal hi)) rest
    | _ => .plain
  | _ => .plain

/-- the repetition at the head of the text -/
def suffix : List Char → Suffix
  | '*' :: rest => .times ⟨0, none⟩ rest
  | '+' :: rest => .times ⟨1, none⟩ rest
  | '?' :: rest => .times ⟨0, some 1⟩ rest
  | '\x7b' :: rest => braces rest
  | _ => .plain

/-- the manner of a repetition after its bounds -/
def manner : List Char → Manner × List Char
  | '?' :: rest => (.lazy, rest)
  | '+' :: rest => (.possessive, rest)
  | rest => (.greedy, rest)

end MacroFusion.Expression
