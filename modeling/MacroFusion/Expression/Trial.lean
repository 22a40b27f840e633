import MacroFusion.Expression.Basic

/-!
# Trying an expression on a text

`Expression.trial` tries the ways in which an expression fits, in their order, and hands the spot that
each of them reaches to the rest of the pattern, until the rest succeeds.  What a way has noted about
the parts is given up with it, since a spot is a value and the next way starts from the old one.

There can be a great many ways.  A trial therefore carries an allowance of steps, and a limited one stops
when it is spent.

A repetition that has been there often enough goes on only if it moved since it last went on, so that
copies of the empty text come to an end.  Each round either moves or is the last one, which bounds their
number by the length of the text.
-/

namespace MacroFusion.Expression

open Regex (CharSet Fold)

/-- a spot in the text, with where the parts began and ended -/
structure Spot where
  index : Nat
  starts : List (Nat × Nat) := []
  ends : List (Nat × Nat) := []

namespace Spot

def move (s : Spot) (n : Nat) : Spot := { s with index := s.index + n }

def enter (s : Spot) (number : Nat) : Spot := { s with starts := (number, s.index) :: s.starts }

def leave (s : Spot) (number : Nat) : Spot := { s with ends := (number, s.index) :: s.ends }

/-- where a part that took part began and ended -/
def span? (s : Spot) (number : Nat) : Option (Nat × Nat) :=
  match s.starts.lookup number, s.ends.lookup number with
  | some start, some stop => if start ≤ stop then some (start, stop) else none
  | _, _ => none

end Spot

/-- how a trial ends, and the steps that are left -/
inductive Verdict where
  /-- some way led to this spot -/
  | found (s : Spot) (left : Nat)
  /-- no way leads anywhere -/
  | refused (left : Nat)
  /-- the allowance was spent before an answer was known -/
  | spent

/-- the rest of a pattern: what it leads to from a spot, with the steps that are left -/
abbrev Rest := Spot → Nat → Verdict

namespace Verdict

/-- the next way, if this one led nowhere -/
def orElse (v : Verdict) (next : Nat → Verdict) : Verdict :=
  match v with
  | .refused n => next n
  | v => v

/-- the rest of the pattern from the spot that was found -/
def andThen (v : Verdict) (rest : Rest) : Verdict :=
  match v with
  | .found s n => rest s n
  | v => v

end Verdict

/-- takes a step from the allowance -/
@[inline] def spend (limited : Bool) (n : Nat) (go : Nat → Verdict) : Verdict :=
  if limited && n == 0 then .spent else go (n - 1)

/-! ## Places -/

def isOfClassAt (cls : Regex.Class) (text : Array Char) (i : Nat) : Bool :=
  text[i]?.any cls.holds

/-- whether one of the two neighbours of a place is of the class and the other is not -/
def isEdge (cls : Regex.Class) (text : Array Char) (i : Nat) : Bool :=
  (0 < i && isOfClassAt cls text (i - 1)) != isOfClassAt cls text i

def Place.holds (text : Array Char) (i : Nat) : Place → Bool
  | .start => i = 0
  | .stop => i = text.size
  | .lastStop => i = text.size || (i + 1 = text.size && text[i]? = some '\n')
  | .lineStart => i = 0 || text[i - 1]? = some '\n'
  | .lineStop => i = text.size || text[i]? = some '\n'
  | .edge cls => isEdge cls text i
  | .inside cls => !text.isEmpty && !isEdge cls text i

/-! ## Repetition -/

/-- how many characters in a row are in the set, from `i` on and at most `limit` -/
def runLength (text : Array Char) (set : CharSet) (i : Nat) : Nat → Nat
  | 0 => 0
  | limit + 1 =>
    if text[i]?.any set.holds then runLength text set (i + 1) limit + 1 else 0

/-- tries the rest after `lo + more` characters, after one less, and so on down to `lo` -/
def mostFirst (limited : Bool) (rest : Rest) (s : Spot) (lo : Nat) : Nat → Nat → Verdict
  | 0, n => rest (s.move lo) n
  | more + 1, n => spend limited n fun n =>
    (rest (s.move (lo + (more + 1))) n).orElse (mostFirst limited rest s lo more)

/-- tries the rest after `lo` characters, after one more, and so on `more` times -/
def leastFirst (limited : Bool) (rest : Rest) (s : Spot) (lo : Nat) : Nat → Nat → Verdict
  | 0, n => rest (s.move lo) n
  | more + 1, n => spend limited n fun n =>
    (rest (s.move lo) n).orElse (leastFirst limited rest s (lo + 1) more)

/-- characters of a set, repeated -/
def characters (limited : Bool) (text : Array Char) (set : CharSet) (lo : Nat) (hi : Option Nat)
    (manner : Manner) (rest : Rest) (s : Spot) (n : Nat) : Verdict :=
  let room := text.size - s.index
  let run := runLength text set s.index ((hi.getD room).min room)
  if run < lo then .refused n
  else match manner with
    | .greedy => mostFirst limited rest s lo (run - lo) n
    | .lazy => leastFirst limited rest s lo (run - lo) n
    | .possessive => rest (s.move run) n

/-- rounds of an expression; `last` is where the round before began, if that one was not required -/
def rounds (limited lazy : Bool) (step : Rest → Rest) (rest : Rest) :
    Nat → Nat → Option Nat → Option Nat → Rest
  | 0, _, _, _, _, n => .refused n
  | budget + 1, lo, hi, last, s, n => spend limited n fun n =>
    if hi = some 0 then (if 0 < lo then .refused n else rest s n)
    else if 0 < lo then step (rounds limited lazy step rest budget (lo - 1) (hi.map (· - 1)) last) s n
    else if last = some s.index then rest s n
    else
      let more := rounds limited lazy step rest budget 0 (hi.map (· - 1)) (some s.index)
      if lazy then (rest s n).orElse (step more s) else (step more s n).orElse (rest s)

/-- rounds of an expression, each in its first way, as many as there can be -/
def settled (step : Rest → Rest) : Nat → Nat → Option Nat → Option Nat → Rest
  | 0, _, _, _, _, n => .refused n
  | budget + 1, lo, hi, last, s, n =>
    if 0 < lo then
      (step .found s n).andThen (settled step budget (lo - 1) (hi.map (· - 1)) last)
    else if hi = some 0 || last = some s.index then .found s n
    else match step .found s n with
      | .refused n => .found s n
      | v => v.andThen (settled step budget 0 (hi.map (· - 1)) (some s.index))

/-! ## Expressions -/

/-- whether the characters from `j` on are those between two places, up to letters that count as the
same -/
def sameAt (text : Array Char) (fold : Fold) (start stop j : Nat) : Bool :=
  j + (stop - start) ≤ text.size &&
    (List.range (stop - start)).all fun k =>
      text[start + k]?.map fold.key = text[j + k]?.map fold.key

/-- what the rest leads to after the first way that lets it -/
def trial (limited : Bool) (text : Array Char) : Expression → Rest → Rest
  | .nothing, rest, s, n => rest s n
  | .one set, rest, s, n => spend limited n fun n =>
    if text[s.index]?.any set.holds then rest (s.move 1) n else .refused n
  | .seq e f, rest, s, n => trial limited text e (trial limited text f rest) s n
  | .alt e f, rest, s, n =>
    (trial limited text e rest s n).orElse (trial limited text f rest s)
  | .times e lo hi manner, rest, s, n =>
    match e with
    | .one set => characters limited text set lo hi manner rest s n
    | e =>
      match manner with
      | .greedy => rounds limited false (trial limited text e) rest (lo + text.size + 3) lo hi none s n
      | .lazy => rounds limited true (trial limited text e) rest (lo + text.size + 3) lo hi none s n
      | .possessive => (settled (trial limited text e) (lo + text.size + 3) lo hi none s n).andThen rest
  | .group number e, rest, s, n =>
    trial limited text e (fun t => rest (t.leave number)) (s.enter number) n
  | .place test, rest, s, n => if test.holds text s.index then rest s n else .refused n
  | .again number fold, rest, s, n =>
    match s.span? number with
    | some (start, stop) =>
      if sameAt text fold start stop s.index then rest (s.move (stop - start)) n else .refused n
    | none => .refused n
  | .given number e f, rest, s, n =>
    if (s.span? number).isSome then trial limited text e rest s n else trial limited text f rest s n
  | .look back wanted e, rest, s, n =>
    let found := if s.index < back then .refused n
      else trial limited text e .found { s with index := s.index - back } n
    match found, wanted with
    | .found t n, true => rest { t with index := s.index } n
    | .found _ n, false => .refused n
    | .refused n, true => .refused n
    | .refused n, false => rest s n
    | .spent, _ => .spent
  | .once e, rest, s, n => (trial limited text e .found s n).andThen rest

/-- the end of a pattern that has to fit the whole text -/
def atEnd (text : Array Char) : Rest := fun s n =>
  if s.index = text.size then .found s n else .refused n

end MacroFusion.Expression
