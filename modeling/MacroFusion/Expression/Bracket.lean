import MacroFusion.Expression.Escape

/-!
# Sets between brackets

`[...]` lists characters, ranges and classes, and `[^...]` stands for all the others.  A closing bracket
that comes first and a hyphen that comes last stand for themselves.
-/

namespace MacroFusion.Expression

open Regex (CharSet Item)

/-- the entry at the head of the text inside a set -/
def setEntry? (flags : Flags) : List Char → Option (Escape × List Char)
  | '\\' :: c :: cs => setEscape? flags c cs
  | '\\' :: [] => none
  | c :: cs => some (.code c.toNat, cs)
  | [] => none

/-- the entries up to the closing bracket; `first` tells that a bracket would be an entry -/
def setItems (flags : Flags) (budget : Nat) (first : Bool) (cs : List Char) :
    Option (List Item × List Char) :=
  match budget, cs with
  | 0, _ => none
  | _ + 1, [] => none
  | budget + 1, c :: rest =>
    if c = ']' && !first then some ([], rest)
    else match setEntry? flags (c :: rest) with
      | some (.item i, '-' :: ']' :: more) => some (i :: itemsBetween '-'.toNat '-'.toNat, more)
      | some (.item _, '-' :: _) => none
      | some (.item i, more) =>
        (setItems flags budget false more).map fun (is, tail) => (i :: is, tail)
      | some (.code lo, '-' :: ']' :: more) =>
        some (itemsBetween lo lo ++ itemsBetween '-'.toNat '-'.toNat, more)
      | some (.code lo, '-' :: more) =>
        match setEntry? flags more with
        | some (.code hi, more) =>
          if hi < lo then none
          else (setItems flags budget false more).map fun (is, tail) =>
            (itemsBetween lo hi ++ is, tail)
        | _ => none
      | some (.code lo, more) =>
        (setItems flags budget false more).map fun (is, tail) => (itemsBetween lo lo ++ is, tail)
      | _ => none

/-- the set after its opening bracket -/
def charSet? (flags : Flags) (cs : List Char) : Option (CharSet × List Char) :=
  match cs with
  | '^' :: rest =>
    (setItems flags cs.length true rest).map fun (is, tail) => (⟨true, is, flags.fold⟩, tail)
  | _ =>
    (setItems flags (cs.length + 1) true cs).map fun (is, tail) => (⟨false, is, flags.fold⟩, tail)

end MacroFusion.Expression
