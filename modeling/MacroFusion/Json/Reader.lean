import MacroFusion.Json.Basic
import MacroFusion.Text.Halves

/-!
# Reading JSON

The format of the standard, with three numbers more (`NaN`, `Infinity`, `-Infinity`).  Of two fields
of one name the last one counts.  A string holds no bare control character.

A reader may limit how deep arrays and objects are nested; the limit is met at the first bracket that goes
beyond it, whatever follows.  It may also limit how many digits an integer has; one that is longer is as
good as malformed.  Both limits are those of the machine that reads, and not of the format.
-/

namespace MacroFusion.Json

/-- why a text is not read -/
inductive Failure where
  | malformed
  /-- nested deeper than the reader goes -/
  | tooDeep
  deriving DecidableEq, Repr

/-- what a reader can take -/
structure Limits where
  /-- how many brackets and braces may be around the innermost part -/
  depth : Nat
  /-- how many digits an integer may have, if that is limited -/
  digits : Option Nat := none
  deriving DecidableEq, Repr

/-- what has to be there, or else the text is malformed -/
def require {α : Type} : Option α → Except Failure α
  | some a => .ok a
  | none => .error .malformed

def isSpace (c : Char) : Bool := c == ' ' || c == '\t' || c == '\n' || c == '\r'

def skip (cs : List Char) : List Char := cs.dropWhile isSpace

/-- drops a text that has to stand at the head -/
def expect? : List Char → List Char → Option (List Char)
  | [], cs => some cs
  | w :: ws, c :: cs => if w = c then expect? ws cs else none
  | _ :: _, [] => none

/-! ## Strings -/

def hexValue? (c : Char) : Option Nat :=
  if '0' ≤ c && c ≤ '9' then some (c.toNat - '0'.toNat)
  else if 'a' ≤ c && c ≤ 'f' then some (c.toNat - 'a'.toNat + 10)
  else if 'A' ≤ c && c ≤ 'F' then some (c.toNat - 'A'.toNat + 10)
  else none

/-- the number that four digits write -/
def unit? (a b c d : Char) : Option Nat := do
  let a ← hexValue? a
  let b ← hexValue? b
  let c ← hexValue? c
  let d ← hexValue? d
  return a * 4096 + b * 256 + c * 16 + d

/-- the character that a letter after a backslash stands for -/
def escaped? (c : Char) : Option Char :=
  match c with
  | '"' | '\\' | '/' => some c
  | 'b' => some '\x08'
  | 'f' => some '\x0c'
  | 'n' => some '\n'
  | 'r' => some '\r'
  | 't' => some '\t'
  | _ => none

/-- one number more in front of those that were read -/
def before (n : Option Nat) (more : Option (List Nat × List Char)) :
    Option (List Nat × List Char) :=
  match n, more with
  | some n, some (ns, tail) => some (n :: ns, tail)
  | _, _ => none

/-- the characters of a string after its opening quote, as numbers among which there may be halves -/
def units : List Char → Option (List Nat × List Char)
  | [] => none
  | '"' :: rest => some ([], rest)
  | '\\' :: 'u' :: a :: b :: c :: d :: rest => before (unit? a b c d) (units rest)
  | '\\' :: c :: rest => before ((escaped? c).map Char.toNat) (units rest)
  | c :: rest => before (if c.toNat < 0x20 then none else some c.toNat) (units rest)

/-- the string after its opening quote, mended -/
def readString? (cs : List Char) : Option (String × List Char) :=
  (units cs).map fun (ns, tail) => (String.ofList (Text.joinHalves ns), tail)

/-- the value of a string after its opening quote -/
def stringValue? (cs : List Char) : Option (Json × List Char) :=
  (units cs).map fun (ns, tail) =>
    let mended := String.ofList (Text.joinHalves ns)
    (if Text.isPaired ns then .string mended else .cleft mended, tail)

/-! ## Numbers -/

def decimalValue (digits : List Char) : Nat :=
  digits.foldl (fun n c => 10 * n + (c.toNat - '0'.toNat)) 0

/-- the digits before the point; a zero in front stands alone -/
def wholePart (cs : List Char) : List Char × List Char :=
  match cs.takeWhile Char.isDigit with
  | '0' :: _ => (['0'], cs.drop 1)
  | digits => (digits, cs.dropWhile Char.isDigit)

/-- the digits after a point, if there are any -/
def fraction (cs : List Char) : List Char × List Char :=
  match cs with
  | '.' :: rest =>
    let digits := rest.takeWhile Char.isDigit
    if digits.isEmpty then ([], cs) else (digits, rest.dropWhile Char.isDigit)
  | _ => ([], cs)

/-- the exponent, if there is one -/
def exponent (cs : List Char) : Option Int × List Char :=
  match cs with
  | e :: rest =>
    if e = 'e' || e = 'E' then
      let (negative, body) := match rest with
        | '-' :: more => (true, more)
        | '+' :: more => (false, more)
        | _ => (false, rest)
      let digits := body.takeWhile Char.isDigit
      if digits.isEmpty then (none, cs)
      else
        let value : Int := decimalValue digits
        (some (if negative then -value else value), body.dropWhile Char.isDigit)
    else (none, cs)
  | [] => (none, cs)

/-- an exponent beyond which every number is zero or infinite, whatever its digits -/
def clampExponent (digits : Nat) (e : Int) : Int :=
  max (-(400 + digits : Int)) (min (400 + digits) e)

/-- the number at the head, after its sign; an integer may have so many digits -/
def number? (limit : Option Nat) (negative : Bool) (cs : List Char) : Option (Json × List Char) :=
  let (whole, rest) := wholePart cs
  if whole.isEmpty then none
  else
    let (places, rest) := fraction rest
    let (e?, rest) := exponent rest
    if places.isEmpty && e?.isNone then
      if limit.any (· < whole.length) then none
      else
        let value : Int := decimalValue whole
        some (.integer (if negative then -value else value), rest)
    else
      let digits := whole ++ places
      let e := clampExponent digits.length (e?.getD 0)
      some (.number (Binary64.ofDecimal negative (decimalValue digits) (e - places.length)), rest)

/-! ## Values -/

mutual

/-- the value at the head, with at most `depth` brackets around its innermost part -/
def value (digits : Option Nat) (budget depth : Nat) (cs : List Char) : Except Failure (Json × List Char) :=
  match budget with
  | 0 => .error .malformed
  | budget + 1 =>
    match cs with
    | '"' :: rest => require (stringValue? rest)
    | '[' :: rest =>
      match depth, skip rest with
      | 0, _ => .error .tooDeep
      | _ + 1, ']' :: tail => .ok (.array [], tail)
      | depth + 1, body => (elements digits budget depth body).map fun (js, tail) => (.array js, tail)
    | '\x7b' :: rest =>
      match depth, skip rest with
      | 0, _ => .error .tooDeep
      | _ + 1, '\x7d' :: tail => .ok (.object [], tail)
      | depth + 1, body => (members digits budget depth [] body).map fun (fs, tail) => (.object fs, tail)
    | 'n' :: rest => require ((expect? ['u', 'l', 'l'] rest).map fun tail => (.null, tail))
    | 't' :: rest => require ((expect? ['r', 'u', 'e'] rest).map fun tail => (.bool true, tail))
    | 'f' :: rest =>
      require ((expect? ['a', 'l', 's', 'e'] rest).map fun tail => (.bool false, tail))
    | 'N' :: rest => require ((expect? ['a', 'N'] rest).map fun tail => (.number .nan, tail))
    | 'I' :: rest =>
      require ((expect? "nfinity".toList rest).map fun tail => (.number (.infinite false), tail))
    | '-' :: 'I' :: rest =>
      require ((expect? "nfinity".toList rest).map fun tail => (.number (.infinite true), tail))
    | '-' :: rest => require (number? digits true rest)
    | rest => require (number? digits false rest)

/-- the elements of an array that is not empty, up to its closing bracket -/
def elements (digits : Option Nat) (budget depth : Nat) (cs : List Char) :
    Except Failure (List Json × List Char) :=
  match budget with
  | 0 => .error .malformed
  | budget + 1 =>
    match value digits budget depth cs with
    | .error f => .error f
    | .ok (j, rest) =>
      match skip rest with
      | ',' :: more => (elements digits budget depth (skip more)).map fun (js, tail) => (j :: js, tail)
      | ']' :: tail => .ok ([j], tail)
      | _ => .error .malformed

/-- the fields of an object that is not empty, up to its closing brace -/
def members (digits : Option Nat) (budget depth : Nat) (seen : List (String × Json)) (cs : List Char) :
    Except Failure (List (String × Json) × List Char) :=
  match budget, cs with
  | budget + 1, '"' :: rest =>
    match readString? rest with
    | none => .error .malformed
    | some (key, rest) =>
      match skip rest with
      | ':' :: body =>
        match value digits budget depth (skip body) with
        | .error f => .error f
        | .ok (j, rest) =>
          let seen := Dictionary.put key j seen
          match skip rest with
          | ',' :: more => members digits budget depth seen (skip more)
          | '\x7d' :: tail => .ok (seen, tail)
          | _ => .error .malformed
      | _ => .error .malformed
  | _, _ => .error .malformed

end

/-- the value that the whole text writes, as far as the limits allow -/
def readWithin (limits : Limits) (cs : List Char) : Except Failure Json :=
  match value limits.digits (2 * cs.length + 2) limits.depth (skip cs) with
  | .ok (j, rest) => if (skip rest).isEmpty then .ok j else .error .malformed
  | .error f => .error f

/-- the value that the whole text writes, without limits: there are no more brackets than characters -/
def read? (cs : List Char) : Option Json := (readWithin { depth := cs.length } cs).toOption

end MacroFusion.Json
