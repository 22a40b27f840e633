import MacroFusion.Binary64.Basic

/-!
# Floating-point numbers as text

`Binary64.text` writes the fewest digits that read back as the same number and, of those, the digits
nearest to it.  To find them, each count of digits from one on is tried with the two neighbours of the
number that have so many digits.

Numbers whose leading digit stands at the place `10^-4` to `10^15` are written positionally, with at
least one place after the point; the others with an exponent of at least two digits.

`Binary64.fixed` writes a fixed number of places.
-/

namespace MacroFusion.Binary64

/-- the number of decimal digits of a positive number -/
def digitCount (n : Nat) : Nat := (Nat.toDigits 10 n).length

/-- the exponent of the greatest power of ten that is at most `num / den`, both positive -/
def decimalExponent (num den : Nat) : Int :=
  let e : Int := (digitCount num : Int) - (digitCount den : Int)
  if scaleNum 10 den e ≤ scaleDen 10 num e then e else e - 1

/-- a decimal: `digits · 10^exponent` -/
structure Decimal where
  digits : Nat
  exponent : Int
  deriving DecidableEq, Repr

/-- the neighbours of `num / den` on the grid of the multiples of `10^place`, the nearer one first and
the even one where both are as near -/
def neighbours (num den : Nat) (place : Int) : List Decimal :=
  let n := scaleNum 10 num (-place)
  let d := scaleDen 10 den (-place)
  let below := n / d
  let near := roundDiv n d
  [⟨near, place⟩, ⟨if near = below then below + 1 else below, place⟩]

/-- the shortest decimal that reads back as the positive number `mantissa · 2^exponent`, looked for
from `count` digits on -/
def shortest (mantissa : Nat) (exponent : Int) (leading : Int) (count : Nat) : Nat → Decimal
  | 0 => ⟨roundDiv (scaleNum 10 (scaleNum 2 mantissa exponent) (16 - leading))
      (scaleDen 10 (scaleDen 2 1 exponent) (16 - leading)), leading - 16⟩
  | budget + 1 =>
    let num := scaleNum 2 mantissa exponent
    let den := scaleDen 2 1 exponent
    let candidates := neighbours num den (leading - (count : Int) + 1)
    match candidates.find? fun d =>
        ofDecimal false d.digits d.exponent = .finite false mantissa exponent with
    | some d => d
    | none => shortest mantissa exponent leading (count + 1) budget

/-- without the zeros at the end -/
def dropZeros (digits : List Char) : List Char := (digits.reverse.dropWhile (· == '0')).reverse

/-- at least two digits, with a sign -/
def exponentText (e : Int) : List Char :=
  let digits := Nat.toDigits 10 e.natAbs
  (if e < 0 then '-' else '+') :: (if digits.length < 2 then '0' :: digits else digits)

/-- digits without zeros at the end, the first of them at the place `10^leading` -/
def layOut (digits : List Char) (leading : Int) : List Char :=
  if leading < -4 || 16 ≤ leading then
    (match digits with
      | [] => []
      | [d] => [d]
      | d :: more => d :: '.' :: more) ++ 'e' :: exponentText leading
  else if leading < 0 then
    '0' :: '.' :: List.replicate (-leading - 1).toNat '0' ++ digits
  else
    let whole := leading.toNat + 1
    let front := digits.take whole
    let back := digits.drop whole
    front ++ List.replicate (whole - front.length) '0' ++ '.' :: (if back.isEmpty then ['0'] else back)

/-- the fewest digits that read back -/
def text : Binary64 → String
  | .nan => "nan"
  | .infinite negative => if negative then "-inf" else "inf"
  | .finite negative m e =>
    let sign := if negative then ['-'] else []
    if m = 0 then String.ofList (sign ++ ['0', '.', '0'])
    else
      let leading := decimalExponent (scaleNum 2 m e) (scaleDen 2 1 e)
      let d := shortest m e leading 1 17
      let digits := Nat.toDigits 10 d.digits
      String.ofList (sign ++ layOut (dropZeros digits) (d.exponent + digits.length - 1))

/-- a natural number of hundredths, tenths, ... as text with so many places -/
def placesText (places n : Nat) : List Char :=
  let digits := Nat.toDigits 10 n
  let padded := List.replicate (places + 1 - digits.length) '0' ++ digits
  padded.take (padded.length - places) ++ '.' :: padded.drop (padded.length - places)

/-- a fixed number of places, of which there is at least one -/
def fixed (places : Nat) : Binary64 → String
  | .nan => "nan"
  | .infinite negative => if negative then "-inf" else "inf"
  | .finite negative m e =>
    let sign := if negative then ['-'] else []
    String.ofList (sign ++
      placesText places (roundDiv (scaleNum 2 m e * Nat.pow 10 places) (scaleDen 2 1 e)))

end MacroFusion.Binary64
