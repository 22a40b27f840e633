/-!
# Floating-point numbers of 64 bits

The numbers of the IEEE format binary64, kept exactly: a sign and a mantissa times a power of two.
Every operation computes the exact rational result and rounds it once, to the nearest number of the
format and to an even mantissa in the middle (`ofRatio`).
-/

namespace MacroFusion

inductive Binary64 where
  /-- plus or minus `mantissa · 2^exponent` -/
  | finite (negative : Bool) (mantissa : Nat) (exponent : Int)
  | infinite (negative : Bool)
  | nan
  deriving DecidableEq, Repr

namespace Binary64

/-- `num / den` rounded to the nearest integer, to the even one in the middle -/
def roundDiv (num den : Nat) : Nat :=
  let q := num / den
  let r := num % den
  if 2 * r < den then q
  else if den < 2 * r then q + 1
  else if q % 2 = 0 then q
  else q + 1

/-- the numerator of `num · b^e` over the denominator that `scaleDen` gives -/
def scaleNum (b num : Nat) (e : Int) : Nat := num * b.pow e.toNat

def scaleDen (b den : Nat) (e : Int) : Nat := den * b.pow (-e).toNat

/-- the exponent of the greatest power of two that is at most `num / den`, both positive -/
def binaryExponent (num den : Nat) : Int :=
  let e : Int := (num.log2 : Int) - (den.log2 : Int)
  if scaleNum 2 den e ≤ scaleDen 2 num e then e else e - 1

/-- the exponent of the last place of a number with the given leading exponent -/
def lastPlace (leading : Int) : Int := max (leading - 52) (-1074)

/-- the number nearest to `num / den`, with the given sign -/
def ofRatio (negative : Bool) (num den : Nat) : Binary64 :=
  if num = 0 then .finite negative 0 (-1074)
  else
    let place := lastPlace (binaryExponent num den)
    let mantissa := roundDiv (scaleNum 2 num (-place)) (scaleDen 2 den (-place))
    let (mantissa, place) :=
      if mantissa = Nat.pow 2 53 then (Nat.pow 2 52, place + 1) else (mantissa, place)
    if 971 < place then .infinite negative else .finite negative mantissa place

def ofInt (n : Int) : Binary64 := ofRatio (n < 0) n.natAbs 1

/-- the number nearest to a decimal `digits · 10^exponent` -/
def ofDecimal (negative : Bool) (digits : Nat) (exponent : Int) : Binary64 :=
  ofRatio negative (scaleNum 10 digits exponent) (scaleDen 10 1 exponent)

def zero : Binary64 := .finite false 0 (-1074)

/-- a natural number, which the format has to hold exactly, times a number -/
def natMul (k : Nat) : Binary64 → Binary64
  | .finite negative m e => ofRatio negative (scaleNum 2 (k * m) e) (scaleDen 2 1 e)
  | x => x

/-- a quotient by a finite number other than zero -/
def div : Binary64 → Binary64 → Binary64
  | .finite a m e, .finite b n f =>
    if n = 0 then .nan
    else ofRatio (a != b) (scaleNum 2 m (e - f)) (scaleDen 2 n (e - f))
  | .infinite a, .finite b _ _ => .infinite (a != b)
  | .finite a _ _, .infinite b => .finite (a != b) 0 (-1074)
  | _, _ => .nan

/-- rounded to the given number of decimal places -/
def roundTo (places : Nat) : Binary64 → Binary64
  | .finite negative m e =>
    ofRatio negative (roundDiv (scaleNum 2 m e * Nat.pow 10 places) (scaleDen 2 1 e)) (Nat.pow 10 places)
  | x => x

def isZero : Binary64 → Bool
  | .finite _ m _ => m == 0
  | _ => false

def isFinite : Binary64 → Bool
  | .finite _ _ _ => true
  | _ => false

end Binary64

end MacroFusion
