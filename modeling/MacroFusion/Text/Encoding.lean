import MacroFusion.Text.Halves

/-!
# Encodings of JSON

A JSON text starts with an ASCII character, so its first bytes tell how it is encoded: by a mark of
the byte order, or by where the zero bytes stand.

In every encoding the halves of a character may be written as if they were characters.  Only where pairs
of halves are the way to write a character does a text come of them; `isWholeText` tells that there are no
others.
-/

namespace MacroFusion.Text

inductive Encoding where
  | utf8
  | utf16 (bigEndian : Bool)
  | utf32 (bigEndian : Bool)
  deriving DecidableEq, Repr

namespace Encoding

/-- the marks of the byte order; of two that fit the first one counts -/
def marks : List (List UInt8 × Encoding) :=
  [([0x00, 0x00, 0xfe, 0xff], .utf32 true), ([0xff, 0xfe, 0x00, 0x00], .utf32 false),
    ([0xfe, 0xff], .utf16 true), ([0xff, 0xfe], .utf16 false), ([0xef, 0xbb, 0xbf], .utf8)]

/-- the encoding of bytes without a mark -/
def unmarked : List UInt8 → Encoding
  | a :: b :: c :: d :: _ =>
    if a = 0 then if b = 0 then .utf32 true else .utf16 true
    else if b = 0 then if c = 0 && d = 0 then .utf32 false else .utf16 false
    else .utf8
  | [a, b] => if a = 0 then .utf16 true else if b = 0 then .utf16 false else .utf8
  | _ => .utf8

/-- the encoding of some bytes, and the bytes after the mark -/
def detect (bytes : List UInt8) : Encoding × List UInt8 :=
  match marks.find? (·.1.isPrefixOf bytes) with
  | some (mark, encoding) => (encoding, bytes.drop mark.length)
  | none => (unmarked bytes, bytes)

end Encoding

/-- numbers of two bytes each -/
def units16 (bigEndian : Bool) : List UInt8 → Option (List Nat)
  | [] => some []
  | [_] => none
  | a :: b :: rest =>
    (units16 bigEndian rest).map fun us =>
      (if bigEndian then a.toNat * 256 + b.toNat else b.toNat * 256 + a.toNat) :: us

/-- numbers of four bytes each, as far as they can be code points -/
def units32 (bigEndian : Bool) : List UInt8 → Option (List Nat)
  | [] => some []
  | a :: b :: c :: d :: rest =>
    let big := ((a.toNat * 256 + b.toNat) * 256 + c.toNat) * 256 + d.toNat
    let little := ((d.toNat * 256 + c.toNat) * 256 + b.toNat) * 256 + a.toNat
    let code := if bigEndian then big else little
    if 0x10ffff < code then none else (units32 bigEndian rest).map (code :: ·)
  | _ => none

/-- the code points of pieces of UTF-8, with halves among them -/
def codePoints? : List Piece → Option (List Nat)
  | [] => some []
  | .char c :: rest => (codePoints? rest).map (c.toNat :: ·)
  | .broken [0xed] :: .broken [a] :: .broken [b] :: rest =>
    if 0xa0 ≤ a && a ≤ 0xbf && 0x80 ≤ b && b ≤ 0xbf then
      (codePoints? rest).map ((0xd000 + a.toNat % 0x40 * 0x40 + b.toNat % 0x40) :: ·)
    else none
  | .broken _ :: _ => none

/-- the numbers of some bytes in an encoding -/
def unitsIn? : Encoding → List UInt8 → Option (List Nat)
  | .utf8, bytes => codePoints? (pieces bytes)
  | .utf16 bigEndian, bytes => units16 bigEndian bytes
  | .utf32 bigEndian, bytes => units32 bigEndian bytes

/-- the text of some bytes in the encoding that they are in -/
def decodeDetected? (bytes : List UInt8) : Option (List Char) :=
  let (encoding, rest) := Encoding.detect bytes
  (unitsIn? encoding rest).map joinHalves

/-- whether the numbers of a text in some encoding have no half among them, but for the usual pairs -/
def Encoding.isWhole : Encoding → List Nat → Bool
  | .utf16 _, ns => isPaired ns
  | .utf8, ns | .utf32 _, ns => ns.all fun n => !isHalf n

/-- whether no half is written as if it were a character, as far as the bytes can be read -/
def isWholeText (bytes : List UInt8) : Bool :=
  let (encoding, rest) := Encoding.detect bytes
  (unitsIn? encoding rest).all encoding.isWhole

end MacroFusion.Text
