/-!
# Bytes as text

Decoding UTF-8.  Bytes fall into pieces: a character for each well-formed sequence, and a broken piece
for each maximal beginning of a sequence that is cut short and for every other byte.  A broken piece
becomes one replacement character, or makes decoding fail.
-/

namespace MacroFusion.Text

def replacement : Char := '\ufffd'

/-- the second bytes that may follow a first byte, and how many bytes follow it in all: nothing for a
byte that begins no sequence -/
def followers (b : Nat) : Option (Nat × Nat × Nat) :=
  if b < 0xc2 then none
  else if b < 0xe0 then some (0x80, 0xbf, 1)
  else if b = 0xe0 then some (0xa0, 0xbf, 2)
  else if b = 0xed then some (0x80, 0x9f, 2)
  else if b < 0xf0 then some (0x80, 0xbf, 2)
  else if b = 0xf0 then some (0x90, 0xbf, 3)
  else if b < 0xf4 then some (0x80, 0xbf, 3)
  else if b = 0xf4 then some (0x80, 0x8f, 3)
  else none

/-- the bits of a first byte that belong to the code point -/
def leadBits (b : Nat) : Nat :=
  if b < 0xe0 then b % 0x20 else if b < 0xf0 then b % 0x10 else b % 0x08

/-- a character, or bytes that are none -/
inductive Piece where
  | char (c : Char)
  | broken (bytes : List UInt8)
  deriving DecidableEq, Repr

/-- a sequence under way: its bytes and the code point so far, the bounds of the next byte, and the
number of bytes that are missing -/
structure Pending where
  bytes : List UInt8
  code : Nat
  low : Nat
  high : Nat
  missing : Nat

/-- cuts bytes into pieces, with a sequence under way -/
def piecesFrom (pending : Option Pending) : List UInt8 → List Piece
  | [] => match pending with
    | some p => [.broken p.bytes]
    | none => []
  | byte :: rest =>
    let b := byte.toNat
    let start : List Piece :=
      if b < 0x80 then .char (Char.ofNat b) :: piecesFrom none rest
      else match followers b with
        | some (low, high, missing) =>
          piecesFrom (some ⟨[byte], leadBits b, low, high, missing⟩) rest
        | none => .broken [byte] :: piecesFrom none rest
    match pending with
    | none => start
    | some p =>
      if p.low ≤ b && b ≤ p.high then
        let code := p.code * 0x40 + b % 0x40
        if p.missing ≤ 1 then .char (Char.ofNat code) :: piecesFrom none rest
        else piecesFrom (some ⟨p.bytes ++ [byte], code, 0x80, 0xbf, p.missing - 1⟩) rest
      else .broken p.bytes :: start

def pieces (bytes : List UInt8) : List Piece := piecesFrom none bytes

/-- the text of some bytes, with `mend` in place of those that are none -/
def decodeWith (mend : List UInt8 → List Char) (bytes : List UInt8) : List Char :=
  (pieces bytes).flatMap fun
    | .char c => [c]
    | .broken bs => mend bs

/-- the text of some bytes, whatever they are -/
def decode (bytes : List UInt8) : List Char := decodeWith (fun _ => [replacement]) bytes

/-- the bytes of a text -/
def encode (s : String) : List UInt8 := s.toUTF8.data.toList

end MacroFusion.Text
