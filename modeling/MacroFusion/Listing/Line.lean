import MacroFusion.Instruction
import MacroFusion.Text.Upper
import MacroFusion.Text.Word

/-!
# Lines of a listing

Three disassemblers print three dialects.  A line opens a function,

    0000000100003f40 <_main>:        0000000100003f40 [_main]:        _main:

or holds an instruction, with a colon and maybe a column of machine code, or unindented without one,

      400544:  d10083ff  sub  sp, sp, #0x20
    100003f44: ff 83 00 d1   sub  sp, sp, #0x20
    0000000100003f44  sub  sp, sp, #0x20

or is neither.  In every form each part ends where its class of characters ends, so nothing has to
be tried twice, with one exception: eight hexadecimal digits may be machine code or a mnemonic.  They
are code where a mnemonic follows.
-/

namespace MacroFusion

open Text

namespace Line

def isHex (c : Char) : Bool := c.isDigit || ('a' ≤ c && c ≤ 'f') || ('A' ≤ c && c ≤ 'F')

def isMnemonicChar (c : Char) : Bool := isWord c || c == '.'

/-! ## Headers -/

/-- the name between an opening and a closing bracket with a colon after it, not empty and on one
line -/
def bracketed? (opening closing : Char) : List Char → Option (List Char)
  | [] => none
  | c :: rest =>
    if c ≠ opening then none
    else match rest.reverse with
      | ':' :: d :: name =>
        if d = closing && !name.isEmpty && !name.contains '\n' then some name.reverse else none
      | _ => none

/-- an address, blanks, and a name in brackets -/
def symbolName? (cs : List Char) : Option (List Char) :=
  let body := trimEnd cs
  let rest := body.dropWhile isHex
  if (body.takeWhile isHex).isEmpty || (rest.takeWhile isBlank).isEmpty then none
  else
    let name := rest.dropWhile isBlank
    (bracketed? '<' '>' name).or (bracketed? '[' ']' name)

/-- a name without blanks and colons, and a colon -/
def labelName? (cs : List Char) : Option (List Char) :=
  let body := trimEnd cs
  let label := body.takeWhile fun c => !isBlank c && c != ':'
  if !label.isEmpty && body.dropWhile (fun c => !isBlank c && c != ':') == [':'] then some label
  else none

/-- the name of the function that the line opens -/
def headerName? (cs : List Char) : Option (List Char) := (symbolName? cs).or (labelName? cs)

/-! ## Instructions -/

/-- the parts of an instruction line -/
structure Fields where
  address : List Char
  mnemonic : List Char
  operands : List Char
  deriving DecidableEq, Repr

/-- drops the blanks at the head, of which there has to be one -/
def dropBlanks? : List Char → Option (List Char)
  | c :: cs => if isBlank c then some (cs.dropWhile isBlank) else none
  | [] => none

/-- drops just `n` hexadecimal digits -/
def dropHex? : Nat → List Char → Option (List Char)
  | 0, cs => some cs
  | n + 1, c :: cs => if isHex c then dropHex? n cs else none
  | _ + 1, [] => none

def dropChar? (d : Char) : List Char → Option (List Char)
  | c :: cs => if c = d then some cs else none
  | [] => none

/-- drops machine code written as one word of eight digits -/
def dropCodeWord? (cs : List Char) : Option (List Char) := dropHex? 8 cs

/-- drops machine code written as four bytes with single spaces between them -/
def dropCodeBytes? (cs : List Char) : Option (List Char) := do
  let cs ← dropHex? 2 cs
  let cs ← dropChar? ' ' cs >>= dropHex? 2
  let cs ← dropChar? ' ' cs >>= dropHex? 2
  dropChar? ' ' cs >>= dropHex? 2

/-- drops machine code and the blanks after it -/
def dropCode? (cs : List Char) : Option (List Char) :=
  ((dropCodeWord? cs).or (dropCodeBytes? cs)).bind dropBlanks?

/-- a mnemonic and its operands, which are all on one line -/
def operation? (address : List Char) (cs : List Char) : Option Fields :=
  match cs with
  | [] => none
  | c :: _ =>
    if !c.isAlpha then none
    else
      let operands := (cs.dropWhile isMnemonicChar).dropWhile isBlank
      if operands.dropLast.contains '\n' then none
      else some ⟨address, cs.takeWhile isMnemonicChar, operands⟩

/-- the form with a colon after the address -/
def colonFields? (cs : List Char) : Option Fields :=
  let unindented := cs.dropWhile isBlank
  let digits := match unindented with
    | '0' :: 'x' :: rest => rest
    | _ => unindented
  let address := digits.takeWhile isHex
  if address.isEmpty then none
  else (dropChar? ':' (digits.dropWhile isHex)).bind fun rest =>
    (dropBlanks? rest).bind fun body =>
      ((dropCode? body).bind (operation? address)).or (operation? address body)

/-- the unindented form without a colon, whose address has eight to sixteen digits -/
def bareFields? (cs : List Char) : Option Fields :=
  let address := cs.takeWhile isHex
  if address.length < 8 || 16 < address.length then none
  else (dropBlanks? (cs.dropWhile isHex)).bind (operation? address)

def fields? (cs : List Char) : Option Fields := (colonFields? cs).or (bareFields? cs)

/-- the instruction on a line: the address in lower case, the mnemonic in capitals -/
def instruction? (cs : List Char) : Option Instruction :=
  (fields? cs).map fun f =>
    { address := String.ofList (f.address.map Char.toLower)
      mnemonic := String.ofList (upper f.mnemonic)
      operands := String.ofList (trim f.operands)
      raw := String.ofList (trim cs) }

end Line

/-- what a line of a listing is -/
inductive Line where
  | header (name : String)
  | instruction (i : Instruction)
  | noise
  deriving DecidableEq, Repr

namespace Line

def read (cs : List Char) : Line :=
  match headerName? cs with
  | some name => .header (String.ofList name)
  | none =>
    match instruction? cs with
    | some i => .instruction i
    | none => .noise

def isInstruction : Line → Bool
  | .instruction _ => true
  | _ => false

def isNoise : Line → Bool
  | .noise => true
  | _ => false

end Line

end MacroFusion
