import MacroFusion.Fault
import MacroFusion.Listing.Line
import MacroFusion.Text.Lines

/-!
# Listings

A listing is read line by line.  A header opens a function, an instruction line belongs to the
function opened last, and any other line is skipped without closing the function.  Instructions
before the first header are collected under a function of their own, and the listing is then marked
as one of low confidence.
-/

namespace MacroFusion

/-- a listing after reading -/
structure Listing where
  functions : List Function
  /-- some instructions came before any header -/
  lowConfidence : Bool := false
  warnings : List String := []
  linesRead : Nat := 0
  skippedLines : Nat := 0
  deriving DecidableEq, Repr

namespace Listing

def unnamed : String := "unnamed"

def instructionCount (l : Listing) : Nat := (l.functions.flatMap (·.instructions)).length

def functionNames (l : Listing) : List String := l.functions.map (·.name)

/-- the warning about an orphan instruction, by the number of its line -/
def orphanWarning (lineNumber : Nat) : Diagnostic :=
  { kind := .unresolvedFunction
    message := "Instruction at line " ++ toString lineNumber
      ++ " appears before any function header; collecting under '" ++ unnamed ++ "'"
    suggestion := some "Per-function rollups may be unreliable for this input." }

/-- what was made of the lines so far; functions and instructions stand with the latest first -/
structure Reading where
  closed : List Function := []
  /-- the function that is open, by its name and its instructions -/
  current : Option (String × List Instruction) := none
  lowConfidence : Bool := false
  warnings : List String := []
  linesRead : Nat := 0
  skippedLines : Nat := 0

namespace Reading

/-- the functions so far, with the one that is open -/
def functions (r : Reading) : List Function :=
  match r.current with
  | some (name, instructions) => { name, instructions := instructions.reverse } :: r.closed
  | none => r.closed

/-- takes in a line -/
def step (r : Reading) (line : Line) : Reading :=
  let r := { r with linesRead := r.linesRead + 1 }
  match line with
  | .header name => { r with closed := r.functions, current := some (name, []) }
  | .noise => { r with skippedLines := r.skippedLines + 1 }
  | .instruction i =>
    match r.current with
    | some (name, instructions) => { r with current := some (name, i :: instructions) }
    | none =>
      { r with
        current := some (unnamed, [i])
        lowConfidence := true
        warnings := r.warnings ++ [(orphanWarning r.linesRead).message] }

def listing (r : Reading) : Listing :=
  { functions := r.functions.reverse
    lowConfidence := r.lowConfidence
    warnings := r.warnings
    linesRead := r.linesRead
    skippedLines := r.skippedLines }

end Reading

/-- the listing that classified lines make up -/
def ofLines (lines : List Line) : Listing := (lines.foldl Reading.step {}).listing

/-- reads a text; a text without an instruction line is refused -/
def read (text : String) : Except Fault Listing :=
  let listing := ofLines ((Text.lines text.toList).map Line.read)
  if listing.instructionCount = 0 then .error (.noInstructionLines listing.linesRead)
  else .ok listing

end Listing

end MacroFusion
