import MacroFusion.Catalog.Basic
import MacroFusion.Dictionary
import MacroFusion.Finding
import MacroFusion.Pool

/-!
# Analysis

Each function is scanned on its own, from left to right.  At every instruction that has a successor,
every rule that the two satisfy fires, there is no single winner, and every missed opportunity that
its detector sees is recorded.  The fused pairs are counted by category beside the records.  The last
instruction of a function has no successor and is never a finding.
-/

namespace MacroFusion

/-- the rules that fire at `a`, directly followed by `b` -/
def Catalog.matchesAt (c : Catalog) (function : String) (a b : Instruction) : List Match :=
  (c.rules.filter (·.fuses a b)).map fun r =>
    { function, address := a.address, rule := r.name, category := r.category
      pairText := a.raw ++ "  →  " ++ b.raw }

/-- the opportunities that are missed at `a`, the head of the window -/
def Catalog.missesAt (c : Catalog) (function : String) (a : Instruction)
    (window : List Instruction) : List Miss :=
  (c.missed.filter (·.detector.detects window)).map fun p =>
    { function, address := a.address, pattern := p.name, instructionText := a.raw, fix := p.fix }

/-- what a scan has recorded so far, the latest first, and what it has counted beside that -/
structure Scan where
  fused : List Match := []
  missed : List Miss := []
  universal : Nat := 0
  specific : Nat := 0

namespace Scan

/-- records a fused pair and counts it in its category -/
def fuse (s : Scan) (m : Match) : Scan :=
  match m.category with
  | .universal => { s with fused := m :: s.fused, universal := s.universal + 1 }
  | .implementationSpecific => { s with fused := m :: s.fused, specific := s.specific + 1 }

/-- records a missed opportunity -/
def miss (s : Scan) (m : Miss) : Scan := { s with missed := m :: s.missed }

end Scan

/-- one step of a scan, at `a`, the head of the window, which `b` follows -/
def Catalog.scanAt (c : Catalog) (function : String) (s : Scan) (a b : Instruction)
    (window : List Instruction) : Scan :=
  (c.missesAt function a window).foldl Scan.miss ((c.matchesAt function a b).foldl Scan.fuse s)

/-- goes on with a scan at the instructions that are left -/
def Catalog.scanFrom (c : Catalog) (function : String) (s : Scan) : List Instruction → Scan
  | a :: b :: rest =>
    scanFrom c function (c.scanAt function s a b ((a :: b :: rest).take Detector.reach)) (b :: rest)
  | _ => s

/-- what the scan of one function finds -/
structure Findings where
  fused : List Match
  missed : List Miss
  tally : Tally
  deriving Repr

def Catalog.scan (c : Catalog) (f : Function) : Findings :=
  let s := c.scanFrom f.name {} f.instructions
  { fused := s.fused.reverse
    missed := s.missed.reverse
    tally :=
      { name := f.name
        instructionCount := f.instructions.length
        universal := s.universal
        implementationSpecific := s.specific
        missed := s.missed.length } }

/-- the findings of a whole listing, in its order -/
structure Analysis where
  catalog : String
  totalInstructions : Int
  fused : List Match := []
  missed : List Miss := []
  perFunction : List Tally := []
  lowConfidence : Bool := false
  warnings : List String := []
  deriving Repr

namespace Analysis

/-- the functions whose name contains the filter; all of them if there is no filter, or an empty one -/
def select (filter : Option String) (functions : List Function) : List Function :=
  match filter with
  | none => functions
  | some text => if text.isEmpty then functions
    else functions.filter fun f => Text.isPartOf text f.name

/-- the findings of all functions put together -/
def ofFindings (c : Catalog) (findings : List Findings) (lowConfidence : Bool)
    (warnings : List String) : Analysis :=
  { catalog := c.name
    totalInstructions := findings.foldr (fun f n => f.tally.instructionCount + n) 0
    fused := findings.flatMap (·.fused)
    missed := findings.flatMap (·.missed)
    perFunction := findings.map (·.tally)
    lowConfidence, warnings }

/-- the scans of some functions: one after the other, or in a pool if there are workers and work for
several; `finished` lists the positions of the tasks of the pool in the order in which they finish -/
def scanFinishing (c : Catalog) (workers : Nat) (finished : List Nat) (functions : List Function) :
    List Findings :=
  if 1 < workers && 1 < functions.length then Pool.map finished c.scan functions
  else functions.map c.scan

/-- the scans of some functions, where a pool finishes its tasks in the order of the functions -/
def scanAll (c : Catalog) (workers : Nat) (functions : List Function) : List Findings :=
  scanFinishing c workers (List.range functions.length) functions

/-- scans the functions that the filter selects; a pool finishes its tasks in the given order -/
def runFinishing (c : Catalog) (workers : Nat) (finished : List Nat) (functions : List Function)
    (filter : Option String) (lowConfidence : Bool) (warnings : List String) : Analysis :=
  ofFindings c (scanFinishing c workers finished (select filter functions)) lowConfidence warnings

/-- scans the functions that the filter selects -/
def run (c : Catalog) (workers : Nat) (functions : List Function) (filter : Option String)
    (lowConfidence : Bool) (warnings : List String) : Analysis :=
  ofFindings c (scanAll c workers (select filter functions)) lowConfidence warnings

def universalMatches (a : Analysis) : List Match := a.fused.filter (·.category = .universal)

def specificMatches (a : Analysis) : List Match :=
  a.fused.filter (·.category = .implementationSpecific)

/-- adds the counts of a function to those of its name -/
def merge (d : Dictionary Tally) (t : Tally) : Dictionary Tally :=
  match d.lookup t.name with
  | some seen => d.put t.name { seen.add t with name := t.name }
  | none => d.put t.name t

/-- the counts by name, with those of repeated names put together -/
def byFunction (a : Analysis) : Dictionary Tally := a.perFunction.foldl merge []

def toJson (a : Analysis) : Json :=
  .object [("catalog", .string a.catalog), ("total_instructions", .integer a.totalInstructions),
    ("matches", .array (a.fused.map Match.toJson)),
    ("misses", .array (a.missed.map Miss.toJson)),
    ("per_function", .array (a.perFunction.map Tally.toJson)),
    ("low_confidence", .bool a.lowConfidence),
    ("warnings", .array (a.warnings.map .string))]

end Analysis

end MacroFusion
