import MacroFusion.Fault
import MacroFusion.Log
import MacroFusion.Text.Search

/-!
# Disassemblers

A binary is handed to an external tool, whose output is the listing.  Which tools there are and what
becomes of the call is up to the machine (`Machine`).
-/

namespace MacroFusion

/-- what becomes of a tool that is called -/
inductive Outcome where
  | timeout
  /-- the tool cannot be started -/
  | notStarted (reason : String)
  | finished (exitCode : Int) (output errors : String)
  deriving DecidableEq, Repr

/-- the tools that can be found, and what becomes of the one that is called -/
structure Machine where
  tools : List String := []
  outcome : Outcome := .finished 0 "" ""
  deriving DecidableEq, Repr

/-- a call of a tool -/
structure Call where
  command : List String
  timeout : Int
  deriving DecidableEq, Repr

namespace Disassembler

def defaultTimeout : Int := 120

/-- the first candidate that can be found -/
def find? (m : Machine) (candidates : List String) : Option String :=
  candidates.find? m.tools.contains

/-- the command line for a tool; only some tools can be asked for one function -/
def command (tool binary : String) (function : Option String) : List String :=
  if Text.endsIn tool "otool" then [tool, "-tvV", binary]
  else match function with
    | some name =>
      if name.isEmpty then [tool, "-d", binary]
      else [tool, "-d", "--disassemble-symbols=" ++ name, binary]
    | none => [tool, "-d", binary]

/-- the tool to call: the one asked for, else the first one that can be found -/
def choose? (m : Machine) (tool : Option String) : Option String :=
  match tool with
  | some name => if name.isEmpty then find? m Fault.disassemblers else some name
  | none => find? m Fault.disassemblers

/-- a call with its notes and its result -/
structure Attempt where
  calls : List Call
  log : Log
  result : Except Fault String

def result (tool binary : String) (call : Call) : Outcome → Except Fault String
  | .timeout => .error (.disassemblyTimeout tool binary call.command call.timeout)
  | .notStarted reason => .error (.toolNotStarted tool binary reason)
  | .finished exitCode output errors =>
    if exitCode = 0 then .ok output else .error (.disassemblyFailed tool binary exitCode errors)

/-- calls a tool on a binary -/
def run (m : Machine) (binary : String) (function tool : Option String) (timeout : Int) : Attempt :=
  match choose? m tool with
  | none => { calls := [], log := [], result := .error (.noDisassembler binary) }
  | some tool =>
    let call : Call := { command := command tool binary function, timeout }
    { calls := [call]
      log := [⟨.info, .disassembler, "Disassembling with: " ++ " ".intercalate call.command⟩]
      result := result tool binary call m.outcome }

end Disassembler

end MacroFusion
