/-!
# Diagnostics

What the program tells its user when something goes wrong: a kind, a message, how bad it is, where it
happened and what to do about it.  `Diagnostic.text` lays a diagnostic out for a terminal.
-/

namespace MacroFusion

inductive Severity where
  | critical | error | warning | info
  deriving DecidableEq, Repr

def Severity.label : Severity → String
  | .critical => "CRITICAL"
  | .error => "ERROR"
  | .warning => "WARNING"
  | .info => "INFO"

namespace Diagnostic

/-- the part of the program that a diagnostic is about -/
inductive Area where
  | input | parse | disassembly | plugin | configuration | internal
  deriving DecidableEq, Repr

def Area.label : Area → String
  | .input => "Input Error"
  | .parse => "Parse Error"
  | .disassembly => "Disassembly Error"
  | .plugin => "Plugin Error"
  | .configuration => "Configuration Error"
  | .internal => "Internal Error"

inductive Kind where
  | general | input | noInstructions | unresolvedFunction | disassembly | plugin | configuration
  deriving DecidableEq, Repr

/-- the name under which a kind is reported -/
def Kind.label : Kind → String
  | .general => "FusionCheckError"
  | .input => "InputError"
  | .noInstructions => "NoInstructionsFound"
  | .unresolvedFunction => "UnresolvedFunctionContext"
  | .disassembly => "DisassemblyError"
  | .plugin => "PluginError"
  | .configuration => "ConfigurationError"

def Kind.area : Kind → Area
  | .general => .internal
  | .input => .input
  | .noInstructions => .input
  | .unresolvedFunction => .parse
  | .disassembly => .disassembly
  | .plugin => .plugin
  | .configuration => .configuration

/-- orphan instructions can be analyzed all the same -/
def Kind.severity : Kind → Severity
  | .unresolvedFunction => .warning
  | _ => .error

def Kind.suggestion? : Kind → Option String
  | .noInstructions =>
    some ("Check that the disassembler ran successfully and produced " ++
      "objdump, llvm-objdump or otool style output.")
  | _ => none

/-- where it happened; an empty text counts as nothing, except for the address -/
structure Context where
  file : Option String := none
  function : Option String := none
  lineNumber : Option Int := none
  binary : Option String := none
  address : Option String := none
  details : List (String × String) := []
  deriving DecidableEq, Repr

/-- a failure outside the program that a diagnostic reports on -/
structure Origin where
  kind : String
  text : String
  deriving DecidableEq, Repr

end Diagnostic

structure Diagnostic where
  kind : Diagnostic.Kind
  message : String
  area : Diagnostic.Area := kind.area
  severity : Severity := kind.severity
  context : Diagnostic.Context := {}
  suggestion : Option String := kind.suggestion?
  origin : Option Diagnostic.Origin := none
  deriving DecidableEq, Repr

namespace Diagnostic

def rule : String := String.ofList (List.replicate 70 '=')

/-- a line for a text that is there and not empty -/
def fieldLine (label : String) : Option String → List String
  | some value => if value.isEmpty then [] else [label ++ ": " ++ value]
  | none => []

def Context.lines (c : Context) : List String :=
  fieldLine "File" c.file
    ++ fieldLine "Function" c.function
    ++ (match c.lineNumber with
      | some n => if n = 0 then [] else ["Line: " ++ toString n]
      | none => [])
    ++ fieldLine "Binary" c.binary
    ++ (match c.address with
      | some address => ["Address: " ++ address]
      | none => [])
    ++ (if c.details.isEmpty then []
      else "\nAdditional Information:" :: c.details.map fun (key, value) => "  " ++ key ++ ": " ++ value)

def Origin.lines (o : Origin) : List String :=
  ["\nOriginal Exception: " ++ o.kind, "  " ++ o.text]

/-- the diagnostic between two rules, with an empty line before and after -/
def text (d : Diagnostic) : String :=
  "\n".intercalate (
    ["\n" ++ rule, d.severity.label ++ ": " ++ d.area.label, rule, "\nMessage: " ++ d.message]
      ++ d.context.lines
      ++ (fieldLine "\nSuggestion" d.suggestion)
      ++ (match d.origin with
        | some origin => origin.lines
        | none => [])
      ++ [rule ++ "\n"])

end Diagnostic

end MacroFusion
