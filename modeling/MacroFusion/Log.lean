import MacroFusion.Diagnostic.Basic

/-!
# Log entries

What the program notes down while it works: a level, the part of the program that speaks, and a
message.
-/

namespace MacroFusion

namespace Log

inductive Level where
  | debug | info | warning | error | critical
  deriving DecidableEq, Repr

/-- the higher, the more urgent -/
def Level.rank : Level → Nat
  | .debug => 10
  | .info => 20
  | .warning => 30
  | .error => 40
  | .critical => 50

def Level.label : Level → String
  | .debug => "DEBUG"
  | .info => "INFO"
  | .warning => "WARNING"
  | .error => "ERROR"
  | .critical => "CRITICAL"

def Level.ofSeverity : Severity → Level
  | .critical => .critical
  | .error => .error
  | .warning => .warning
  | .info => .info

/-- the parts of the program that speak -/
inductive Source where
  | main | parser | analyzer | pipeline | disassembler | plugins
  deriving DecidableEq, Repr

def Source.label : Source → String
  | .main => "fusioncheck"
  | .parser => "fusioncheck.parser"
  | .analyzer => "fusioncheck.analyzer"
  | .pipeline => "fusioncheck.pipeline"
  | .disassembler => "fusioncheck.disassembler"
  | .plugins => "fusioncheck.plugins.plugin_manager"

structure Entry where
  level : Level
  source : Source
  message : String
  deriving DecidableEq, Repr

end Log

/-- entries in the order in which they were made -/
abbrev Log := List Log.Entry

end MacroFusion
