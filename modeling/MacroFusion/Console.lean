import MacroFusion.Log

/-!
# Logging to the console

Log entries pass a logger, which drops those below its threshold and hands the rest to its sinks.  A
reporter equips the logger with one console sink, in place of any console sink before it, and reports
diagnostics through it.  One reporter is shared by the whole program: it is made when it is first
asked for, and later requests get the same one.
-/

namespace MacroFusion

/-- where entries go -/
inductive Sink where
  /-- the error stream, from a threshold on -/
  | console (threshold : Log.Level)
  /-- a sink of someone else's -/
  | other (tag : Nat)
  deriving DecidableEq, Repr

structure Logger where
  /-- without one, warnings and what is more urgent pass -/
  threshold : Option Log.Level := none
  sinks : List Sink := []
  deriving DecidableEq, Repr

/-- an entry as a line, with the time in front -/
def Log.Entry.line (e : Log.Entry) (time : String) : String :=
  time ++ " - " ++ e.source.label ++ " - " ++ e.level.label ++ " - " ++ e.message ++ "\n"

def Sink.isConsole : Sink → Bool
  | .console _ => true
  | .other _ => false

/-- what a sink writes to the error stream -/
def Sink.write (time : String) (e : Log.Entry) : Sink → String
  | .console threshold => if threshold.rank ≤ e.level.rank then e.line time else ""
  | .other _ => ""

namespace Logger

def passes (l : Logger) (e : Log.Entry) : Bool := (l.threshold.getD .warning).rank ≤ e.level.rank

/-- what an entry leaves on the error stream; without any sink, the bare message of an urgent one -/
def write (l : Logger) (time : String) (e : Log.Entry) : String :=
  if !l.passes e then ""
  else if l.sinks.isEmpty then
    (if Log.Level.warning.rank ≤ e.level.rank then e.message ++ "\n" else "")
  else String.join (l.sinks.map (·.write time e))

def writeAll (l : Logger) (time : String) (log : Log) : String :=
  String.join (log.map (l.write time))

/-- the threshold of a reporter -/
def level (debug : Bool) : Log.Level := if debug then .debug else .info

/-- one console sink, after the sinks of others -/
def equip (l : Logger) (debug : Bool) : Logger :=
  { threshold := some (level debug)
    sinks := l.sinks.filter (!·.isConsole) ++ [.console (level debug)] }

end Logger

/-- reports diagnostics -/
structure Reporter where
  debug : Bool
  /-- how many were made before it -/
  number : Nat
  deriving DecidableEq, Repr

/-- the logger, and the shared reporter once there is one -/
structure Reporting where
  logger : Logger := {}
  shared : Option Reporter := none
  /-- how many reporters were made -/
  made : Nat := 0
  deriving DecidableEq, Repr

namespace Reporting

/-- a new reporter, which equips the logger -/
def create (r : Reporting) (debug : Bool) : Reporter × Reporting :=
  (⟨debug, r.made⟩, { r with logger := r.logger.equip debug, made := r.made + 1 })

/-- the shared reporter; it is made on the first request -/
def obtain (r : Reporting) (debug : Bool) : Reporter × Reporting :=
  match r.shared with
  | some reporter => (reporter, r)
  | none =>
    let (reporter, r) := r.create debug
    (reporter, { r with shared := some reporter })

end Reporting

/-- the diagnostic of a failure outside the program -/
def Diagnostic.ofOrigin (origin : Origin) (context : Context) : Diagnostic :=
  { kind := .general, message := origin.text, context, origin := some origin }

namespace Reporter

/-- the entry that reports a diagnostic -/
def entry (d : Diagnostic) : Log.Entry := ⟨.ofSeverity d.severity, .main, d.text⟩

/-- what follows a reported diagnostic in debug mode -/
def traceback : String := "<traceback>\n"

/-- what a reported diagnostic leaves on the error stream -/
def report (r : Reporter) (l : Logger) (time : String) (d : Diagnostic) : String :=
  l.write time (entry d) ++ if r.debug then traceback else ""

end Reporter

end MacroFusion
