import MacroFusion.CommandLine.Arguments
import MacroFusion.Console
import MacroFusion.Disassembler
import MacroFusion.Files.Source
import MacroFusion.Plugin.Shelf
import MacroFusion.Report.Basic
import MacroFusion.Run

/-!
# Sessions

A session is what outlives one use of the command line: the files, the registry, the shared reporter
and the servers that were started.  `Session.run` takes a command line to its transcript: the exit code
and what went to the two output streams.  The time in front of log lines is an argument.

A run loads the plugins it is told to, and then lists the rules, or starts the server, or makes one
report.  A report is delivered whole or not at all: the output stream and the output file are left alone
until it is there.
-/

namespace MacroFusion

structure Session where
  files : FileSystem
  registry : Registry := .fresh
  /-- the serial number that comes next -/
  next : Nat
  reporting : Reporting := {}
  /-- hosts and ports that were served -/
  served : List (String × Int) := []

/-- what stands at standard input -/
inductive StandardInput where
  | terminal
  | text (content : String)
  /-- reading is cancelled by the user -/
  | interrupted
  deriving DecidableEq, Repr

structure Invocation where
  arguments : List String
  input : StandardInput := .terminal
  machine : Machine := {}

/-- how a run ends -/
inductive Exit where
  | code (n : Nat)
  /-- a fault without a diagnostic, which nobody catches -/
  | uncaught (f : Fault)
  deriving DecidableEq, Repr

structure Transcript where
  exit : Exit
  output : String := ""
  errors : String := ""
  calls : List Call := []

namespace Session

/-- why a run has no result -/
inductive Stop where
  | fault (f : Fault)
  | nothingToRead
  | interrupted
  | notWritten (path : String)
  deriving DecidableEq, Repr

/-- an option that is given and not empty -/
def filled (option : Option String) : Option String :=
  match option with
  | some text => if text.isEmpty then none else some text
  | none => none

/-! ## Results of the parts of a run -/

/-- a part of a run: what it wrote to the error stream, the tools it called, and its result -/
structure Part (α : Type) where
  errors : String := ""
  calls : List Call := []
  result : Except Stop α

/-- loads the plugins of a directory, if one is given -/
def loadPlugins (s : Session) (time : String) (directory : Option String) : Part Unit × Session :=
  match filled directory with
  | none => ({ result := .ok () }, s)
  | some directory =>
    let workshop : Workshop := { shelf := { directory }, registry := s.registry, next := s.next }
    let (count, log, workshop) := workshop.loadAll s.files none
    let closing : Log := match count with
      | .ok n => [⟨.info, .main,
          "Loaded " ++ toString n ++ " catalog plugin(s) from " ++ directory⟩]
      | .error _ => []
    ({ errors := s.reporting.logger.writeAll time (Shelf.opening directory ++ log ++ closing)
       result := (count.mapError Stop.fault).map fun _ => () },
      { s with registry := workshop.registry, next := workshop.next })

/-- the text to analyze: a listing from a file, the disassembly of a binary, or standard input -/
def readInput (s : Session) (time : String) (a : CommandLine.Arguments) (inv : Invocation) :
    Part String :=
  match filled a.objdump, filled a.file with
  | some path, _ => { result := (s.files.readText path).mapError .fault }
  | none, some file =>
    if file = "-" then standardInput else
      let attempt := Disassembler.run inv.machine file a.function a.disassembler
        Disassembler.defaultTimeout
      { errors := s.reporting.logger.writeAll time attempt.log
        calls := attempt.calls
        result := attempt.result.mapError .fault }
  | none, none => if inv.input = .terminal then { result := .error .nothingToRead } else standardInput
where
  standardInput : Part String :=
    let reading (text : String) : Part String :=
      { errors := (InputStats.of text).messages a.debug, result := .ok text }
    match inv.input with
    | .terminal => reading ""
    | .text content => reading content
    | .interrupted =>
      { errors := if a.debug then InputStats.opening else "", result := .error .interrupted }

/-- the report on a text -/
def makeReport (s : Session) (time : String) (config : Config) (text : String) : Part String :=
  { errors := s.reporting.logger.writeAll time (Run.log s.registry text config none)
    result := ((Run.run s.registry text config none).bind
      fun run => run.summary.report config.format).mapError .fault }

/-- the report on what a command line names -/
def analyze (s : Session) (time : String) (config : Config) (a : CommandLine.Arguments)
    (inv : Invocation) : Part String :=
  let input := s.readInput time a inv
  match input.result with
  | .error stop => { input with result := .error stop }
  | .ok text =>
    let report := s.makeReport time config text
    { report with errors := input.errors ++ report.errors, calls := input.calls }

/-! ## Whole runs -/

/-- the exit of a run that stops, and what it leaves on the error stream -/
def ending (reporter : Reporter) (logger : Logger) (time : String) : Stop → Exit × String
  | .fault f =>
    match f.diagnostic? with
    | some d => (.code 1, reporter.report logger time d)
    | none =>
      match f.systemMessage? with
      | some message => (.code 1, "Error: " ++ message ++ "\n")
      | none => (.uncaught f, "")
  | .nothingToRead =>
    (.code 1, CommandLine.usage ++ "error: provide a binary, --objdump FILE, or '-' for stdin\n")
  | .interrupted => (.code 130, "\nOperation cancelled by user\n")
  | .notWritten path => (.code 1, "Error: Cannot write to output file: " ++ path ++ "\n")

/-- writes a text to the output file, if one is given, and else to the output stream -/
def deliver (s : Session) (output : Option String) (text : String) :
    Except Stop (String × String × Session) :=
  match filled output with
  | none => .ok (text ++ "\n", "", s)
  | some path =>
    if path.toList.contains '\x00' then .error (.fault .nulInPath)
    else match s.files.write? path (Text.encode text) with
      | none => .error (.notWritten path)
      | some files => .ok ("", "Report written to " ++ path ++ "\n", { s with files })

def host : String := "127.0.0.1"

/-- no port, or port zero, stands for the usual one -/
def portOf (port : Option Int) : Int :=
  match port with
  | none | some 0 => 8080
  | some n => n

/-- the configuration that a command line asks for -/
def configOf (a : CommandLine.Arguments) : Except Fault Config :=
  match a.workers with
  | none => .error .noWorkerCount
  | some workers => (Settings.ofOptions a.function a.verbose a.catalog workers a.format).check

def serverGreeting (port : Int) : String :=
  "🌐 fusioncheck API running on http://" ++ host ++ ":" ++ toString port
    ++ "\nPOST disassembly text to /api/analyze\nPress Ctrl+C to stop\n\n"

/-- ends a run with a text, or with the reason why there is none -/
def conclude (s : Session) (reporter : Reporter) (time : String) (a : CommandLine.Arguments)
    (earlier : String) (part : Part String) : Transcript × Session :=
  let stopped (stop : Stop) : Transcript × Session :=
    let (exit, message) := ending reporter s.reporting.logger time stop
    ({ exit, errors := earlier ++ part.errors ++ message, calls := part.calls }, s)
  match part.result with
  | .error stop => stopped stop
  | .ok text =>
    match s.deliver a.output text with
    | .error stop => stopped stop
    | .ok (output, message, s) =>
      ({ exit := .code 0, output, errors := earlier ++ part.errors ++ message, calls := part.calls },
        s)

/-- a run after its command line was read -/
def runArguments (s : Session) (time : String) (a : CommandLine.Arguments) (inv : Invocation) :
    Transcript × Session :=
  let (reporter, reporting) := s.reporting.obtain a.debug
  let (plugins, s) := { s with reporting }.loadPlugins time a.pluginDir
  let stopped (stop : Stop) := s.conclude reporter time a plugins.errors { result := .error stop }
  match plugins.result with
  | .error stop => stopped stop
  | .ok _ =>
    if a.listRules then
      s.conclude reporter time a plugins.errors { result := s.registry.list.mapError .fault }
    else
      match configOf a with
      | .error f => stopped (.fault f)
      | .ok config =>
        if a.web then
          let port := portOf a.port
          ({ exit := .code 0, output := serverGreeting port, errors := plugins.errors },
            { s with served := s.served ++ [(host, port)] })
        else s.conclude reporter time a plugins.errors (s.analyze time config a inv)

/-- one use of the command line -/
def run (s : Session) (time : String) (inv : Invocation) : Transcript × Session :=
  match CommandLine.read inv.arguments with
  | .error e =>
    ({ exit := .code 2
       errors := CommandLine.usage ++ "fusioncheck: error: " ++ e.message ++ "\n" }, s)
  | .ok .help => ({ exit := .code 0, output := CommandLine.usage }, s)
  | .ok (.run a) => s.runArguments time a inv

end Session

end MacroFusion
