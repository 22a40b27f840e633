import MacroFusion.Text.Quoted

/-!
# Switches of the command line

The switches, how they are spelled, and what can be wrong about a command line.
-/

namespace MacroFusion

namespace CommandLine

inductive Switch where
  | help | objdump | disassembler | function | catalog | pluginDir | listRules | workers | verbose
  | format | output | debug | web | port
  deriving DecidableEq, Repr

namespace Switch

/-- in the order in which they are listed -/
def all : List Switch :=
  [.help, .objdump, .disassembler, .function, .catalog, .pluginDir, .listRules, .workers, .verbose,
    .format, .output, .debug, .web, .port]

def spellings : Switch → List String
  | .help => ["-h", "--help"]
  | .objdump => ["--objdump"]
  | .disassembler => ["--disassembler"]
  | .function => ["--function", "-f"]
  | .catalog => ["--catalog"]
  | .pluginDir => ["--plugin-dir"]
  | .listRules => ["--list-rules"]
  | .workers => ["--workers"]
  | .verbose => ["--verbose", "-v"]
  | .format => ["--format"]
  | .output => ["--output", "-o"]
  | .debug => ["--debug"]
  | .web => ["--web"]
  | .port => ["--port"]

def takesValue : Switch → Bool
  | .help | .listRules | .verbose | .debug | .web => false
  | _ => true

/-- every spelling with its switch -/
def table : List (String × Switch) := all.flatMap fun s => s.spellings.map fun text => (text, s)

def ofSpelling? (text : String) : Option Switch := table.lookup text

/-- the name of a switch in a message -/
def label (s : Switch) : String := "/".intercalate s.spellings

end Switch

/-- what is wrong about a command line -/
inductive UsageError where
  | ambiguous (text : String) (candidates : List String)
  | expectedArgument (s : Switch)
  | ignoredArgument (s : Switch) (value : String)
  | invalidInteger (s : Switch) (value : String)
  | invalidChoice (s : Switch) (value : String) (choices : List String)
  | unrecognized (texts : List String)
  deriving DecidableEq, Repr

def UsageError.message : UsageError → String
  | .ambiguous text candidates =>
    "ambiguous option: " ++ text ++ " could match " ++ ", ".intercalate candidates
  | .expectedArgument s => "argument " ++ s.label ++ ": expected one argument"
  | .ignoredArgument s value =>
    "argument " ++ s.label ++ ": ignored explicit argument " ++ Text.quoted value
  | .invalidInteger s value =>
    "argument " ++ s.label ++ ": invalid int value: " ++ Text.quoted value
  | .invalidChoice s value choices =>
    "argument " ++ s.label ++ ": invalid choice: " ++ Text.quoted value ++ " (choose from "
      ++ ", ".intercalate (choices.map Text.quoted) ++ ")"
  | .unrecognized texts => "unrecognized arguments: " ++ " ".intercalate texts

def usage : String :=
  "usage: fusioncheck [-h] [--objdump FILE] [--disassembler TOOL]\n"
    ++ "                   [--function NAME] [--catalog NAME] [--plugin-dir DIR]\n"
    ++ "                   [--list-rules] [--workers N] [--verbose]\n"
    ++ "                   [--format \x7bmarkdown,json\x7d] [--output FILE] [--debug]\n"
    ++ "                   [--web] [--port PORT]\n"
    ++ "                   [file]\n"

end CommandLine

end MacroFusion
