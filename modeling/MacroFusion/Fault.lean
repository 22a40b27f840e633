import MacroFusion.Diagnostic.Template
import MacroFusion.Path
import MacroFusion.Text.Blank
import MacroFusion.Text.Quoted

/-!
# Faults

Every way in which a step of the program can fail, named by its cause.  Most causes have a diagnostic
for the user; the rest (`Fault.diagnostic?` gives `none`) are failures of what the program was given
to work with, which it passes on.
-/

namespace MacroFusion

/-- the limits of a report that must not be negative -/
inductive Limit where
  | examples | missExamples | topFunctions
  deriving DecidableEq, Repr

def Limit.label : Limit → String
  | .examples => "example_limit"
  | .missExamples => "miss_example_limit"
  | .topFunctions => "top_functions"

inductive Fault where
  /-- a listing without an instruction line -/
  | noInstructionLines (linesRead : Nat)
  /-- an analysis of nothing, though no filter was set -/
  | nothingAnalyzed
  /-- a filter that leaves no instruction -/
  | noInstructionsMatching (filter : String)
  /-- a share of a total that is not positive -/
  | zeroTotal
  /-- a count beyond the range of floating-point numbers -/
  | countTooLarge
  | unknownCatalog (name : String)
  /-- another catalog is registered under the name -/
  | duplicateCatalog (name : String)
  | negativeLimit (limit : Limit)
  | tooFewWorkers
  /-- the number of workers was taken away -/
  | noWorkerCount
  | unknownFormat (name : String)
  /-- a text that writes no expression -/
  | invalidPattern
  /-- an expression that repeats a part too many times -/
  | repetitionTooLarge
  /-- an expression with flags that contradict each other -/
  | clashingFlags
  /-- a counted rule without a category -/
  | uncategorizedRule (name : String)
  | fileNotFound (path : String)
  | notAFile (path : String)
  | unreadableFile (path : String)
  /-- a path that is too long, or with a name that is -/
  | nameTooLong (path : String)
  | noDisassembler (binary : String)
  | toolNotStarted (tool binary reason : String)
  | disassemblyTimeout (tool binary : String) (command : List String) (timeout : Int)
  | disassemblyFailed (tool binary : String) (exitCode : Int) (output : String)
  /-- a plugin path that cannot name a module -/
  | noPluginModule (path : String)
  | pluginLoadFailed (path : String)
  | noPluginClass (path : String)
  /-- a plugin that returns something else than a catalog -/
  | notACatalog (plugin : String)
  /-- a plugin whose catalog has the name of a registered one -/
  | pluginConflict (name : String)
  /-- what a plugin's own code fails with, when an instance is made or asked for something -/
  | pluginRaised (o : Diagnostic.Origin)
  /-- a plugin that says itself what is wrong with it -/
  | pluginRefused (message : String)
  /-- a plugin module that ends the program when it is imported -/
  | exitRequested (status : Nat)
  | missingDisassembly
  | optionNotText (option : String)
  /-- a body that is nested too deep to be read -/
  | nestedTooDeep
  /-- a path to write to that holds a NUL -/
  | nulInPath
  deriving DecidableEq, Repr

namespace Fault

/-- the disassemblers that are looked for, in order of preference -/
def disassemblers : List String := ["llvm-objdump", "objdump", "otool"]

/-- a failed tool's output, without blanks around it and cut off after 500 characters -/
def toolOutput (output : String) : String := String.ofList ((Text.trim output.toList).take 500)

/-- what the user is told -/
def diagnostic? : Fault → Option Diagnostic
  | noInstructionLines linesRead =>
    some { kind := .noInstructions, message :=
      "No instructions found in disassembly (" ++ toString linesRead ++ " lines read)" }
  | nothingAnalyzed =>
    some { kind := .noInstructions, message := "Analysis covered zero instructions" }
  | noInstructionsMatching filter =>
    some (Diagnostic.Template.functionNotFound.diagnostic [("pattern", filter)] {})
  | zeroTotal =>
    some { kind := .noInstructions, message :=
      "Cannot compute fusion rates over zero instructions" }
  | unknownCatalog name =>
    some (Diagnostic.Template.unknownCatalog.diagnostic [("name", name)] {})
  | negativeLimit limit =>
    some { kind := .configuration, message := limit.label ++ " must not be negative" }
  | tooFewWorkers =>
    some { kind := .configuration, message := "workers must be at least 1" }
  | unknownFormat name =>
    some { kind := .configuration, message := "Unknown output format: " ++ name
           suggestion := some "Choose one of: markdown, json" }
  | fileNotFound path =>
    some (Diagnostic.Template.fileNotFound.diagnostic [("path", path)] { file := some path })
  | notAFile path =>
    some { kind := .input, message := "Not a file: " ++ path, context := { file := some path } }
  | unreadableFile path =>
    some { kind := .input, message := "Cannot read file: " ++ path
           context := { file := some path }
           origin := some ⟨"PermissionError",
             "[Errno 13] Permission denied: " ++ Text.quoted (Path.tidy path)⟩ }
  | noDisassembler binary =>
    some (Diagnostic.Template.noDisassembler.diagnostic
      [("tools", ", ".intercalate disassemblers)] { binary := some binary })
  | toolNotStarted tool binary reason =>
    some { Diagnostic.Template.noDisassembler.diagnostic [("tools", tool)]
             { binary := some binary } with
           origin := some ⟨"OSError", reason⟩ }
  | disassemblyTimeout tool binary command timeout =>
    some { Diagnostic.Template.disassemblyTimeout.diagnostic
             [("tool", tool), ("timeout", toString timeout), ("path", binary)]
             { binary := some binary } with
           origin := some ⟨"TimeoutExpired", "Command '" ++ Text.quotedList command
             ++ "' timed out after " ++ toString timeout ++ " seconds"⟩ }
  | disassemblyFailed tool binary exitCode output =>
    some (Diagnostic.Template.disassemblyFailed.diagnostic
      [("tool", tool), ("path", binary), ("returncode", toString exitCode)]
      { binary := some binary
        details := if output.isEmpty then [] else [("stderr", toolOutput output)] })
  | noPluginModule path =>
    some { kind := .plugin, message := "Failed to create module spec for: " ++ path }
  | pluginLoadFailed path =>
    some (Diagnostic.Template.pluginLoadFailed.diagnostic [("plugin_name", path)] {})
  | noPluginClass path =>
    some { kind := .plugin, message := "No CatalogPlugin subclass found in: " ++ path
           suggestion := some
             "Define a class deriving from fusioncheck.plugins.CatalogPlugin." }
  | notACatalog plugin =>
    some { kind := .plugin, message := "Plugin " ++ plugin ++ " did not return a RuleCatalog" }
  | pluginConflict name =>
    some { kind := .plugin, message := "Catalog already registered: " ++ name
           origin := some ⟨"ValueError", "Catalog already registered: " ++ name⟩ }
  | pluginRefused message => some { kind := .plugin, message }
  | missingDisassembly =>
    some { kind := .input, message := "JSON body must contain a 'disassembly' string" }
  | optionNotText option =>
    some { kind := .input, message := "'" ++ option ++ "' must be a string" }
  | countTooLarge | duplicateCatalog _ | invalidPattern | repetitionTooLarge | clashingFlags
  | uncategorizedRule _ | pluginRaised _ | exitRequested _ | nulInPath | nameTooLong _ | nestedTooDeep
  | noWorkerCount => none

/-- what the file system says about a fault of its own, also if a plugin meets with it -/
def systemMessage? : Fault → Option String
  | nameTooLong path => some ("[Errno 36] File name too long: " ++ Text.quoted (Path.tidy path))
  | pluginRaised o => if o.kind = "OSError" then some o.text else none
  | _ => none

/-- the kind of the diagnostic, where there is one -/
def kind? (f : Fault) : Option Diagnostic.Kind := f.diagnostic?.map (·.kind)

end Fault

end MacroFusion
