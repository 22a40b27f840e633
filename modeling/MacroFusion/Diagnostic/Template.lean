import MacroFusion.Diagnostic.Basic

/-!
# Message templates

The messages that several parts of the program share, with named slots to be filled, and the
suggestion that goes with each.
-/

namespace MacroFusion.Diagnostic

/-- a shared message -/
inductive Template where
  | fileNotFound | noDisassembler | disassemblyFailed | disassemblyTimeout
  | unknownCatalog | functionNotFound | pluginLoadFailed
  deriving DecidableEq, Repr

/-- a part of a message -/
inductive Piece where
  | text (s : String)
  | slot (name : String)
  deriving DecidableEq, Repr

namespace Template

def all : List Template :=
  [.fileNotFound, .noDisassembler, .disassemblyFailed, .disassemblyTimeout, .unknownCatalog,
    .functionNotFound, .pluginLoadFailed]

def key : Template → String
  | .fileNotFound => "file_not_found"
  | .noDisassembler => "no_disassembler"
  | .disassemblyFailed => "disassembly_failed"
  | .disassemblyTimeout => "disassembly_timeout"
  | .unknownCatalog => "unknown_catalog"
  | .functionNotFound => "function_not_found"
  | .pluginLoadFailed => "plugin_load_failed"

def ofKey? (key : String) : Option Template := all.find? (·.key == key)

def kind : Template → Kind
  | .fileNotFound => .input
  | .noDisassembler => .disassembly
  | .disassemblyFailed => .disassembly
  | .disassemblyTimeout => .disassembly
  | .unknownCatalog => .configuration
  | .functionNotFound => .noInstructions
  | .pluginLoadFailed => .plugin

def pieces : Template → List Piece
  | .fileNotFound => [.text "Input file not found: ", .slot "path"]
  | .noDisassembler => [.text "No disassembler found (tried ", .slot "tools", .text ")"]
  | .disassemblyFailed =>
    [.slot "tool", .text " failed on ", .slot "path", .text " (exit code ", .slot "returncode",
      .text ")"]
  | .disassemblyTimeout =>
    [.slot "tool", .text " timed out after ", .slot "timeout", .text "s on ", .slot "path"]
  | .unknownCatalog => [.text "Unknown rule catalog: ", .slot "name"]
  | .functionNotFound => [.text "No instructions in functions matching '", .slot "pattern", .text "'"]
  | .pluginLoadFailed => [.text "Failed to load plugin: ", .slot "plugin_name"]

def suggestion : Template → String
  | .fileNotFound => "Check that the file path is correct and the file exists."
  | .noDisassembler =>
    "Install llvm-objdump or binutils, or pass existing output with --objdump."
  | .disassemblyFailed => "Check that the file is an ARM64 binary the tool can read."
  | .disassemblyTimeout =>
    "Disassemble a single function with --function, or raise the timeout."
  | .unknownCatalog => "Use --list-rules to see the available catalogs."
  | .functionNotFound =>
    "The function filter is a substring of the symbol name; check the spelling."
  | .pluginLoadFailed => "Check the plugin file for import or syntax errors."

def slots (t : Template) : List String :=
  t.pieces.filterMap fun
    | .slot name => some name
    | .text _ => none

/-- the first slot without a value -/
def missing? (t : Template) (values : List (String × String)) : Option String :=
  t.slots.find? fun name => (values.lookup name).isNone

/-- the message with every slot filled; a slot without a value stays empty -/
def message (t : Template) (values : List (String × String)) : String :=
  String.join (t.pieces.map fun
    | .text s => s
    | .slot name => (values.lookup name).getD "")

def diagnostic (t : Template) (values : List (String × String)) (context : Context) : Diagnostic :=
  { kind := t.kind, message := t.message values, context, suggestion := some t.suggestion }

end Template

/-- the diagnostic of a key: a template with its slots filled, or a general one for a key that names
no template; the name of the first empty slot otherwise -/
def ofKey (key : String) (values : List (String × String)) (severity : Severity)
    (context : Context) : Except String Diagnostic :=
  match Template.ofKey? key with
  | none =>
    .ok { kind := .general, message := "Unknown error: " ++ key, severity, context }
  | some t =>
    match t.missing? values with
    | some slot => .error slot
    | none => .ok { t.diagnostic values context with severity }

end MacroFusion.Diagnostic
