import MacroFusion.Files.Tree
import MacroFusion.Text.Lines
import MacroFusion.Text.Utf8

/-!
# Reading listings

A listing comes from a file or from standard input.  Files are decoded as UTF-8, and every way to
break a line becomes a line feed; standard input is taken as it is.
-/

namespace MacroFusion

/-- the text of a file -/
def Content.text : Content → String
  | .bytes data => String.ofList (Text.unixBreaks (Text.decode data))
  | .code _ => ""

/-- the text of the file at a path, which is tidied first -/
def FileSystem.readText (fs : FileSystem) (path : String) : Except Fault String :=
  match fs.look (Path.tidy path) with
  | .nothing => .error (.fileNotFound path)
  | .tooLong => .error (.nameTooLong path)
  | .node (.file f) => if f.readable then .ok f.content.text else .error (.unreadableFile path)
  | .node _ => .error (.notAFile path)

/-- what is told about a text from standard input -/
structure InputStats where
  lines : Nat
  characters : Nat
  deriving DecidableEq, Repr

namespace InputStats

def of (text : String) : InputStats :=
  { lines := (Text.lines text.toList).length, characters := text.length }

/-- the messages before and after reading, where they are wanted -/
def opening : String := "📥 Reading disassembly from stdin...\n"

def closing (s : InputStats) : String := "✓ Read " ++ toString s.lines ++ " lines from stdin\n"

/-- both messages -/
def messages (s : InputStats) (wanted : Bool) : String :=
  if wanted then opening ++ s.closing else ""

end InputStats

end MacroFusion
