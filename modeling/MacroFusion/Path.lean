import MacroFusion.Text.Search

/-!
# Paths

A path as text, its steps, and its tidy form.  An empty step and `.` lead nowhere, so a tidy path has
none.  A path that begins with a slash starts at the root; exactly two slashes in front are kept.

A path and each of its names have a greatest length, counted in bytes.
-/

namespace MacroFusion.Path

/-- the steps of a path -/
def steps (path : String) : List String := (Text.splitAt '/' path.toList).map String.ofList

/-- whether a step leads nowhere -/
def isIdle (step : String) : Bool := step = "" || step = "."

/-- the steps of a path that lead somewhere -/
def tidySteps (path : String) : List String := (steps path).filter fun step => !isIdle step

def isAbsolute (path : String) : Bool := path.toList.head? = some '/'

/-- the slashes in front of a tidy path -/
def root (path : String) : String :=
  match (path.toList.takeWhile (· = '/')).length with
  | 0 => ""
  | 2 => "//"
  | _ => "/"

/-- a path without the steps that lead nowhere -/
def tidy (path : String) : String :=
  let text := root path ++ "/".intercalate (tidySteps path)
  if text.isEmpty then "." else text

/-- a path without slashes at its end -/
def trimEnd (path : String) : String :=
  String.ofList (path.toList.reverse.dropWhile (· = '/')).reverse

/-- the greatest length of a path, in bytes -/
def greatestLength : Nat := 4095

/-- the greatest length of a name, in bytes -/
def greatestNameLength : Nat := 255

/-- whether a path is too long to be followed at all -/
def isTooLong (path : String) : Bool := greatestLength < path.utf8ByteSize

/-- whether no file can have the name -/
def isTooLongName (name : String) : Bool := greatestNameLength < name.utf8ByteSize

end MacroFusion.Path
