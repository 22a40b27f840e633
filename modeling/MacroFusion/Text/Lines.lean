/-!
# Lines

A text is cut into lines at every line boundary of the Unicode standard; a carriage return with the
line feed after it is one boundary.  The boundaries belong to no line, and a boundary at the very end
opens no further line.

Reading a file first turns every carriage return, alone or with its line feed, into a line feed
(`unixBreaks`); this never changes the lines.
-/

namespace MacroFusion.Text

def isLineBreak (c : Char) : Bool :=
  c == '\n' || c == '\r' || c == '\x0b' || c == '\x0c' || c == '\x1c' || c == '\x1d' || c == '\x1e' ||
    c == '\u0085' || c == '\u2028' || c == '\u2029'

/-- puts a character in front of the first line -/
def consToFirst (c : Char) : List (List Char) → List (List Char)
  | [] => [[c]]
  | line :: rest => (c :: line) :: rest

/-- whether `c`, with `cs` after it, is a carriage return that its line feed stands for -/
def isAbsorbed (c : Char) (cs : List Char) : Bool := c == '\r' && cs.head? == some '\n'

/-- the lines of a text -/
def lines : List Char → List (List Char)
  | [] => []
  | c :: cs =>
    if isAbsorbed c cs then lines cs
    else if isLineBreak c then [] :: lines cs
    else consToFirst c (lines cs)

/-- carriage returns, alone or with a line feed after them, become line feeds -/
def unixBreaks : List Char → List Char
  | [] => []
  | c :: cs =>
    if isAbsorbed c cs then unixBreaks cs
    else (if c = '\r' then '\n' else c) :: unixBreaks cs

theorem lines_cons (c : Char) (cs : List Char) :
    lines (c :: cs) = if isAbsorbed c cs then lines cs
      else if isLineBreak c then [] :: lines cs else consToFirst c (lines cs) := rfl

theorem unixBreaks_cons (c : Char) (cs : List Char) :
    unixBreaks (c :: cs) = if isAbsorbed c cs then unixBreaks cs
      else (if c = '\r' then '\n' else c) :: unixBreaks cs := rfl

end MacroFusion.Text
