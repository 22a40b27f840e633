import MacroFusion.Regex.Basic

/-!
# Flags

Letters that change how an expression is read.  `(?i)` at the start of a pattern sets flags for all of
it, `(?i:...)` for one group, and `(?-i:...)` takes them back there.
-/

namespace MacroFusion.Expression

/-- what a letter asks for -/
inductive Flag where
  /-- `i`: letters of either case count as the same -/
  | ignoreCase
  /-- `m`: `^` and `$` stand for the ends of lines -/
  | multiline
  /-- `s`: a dot stands for any character -/
  | dotAll
  /-- `x`: blanks and comments are skipped -/
  | verbose
  /-- `a`: classes and cases are those of ASCII -/
  | ascii
  /-- `u`: classes and cases are those of every script, as they are without a flag -/
  | unicode
  /-- `t`: nothing may be repeated -/
  | bare
  /-- `L`: letters depend on the locale, which no pattern over characters can ask for -/
  | locale
  deriving DecidableEq, Repr

def Flag.ofChar? : Char → Option Flag
  | 'i' => some .ignoreCase
  | 'm' => some .multiline
  | 's' => some .dotAll
  | 'x' => some .verbose
  | 'a' => some .ascii
  | 'u' => some .unicode
  | 't' => some .bare
  | 'L' => some .locale
  | _ => none

/-- the flags in force -/
structure Flags where
  ignoreCase : Bool := false
  multiline : Bool := false
  dotAll : Bool := false
  verbose : Bool := false
  ascii : Bool := false
  bare : Bool := false
  deriving DecidableEq, Repr

namespace Flags

/-- the flags with some added and others taken back -/
def change (f : Flags) (added removed : List Flag) : Flags where
  ignoreCase := (f.ignoreCase || added.contains .ignoreCase) && !removed.contains .ignoreCase
  multiline := (f.multiline || added.contains .multiline) && !removed.contains .multiline
  dotAll := (f.dotAll || added.contains .dotAll) && !removed.contains .dotAll
  verbose := (f.verbose || added.contains .verbose) && !removed.contains .verbose
  ascii := (f.ascii && !added.contains .unicode) || added.contains .ascii
  bare := f.bare || added.contains .bare

/-- which letters count as the same -/
def fold (f : Flags) : Regex.Fold :=
  if f.ignoreCase then (if f.ascii then .ascii else .full) else .exact

/-- the word characters -/
def wordClass (f : Flags) : Regex.Class := if f.ascii then .asciiWord else .word

end Flags

/-- what a parenthesis with flags says -/
inductive FlagGroup where
  /-- flags for the whole pattern -/
  | whole (added : List Flag)
  /-- flags for the group that begins here -/
  | part (added removed : List Flag)
  deriving DecidableEq, Repr

/-- the flags at the head of a text -/
def flagLetters (cs : List Char) : List Flag × List Char :=
  let isLetter := fun c => (Flag.ofChar? c).isSome
  ((cs.takeWhile isLetter).filterMap Flag.ofChar?, cs.dropWhile isLetter)

/-- whether flags can be set together -/
def compatible (added : List Flag) : Bool :=
  !added.contains .locale && !(added.contains .ascii && added.contains .unicode)

/-- whether flags can be taken back from a group -/
def removable (added removed : List Flag) : Bool :=
  !removed.isEmpty && removed.all fun f =>
    !([.ascii, .unicode, .locale, .bare].contains f || added.contains f)

/-- the flags after `(?`, up to a colon or a closing parenthesis -/
def flagGroup? (cs : List Char) : Option (FlagGroup × List Char) :=
  let (added, more) := flagLetters cs
  if !compatible added then none
  else match more with
    | ')' :: rest => if added.isEmpty then none else some (.whole added, rest)
    | ':' :: rest => if added.isEmpty || added.contains .bare then none else some (.part added [], rest)
    | '-' :: more =>
      match flagLetters more with
      | (removed, ':' :: rest) =>
        if !added.contains .bare && removable added removed then some (.part added removed, rest)
        else none
      | _ => none
    | _ => none

end MacroFusion.Expression
