import MacroFusion.Expression.Bounds
import MacroFusion.Expression.Bracket
import MacroFusion.Expression.Width
import MacroFusion.Text.Identifier
import MacroFusion.Text.Integer

/-!
# Reading expressions

The written form of an expression: characters stand for themselves, `.` for any character but a line
feed, `[...]` for sets, `^` and `$` for the ends of the text, `|` for alternatives; a backslash begins an
escape, and bounds follow what they repeat.  A parenthesis begins a part with a number, or with `?` after
it a group of another kind: one without a number, a comment, a look around, a condition, one with a name
or with flags, or one that commits to its first way.

Parts are numbered as they begin, and a part can be taken again once it has ended.  Some faults show only
when the whole text is read: flags that contradict each other, a condition on a part that there is not,
a look behind of no fixed width.

Every step consumes a character or descends one level, so a budget of four times the length of the text
is never used up.
-/

namespace MacroFusion.Expression

open Regex (CharSet Fold)

/-- what is known from the text read so far -/
structure Notes where
  /-- the parts begun so far, with their widths if they have ended -/
  groups : List (Option Width) := []
  names : List (String × Nat) := []
  /-- within a look behind: how many parts began before it -/
  behind : Option Nat := none
  /-- the greatest number of a part that a condition asks for -/
  asked : Nat := 0
  /-- something that is refused once all is read -/
  flawed : Bool := false

/-- a step of reading -/
abbrev Read (α : Type) : Type := StateT Notes (Except Failure) α

namespace Read

def fail {α : Type} : Read α := throw .malformed

/-- what has to be there, or else the text is malformed -/
def require {α : Type} : Option α → Read α
  | some a => pure a
  | none => fail

/-- begins a part and gives its number -/
def enterGroup (name : Option String) : Read Nat := do
  let notes ← get
  let number := notes.groups.length + 1
  let names ← match name with
    | none => pure notes.names
    | some n => if (notes.names.lookup n).isSome then fail else pure ((n, number) :: notes.names)
  set { notes with groups := notes.groups ++ [none], names }
  return number

def leaveGroup (number : Nat) (e : Expression) : Read Unit :=
  modify fun notes =>
    { notes with groups := notes.groups.set (number - 1) (some (e.width notes.groups)) }

/-- makes sure that a look behind, if this is one, only depends on parts before it -/
def checkBehind (number : Nat) : Read Unit := do
  let notes ← get
  match notes.behind with
  | none => return
  | some before =>
    if number ≤ before && ((notes.groups[number - 1]?).join).isSome then return else fail

/-- the part with a number, taken again -/
def takeAgain (fold : Fold) (number : Nat) : Read Expression := do
  let notes ← get
  if ((notes.groups[number - 1]?).join).isNone then fail
  checkBehind number
  return .again number fold

end Read

/-- a part of a row, and whether bounds can follow it -/
structure Piece where
  expression : Expression
  repeatable : Bool := true

/-! ## What is skipped -/

/-- the text after the parenthesis that ends a comment -/
def afterComment? : List Char → Option (List Char)
  | [] => none
  | '\\' :: [] => none
  | '\\' :: _ :: cs => afterComment? cs
  | ')' :: cs => some cs
  | _ :: cs => afterComment? cs

/-- the text after the end of the line -/
def afterLine? : List Char → Option (List Char)
  | [] => some []
  | '\\' :: [] => none
  | '\\' :: _ :: cs => afterLine? cs
  | '\n' :: cs => some cs
  | _ :: cs => afterLine? cs

def isSkipped (c : Char) : Bool := c.isWhitespace || c == '\x0b' || c == '\x0c'

/-- the text after a blank, a line comment or a comment in parentheses at its head; `none` where there
is nothing to skip -/
def skip? (flags : Flags) : List Char → Option (Read (List Char))
  | '(' :: '?' :: '#' :: cs => some (Read.require (afterComment? cs))
  | c :: cs =>
    if flags.verbose && isSkipped c then some (pure cs)
    else if flags.verbose && c = '#' then some (Read.require (afterLine? cs))
    else none
  | [] => none

/-! ## Groups -/

/-- the text up to a terminator, and what follows it -/
def until? (terminator : Char) (cs : List Char) : Option (List Char × List Char) :=
  match cs.dropWhile (· != terminator) with
  | _ :: rest => some (cs.takeWhile (· != terminator), rest)
  | [] => none

/-- the name up to a terminator -/
def name? (terminator : Char) (cs : List Char) : Option (String × List Char) :=
  match until? terminator cs with
  | some (name, rest) => if Text.isIdentifier name then some (String.ofList name, rest) else none
  | none => none

/-- the first number that no part can have -/
def groupLimit : Nat := 1073741823

/-- the part that a condition names or numbers -/
def conditionGroup (condition : List Char) : Read Nat := do
  let number ←
    if Text.isIdentifier condition then
      Read.require ((← get).names.lookup (String.ofList condition))
    else match Text.integer? (String.ofList condition) with
      | some (.ofNat n) =>
        if n = 0 || groupLimit ≤ n then Read.fail
        modify fun notes => { notes with asked := max notes.asked n }
        pure n
      | _ => Read.fail
  Read.checkBehind number
  return number

/-- what an opening parenthesis begins -/
inductive Opening where
  | numbered (name : Option String)
  | flagged (flags : Flags)
  | once
  | look (behind wanted : Bool)
  /-- a part taken again by its name -/
  | again (name : String)
  | condition (text : List Char)

/-- the opening after a parenthesis, and what follows it -/
def opening? (flags : Flags) : List Char → Option (Opening × List Char)
  | '?' :: 'P' :: '<' :: cs => (name? '>' cs).map fun (name, rest) => (.numbered (some name), rest)
  | '?' :: 'P' :: '=' :: cs => (name? ')' cs).map fun (name, rest) => (.again name, rest)
  | '?' :: ':' :: cs => some (.flagged flags, cs)
  | '?' :: '=' :: cs => some (.look false true, cs)
  | '?' :: '!' :: cs => some (.look false false, cs)
  | '?' :: '<' :: '=' :: cs => some (.look true true, cs)
  | '?' :: '<' :: '!' :: cs => some (.look true false, cs)
  | '?' :: '>' :: cs => some (.once, cs)
  | '?' :: '(' :: cs =>
    match until? ')' cs with
    | some (text, rest) => if text.isEmpty then none else some (.condition text, rest)
    | none => none
  | '?' :: cs =>
    match flagGroup? cs with
    | some (.part added removed, rest) => some (.flagged (flags.change added removed), rest)
    | _ => none
  | cs => some (.numbered none, cs)

/-- the text after a closing parenthesis -/
def closed : List Char → Read (List Char)
  | ')' :: rest => pure rest
  | _ => Read.fail

/-! ## Expressions -/

/-- the expression for the characters of a set -/
def ofItems (flags : Flags) (items : List Regex.Item) : Expression :=
  .one ⟨false, items, flags.fold⟩

/-- what an escape outside a set stands for -/
def escaped (flags : Flags) : Escape → Read Piece
  | .item i => pure ⟨ofItems flags [i], true⟩
  | .code n => pure ⟨ofItems flags (itemsBetween n n), true⟩
  | .place p => pure ⟨.place p, false⟩
  | .again number => do return ⟨← Read.takeAgain flags.fold number, true⟩

/-- one part that is not a group -/
def simplePiece (flags : Flags) : List Char → Read (Piece × List Char)
  | '[' :: cs => do
    let (set, rest) ← Read.require (charSet? flags cs)
    return (⟨.one set, true⟩, rest)
  | '\\' :: c :: cs => do
    let (e, rest) ← Read.require (escape? flags c cs)
    return (← escaped flags e, rest)
  | '\\' :: [] => Read.fail
  | '.' :: cs =>
    pure (⟨.one ⟨true, if flags.dotAll then [] else [.range '\n' '\n'], .exact⟩, true⟩, cs)
  | '^' :: cs => pure (⟨.place (if flags.multiline then .lineStart else .start), false⟩, cs)
  | '$' :: cs => pure (⟨.place (if flags.multiline then .lineStop else .lastStop), false⟩, cs)
  | c :: cs => pure (⟨ofItems flags [.range c c], true⟩, cs)
  | [] => Read.fail

mutual

/-- alternatives, up to the end of the text or a closing parenthesis; `before` holds the rows already
read, the last one first -/
def alternatives (budget : Nat) (flags : Flags) (before : List (List Expression)) (cs : List Char) :
    Read (Expression × List Char) :=
  match budget with
  | 0 => Read.fail
  | budget + 1 => do
    match ← sequence budget flags [] cs with
    | (es, '|' :: rest) => alternatives budget flags (es :: before) rest
    | (es, rest) =>
      match (es :: before).reverse with
      | first :: others => return (branch first others, rest)
      | [] => return (.nothing, rest)

/-- parts in a row, up to a bar, a closing parenthesis or the end of the text; `before` holds the parts
already read, the last one first -/
def sequence (budget : Nat) (flags : Flags) (before : List Piece) (cs : List Char) :
    Read (List Expression × List Char) :=
  match budget with
  | 0 => Read.fail
  | budget + 1 =>
    if cs.isEmpty || cs.head? = some '|' || cs.head? = some ')' then
      return (before.reverse.flatMap (·.expression.parts), cs)
    else match skip? flags cs with
      | some rest => do sequence budget flags before (← rest)
      | none =>
        match suffix cs, before with
        | .bad f, _ => throw f
        | .times _ _, [] => Read.fail
        | .times bounds rest, piece :: before =>
          if !piece.repeatable then Read.fail
          else do
            if flags.bare then modify fun notes => { notes with flawed := true }
            let (manner, rest) := manner rest
            let e := .times piece.expression bounds.lo bounds.hi manner
            sequence budget flags (⟨e, false⟩ :: before) rest
        | .plain, before => do
          let (piece, rest) ← match cs with
            | '(' :: inner => parenthesized budget flags inner
            | _ => simplePiece flags cs
          sequence budget flags (piece :: before) rest

/-- a group after its opening parenthesis -/
def parenthesized (budget : Nat) (flags : Flags) (cs : List Char) :
    Read (Piece × List Char) :=
  match budget with
  | 0 => Read.fail
  | budget + 1 => do
    match ← Read.require (opening? flags cs) with
    | (.numbered name, inner) =>
      let number ← Read.enterGroup name
      let (e, rest) ← alternatives budget flags [] inner
      let rest ← closed rest
      Read.leaveGroup number e
      return (⟨.group number e, true⟩, rest)
    | (.flagged flags, inner) =>
      let (e, rest) ← alternatives budget flags [] inner
      return (⟨e, true⟩, ← closed rest)
    | (.once, inner) =>
      let (e, rest) ← alternatives budget flags [] inner
      return (⟨.once e, true⟩, ← closed rest)
    | (.look false wanted, inner) =>
      let (e, rest) ← alternatives budget flags [] inner
      return (⟨.look 0 wanted e, true⟩, ← closed rest)
    | (.look true wanted, inner) =>
      let outer := (← get).behind
      modify fun notes => { notes with behind := some (outer.getD notes.groups.length) }
      let (e, rest) ← alternatives budget flags [] inner
      modify fun notes => { notes with behind := outer }
      let back := (e.width (← get).groups).fixed?
      if back.isNone then modify fun notes => { notes with flawed := true }
      return (⟨.look (back.getD 0) wanted e, true⟩, ← closed rest)
    | (.again name, rest) =>
      let number ← Read.require ((← get).names.lookup name)
      return (⟨← Read.takeAgain flags.fold number, true⟩, rest)
    | (.condition text, inner) =>
      let number ← conditionGroup text
      let (es, rest) ← sequence budget flags [] inner
      match rest with
      | '|' :: rest =>
        let (fs, rest) ← sequence budget flags [] rest
        return (⟨.given number (row es) (row fs), true⟩, ← closed rest)
      | rest => return (⟨.given number (row es) .nothing, true⟩, ← closed rest)

end

/-! ## Patterns -/

/-- the flags that stand before everything else in a pattern, and the rest of it -/
def leadingFlags (budget : Nat) (added : List Flag) (cs : List Char) : Read (List Flag × List Char) :=
  match budget with
  | 0 => Read.fail
  | budget + 1 =>
    match skip? (Flags.change {} added []) cs with
    | some rest => do leadingFlags budget added (← rest)
    | none =>
      match cs with
      | '(' :: '?' :: more =>
        match flagGroup? more with
        | some (.whole new, rest) => leadingFlags budget (added ++ new) rest
        | _ => pure (added, cs)
      | _ => pure (added, cs)

/-- the expression that the whole text writes -/
def readAll (cs : List Char) : Read Expression := do
  let budget := 4 * cs.length + 4
  let (added, rest) ← leadingFlags budget [] cs
  let (e, rest) ← alternatives budget (Flags.change {} added []) [] rest
  if !compatible added then throw .clashingFlags
  let notes ← get
  if !rest.isEmpty || notes.groups.length < notes.asked || notes.flawed then Read.fail
  return e

/-- the expression that a text writes -/
def read (cs : List Char) : Except Failure Expression := (readAll cs).run' {}

end MacroFusion.Expression
