import MacroFusion.CommandLine.Switch
import MacroFusion.Text.Integer
import MacroFusion.Text.Search

/-!
# Arguments of the command line

A command line is first cut into words: switches, arguments, and the two dashes after which everything
is an argument.  A switch may be written in full, by a beginning that fits no other long switch, with
its value after an equals sign, or, for the short ones, joined with its value or with other switches.
A negative number, and a word with a space in it, are arguments though they begin with a dash.  Two
dashes as a value take the value of the switch away, also the one that it has from the start.

Then the words are taken from left to right.  One argument may stand alone, the file; further ones and
unknown switches are collected and refused at the end.
-/

namespace MacroFusion.CommandLine

/-- the command line after reading -/
structure Arguments where
  file : Option String := none
  objdump : Option String := none
  disassembler : Option String := none
  function : Option String := none
  catalog : Option String := none
  pluginDir : Option String := none
  listRules : Bool := false
  workers : Option Int := some 1
  verbose : Bool := false
  format : Option String := some "markdown"
  output : Option String := none
  debug : Bool := false
  web : Bool := false
  port : Option Int := some 8080
  deriving DecidableEq, Repr

/-- a word of the command line -/
inductive Word where
  | argument (text : String)
  /-- two dashes -/
  | dashes
  | unknown (text : String)
  /-- a switch without a value in the same word -/
  | plain (s : Switch)
  /-- a long switch with a value after an equals sign -/
  | long (s : Switch) (value : String)
  /-- a short switch with more in the same word, after an equals sign or not -/
  | short (s : Switch) (more : List Char)
  deriving DecidableEq, Repr

/-! ## Words -/

/-- digits with a dash in front, maybe with a point among them -/
def isNegativeNumber (cs : List Char) : Bool :=
  match cs with
  | '-' :: rest =>
    let body := if rest.getLast? = some '\n' then rest.dropLast else rest
    let after := body.dropWhile Text.isDigit
    (after.isEmpty && !body.isEmpty) ||
      match after with
      | '.' :: places => !places.isEmpty && places.all Text.isDigit
      | _ => false
  | _ => false

/-- a switch with the value that an equals sign gives it -/
def valued (s : Switch) (spelling : String) (value : List Char) : Word :=
  if Text.beginsWith spelling "--" then .long s (String.ofList value) else .short s value

/-- a long switch by a beginning of it, with the value after an equals sign if there is one -/
def abbreviated (text : String) : Except UsageError (Option Word) :=
  let (start, value) := match Text.cutAt? '=' text.toList with
    | some (start, value) => (start, some value)
    | none => (text.toList, none)
  match Switch.table.filter fun (spelling, _) => start.isPrefixOf spelling.toList with
  | [] => .ok none
  | [(spelling, s)] =>
    match value with
    | some value => .ok (some (valued s spelling value))
    | none => .ok (some (.plain s))
  | several => .error (.ambiguous text (several.map (·.1)))

/-- a short switch with more in the same word -/
def shortJoined (text : String) : Option Word :=
  match text.toList with
  | dash :: c :: more =>
    (Switch.ofSpelling? (String.ofList [dash, c])).map fun s => .short s more
  | _ => none

/-- the word that a text is, before any two dashes -/
def readWord (text : String) : Except UsageError Word :=
  let cs := text.toList
  if cs.head? ≠ some '-' then .ok (.argument text)
  else match Switch.ofSpelling? text with
    | some s => .ok (.plain s)
    | none =>
      if cs.length = 1 then .ok (.argument text)
      else
        let exact := (Text.cutAt? '=' cs).bind fun (start, value) =>
          (Switch.ofSpelling? (String.ofList start)).map fun s =>
            valued s (String.ofList start) value
        match exact with
        | some word => .ok word
        | none => do
          let found ←
            if Text.beginsWith text "--" then abbreviated text else .ok (shortJoined text)
          match found with
          | some word => return word
          | none =>
            if isNegativeNumber cs || cs.contains ' ' then return .argument text
            else return .unknown text

/-- the words of a command line -/
def readWords : List String → Except UsageError (List Word)
  | [] => .ok []
  | text :: rest =>
    if text = "--" then .ok (.dashes :: rest.map .argument)
    else do
      let word ← readWord text
      let words ← readWords rest
      return word :: words

/-! ## Settings of the switches -/

/-- the switches of a short word with their values, and the one that takes its value from the next
word -/
def joined (s : Switch) :
    List Char → Except UsageError (List (Switch × String) × Option Switch)
  | [] => if s.takesValue then .ok ([(s, "")], none) else .error (.ignoredArgument s "")
  | c :: rest =>
    let more := String.ofList (c :: rest)
    if s.takesValue then .ok ([(s, more)], none)
    else match Switch.ofSpelling? (String.ofList ['-', c]) with
      | none => .error (.ignoredArgument s more)
      | some t =>
        let found :=
          if rest.isEmpty then .ok (if t.takesValue then ([], some t) else ([(t, "")], none))
          else joined t rest
        found.map fun (switches, last) => ((s, "") :: switches, last)

/-- a value, unless it is two dashes -/
def kept (value : String) : Option String := if value = "--" then none else some value

def integerFor (s : Switch) (value : String) : Except UsageError (Option Int) :=
  match kept value with
  | none => .ok none
  | some value =>
    match Text.integer? value with
    | some n => .ok (some n)
    | none => .error (.invalidInteger s value)

def choiceFor (s : Switch) (choices : List String) (value : String) :
    Except UsageError (Option String) :=
  match kept value with
  | none => .ok none
  | some value =>
    if choices.contains value then .ok (some value) else .error (.invalidChoice s value choices)

/-- sets one switch; help is left to the caller -/
def Arguments.set (a : Arguments) (s : Switch) (value : String) : Except UsageError Arguments :=
  match s with
  | .help => .ok a
  | .objdump => .ok { a with objdump := kept value }
  | .disassembler => .ok { a with disassembler := kept value }
  | .function => .ok { a with function := kept value }
  | .catalog => .ok { a with catalog := kept value }
  | .pluginDir => .ok { a with pluginDir := kept value }
  | .listRules => .ok { a with listRules := true }
  | .workers => (integerFor s value).map fun n => { a with workers := n }
  | .verbose => .ok { a with verbose := true }
  | .format => (choiceFor s ["markdown", "json"] value).map fun v => { a with format := v }
  | .output => .ok { a with output := kept value }
  | .debug => .ok { a with debug := true }
  | .web => .ok { a with web := true }
  | .port => (integerFor s value).map fun n => { a with port := n }

/-- whether the file was given -/
inductive Place where
  | free
  /-- by the word just read, which takes two dashes after it along -/
  | fresh
  | taken
  deriving DecidableEq, Repr

/-- the reading so far -/
structure Reading where
  arguments : Arguments := {}
  /-- help was asked for, and nothing after that counts -/
  help : Bool := false
  place : Place := .free
  /-- switches of the word before, and the last of them, which waits for its value -/
  pending : Option (List (Switch × String) × Switch) := none
  extras : List String := []

namespace Reading

def set (r : Reading) (s : Switch) (value : String) : Except UsageError Reading :=
  if r.help then .ok r
  else if s = .help then .ok { r with help := true }
  else (r.arguments.set s value).map fun arguments => { r with arguments }

/-- sets switches one after the other -/
def setAll (r : Reading) (switches : List (Switch × String)) : Except UsageError Reading :=
  switches.foldlM (fun r (s, value) => r.set s value) r

def extra (r : Reading) (text : String) : Reading := { r with extras := r.extras ++ [text] }

/-- the file is no longer the word just read -/
def settled (r : Reading) : Reading := if r.place = .fresh then { r with place := .taken } else r

/-- an argument that belongs to no switch -/
def positional (r : Reading) (text : String) : Reading :=
  if r.place = .free then
    { r with arguments := { r.arguments with file := some text }, place := .fresh }
  else r.settled.extra text

/-- takes a word that no switch waits for -/
def takeWord (r : Reading) (word : Word) : Except UsageError Reading :=
  let settled := r.settled
  match word with
  | .argument text => .ok (r.positional text)
  | .dashes => .ok (if r.place = .taken then r.extra "--" else settled)
  | .unknown text => .ok (settled.extra text)
  | .plain s => if s.takesValue then .ok { settled with pending := some ([], s) } else settled.set s ""
  | .long s value =>
    if s.takesValue then settled.set s value else .error (.ignoredArgument s value)
  | .short s more => do
    let (switches, last) ← joined s more
    match last with
    | none => settled.setAll switches
    | some t => return { settled with pending := some (switches, t) }

/-- takes the next word -/
def step (r : Reading) (word : Word) : Except UsageError Reading :=
  if r.help then .ok r
  else match r.pending, word with
    | none, _ => r.takeWord word
    | some (switches, s), .argument value =>
      { r with pending := none }.setAll (switches ++ [(s, value)])
    | some (_, s), _ => .error (.expectedArgument s)

/-- the reading after the last word -/
def finish (r : Reading) : Except UsageError Reading :=
  match r.pending with
  | some (_, s) => .error (.expectedArgument s)
  | none => .ok r

end Reading

/-- what a command line asks for -/
inductive Request where
  | help
  | run (a : Arguments)
  deriving DecidableEq, Repr

/-- reads a command line -/
def read (texts : List String) : Except UsageError Request := do
  let words ← readWords texts
  let r ← (← words.foldlM Reading.step {}).finish
  if r.help then return .help
  else if r.extras.isEmpty then return .run r.arguments
  else throw (.unrecognized r.extras)

end MacroFusion.CommandLine
