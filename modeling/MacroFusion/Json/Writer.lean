import MacroFusion.Binary64.Text
import MacroFusion.Json.Basic
import MacroFusion.Text.Quoted

/-!
# Writing JSON

Two layouts: on one line, or with one item a line and two more spaces for each level.  Strings escape
the quote, the backslash and the controls; with `ascii` also every character outside ASCII, by its
units of sixteen bits.
-/

namespace MacroFusion.Json

/-- how a value is written -/
structure Style where
  /-- one item a line -/
  broken : Bool
  /-- no character outside ASCII -/
  ascii : Bool

def Style.report : Style := { broken := true, ascii := false }

def Style.line : Style := { broken := false, ascii := true }

def unitEscape (n : Nat) : List Char := '\\' :: 'u' :: Text.hexDigits 4 n

/-- the escapes of a character by its one or two units of sixteen bits -/
def unitEscapes (c : Char) : List Char :=
  if c.toNat < 0x10000 then unitEscape c.toNat
  else
    unitEscape (0xd800 + (c.toNat - 0x10000) / 0x400)
      ++ unitEscape (0xdc00 + (c.toNat - 0x10000) % 0x400)

def escapeChar (ascii : Bool) (c : Char) : List Char :=
  if c = '"' || c = '\\' then ['\\', c]
  else if c = '\n' then ['\\', 'n']
  else if c = '\r' then ['\\', 'r']
  else if c = '\t' then ['\\', 't']
  else if c = '\x08' then ['\\', 'b']
  else if c = '\x0c' then ['\\', 'f']
  else if c.toNat < 0x20 then unitEscape c.toNat
  else if ascii && 0x7e < c.toNat then unitEscapes c
  else [c]

def stringText (style : Style) (s : String) : String :=
  String.ofList ('"' :: s.toList.flatMap (escapeChar style.ascii) ++ ['"'])

def numberText : Binary64 → String
  | .nan => "NaN"
  | .infinite negative => if negative then "-Infinity" else "Infinity"
  | x => x.text

/-- items between brackets at the given level -/
def enclose (style : Style) (level : Nat) (opening closing : String) (items : List String) : String :=
  let indent (n : Nat) := "\n" ++ String.ofList (List.replicate (2 * n) ' ')
  if items.isEmpty then opening ++ closing
  else if style.broken then
    opening ++ indent (level + 1) ++ ("," ++ indent (level + 1)).intercalate items ++ indent level
      ++ closing
  else opening ++ ", ".intercalate items ++ closing

mutual

def render (style : Style) (level : Nat) : Json → String
  | .null => "null"
  | .bool b => if b then "true" else "false"
  | .integer n => toString n
  | .number x => numberText x
  | .string s | .cleft s => stringText style s
  | .array items => enclose style level "[" "]" (renderItems style (level + 1) items)
  | .object fields => enclose style level "\x7b" "\x7d" (renderFields style (level + 1) fields)

def renderItems (style : Style) (level : Nat) : List Json → List String
  | [] => []
  | j :: rest => render style level j :: renderItems style level rest

def renderFields (style : Style) (level : Nat) : List (String × Json) → List String
  | [] => []
  | (key, j) :: rest =>
    (stringText style key ++ ": " ++ render style level j) :: renderFields style level rest

end

/-- the layout of reports -/
def pretty (j : Json) : String := render .report 0 j

/-- the layout of messages -/
def line (j : Json) : String := render .line 0 j

end MacroFusion.Json
