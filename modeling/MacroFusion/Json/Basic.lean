import MacroFusion.Binary64.Basic
import MacroFusion.Dictionary

/-!
# JSON values

Values of the JSON format.  Integers are kept apart from numbers with a fraction or an exponent, and
the fields of an object keep their order.  Texts have no halves of characters in them, so a string in
which one stands alone, or may do so, is kept apart too, with its halves mended.
-/

namespace MacroFusion

inductive Json where
  | null
  | bool (b : Bool)
  | integer (n : Int)
  | number (x : Binary64)
  | string (s : String)
  /-- a string in which a half of a character may stand alone -/
  | cleft (mended : String)
  | array (items : List Json)
  | object (fields : List (String × Json))
  deriving Repr, Inhabited

namespace Json

def fields : Json → List (String × Json)
  | .object fields => fields
  | _ => []

def items : Json → List Json
  | .array items => items
  | _ => []

def field? (j : Json) (key : String) : Option Json := j.fields.lookup key

def string? : Json → Option String
  | .string s | .cleft s => some s
  | _ => none

/-- an object of whose strings it is not known whether they are whole -/
def cleave : Json → Json
  | .object fields => .object (fields.map fun (key, j) =>
    (key, match j with
      | .string s => .cleft s
      | other => other))
  | j => j

/-- whether a value counts as a yes: anything but null, false, zero and the empty -/
def isTrue : Json → Bool
  | .null => false
  | .bool b => b
  | .integer n => n != 0
  | .number x => !x.isZero
  | .string s | .cleft s => !s.isEmpty
  | .array items => !items.isEmpty
  | .object fields => !fields.isEmpty

end Json

end MacroFusion
