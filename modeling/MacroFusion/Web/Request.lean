import MacroFusion.Json.Reader
import MacroFusion.Text.Encoding
import MacroFusion.Text.Search
import MacroFusion.Text.Blank

/-!
# Requests

A request to the web interface: where it goes, how, and what it brings along.  The target may be a
whole address, of which only the path and the query count; they are taken out of it twice, so that what
is left may be an address once more.  Paths and query options are percent-encoded.

Much of this is not the program's own: how a path and a query are taken out of a target and decoded, what
counts as a media type for JSON, how the encoding of a body is found out and how its JSON is read.  These
definitions say what the web framework and the JSON decoder underneath are assumed to do.  How deep a body
may be nested and how many digits an integer may have are set where the server runs, by the stack and the
settings of the interpreter; they are an argument, `Json.Limits`, and the statements about answers hold for
all of them.
-/

namespace MacroFusion.Web

structure Request where
  /-- the path with its query -/
  target : String
  method : String := "POST"
  contentType : Option String := none
  body : List UInt8 := []

/-- replaces percent codes by the bytes they stand for; a sign that begins no code stays -/
def percentDecode : List UInt8 → List UInt8
  | [] => []
  | [a] => [a]
  | [a, b] => [a, b]
  | p :: a :: b :: rest =>
    if p = 0x25 then
      match Json.hexValue? (Char.ofNat a.toNat), Json.hexValue? (Char.ofNat b.toNat) with
      | some x, some y => UInt8.ofNat (x * 16 + y) :: percentDecode rest
      | _, _ => p :: percentDecode (a :: b :: rest)
    else p :: percentDecode (a :: b :: rest)

/-- a byte as a percent code -/
def percentCode (b : UInt8) : List Char :=
  let digit (n : Nat) : Char := (Nat.digitChar n).toUpper
  ['%', digit (b.toNat / 16), digit (b.toNat % 16)]

/-- the bytes that percent-encoded characters stand for -/
def percentBytes (cs : List Char) : List UInt8 :=
  percentDecode (Text.encode (String.ofList cs))

/-! ## Addresses -/

def isSchemeChar (c : Char) : Bool :=
  c.isAlphanum || c = '+' || c = '-' || c = '.'

/-- an address without the scheme in front -/
def dropScheme (cs : List Char) : List Char :=
  match Text.cutAt? ':' cs with
  | some (c :: scheme, rest) => if c.isAlpha && scheme.all isSchemeChar then rest else cs
  | _ => cs

/-- an address without the authority in front -/
def dropAuthority : List Char → List Char
  | '/' :: '/' :: rest => rest.dropWhile fun c => c != '/' && c != '?' && c != '#'
  | cs => cs

/-- an address without the characters that never count: controls and spaces in front, line breaks and
tabulators anywhere -/
def clean (cs : List Char) : List Char :=
  (cs.dropWhile (·.toNat ≤ 0x20)).filter fun c => c != '\t' && c != '\r' && c != '\n'

/-- the path and the query of an address -/
def parts (cs : List Char) : List Char × List Char :=
  let cs := (dropAuthority (dropScheme (clean cs))).takeWhile (· != '#')
  (cs.takeWhile (· != '?'), (cs.dropWhile (· != '?')).drop 1)

/-- a path with its query, if there is one -/
def withQuery : List Char × List Char → List Char
  | (path, []) => path
  | (path, query) => path ++ '?' :: query

namespace Request

def parts (r : Request) : List Char × List Char := Web.parts (withQuery (Web.parts r.target.toList))

/-- the path, with just one slash in front -/
def path (r : Request) : List Char :=
  '/' :: (Text.decode (percentBytes r.parts.1)).dropWhile (· = '/')

def query (r : Request) : List Char := r.parts.2

/-- a query text: a plus sign is a space, and bytes that are no text stay percent-encoded.  The plus
signs come first, so that an encoded one is kept. -/
def queryText (cs : List Char) : String :=
  let spaced := cs.map fun c => if c = '+' then ' ' else c
  String.ofList (Text.decodeWith (·.flatMap percentCode) (percentBytes spaced))

/-- the options of the query; an option without a value has the empty one -/
def options (r : Request) : List (String × String) :=
  ((Text.splitAt '&' r.query).filter (!·.isEmpty)).map fun part =>
    match Text.cutAt? '=' part with
    | some (name, value) => (queryText name, queryText value)
    | none => (queryText part, "")

/-- the media type in lower case, without parameters -/
def mediaType (r : Request) : String :=
  String.ofList ((Text.trim ((r.contentType.getD "").toList.takeWhile (· != ';'))).map Char.toLower)

/-- whether the body is declared to be JSON -/
def isJson (r : Request) : Bool :=
  let t := r.mediaType
  t == "application/json" || (Text.beginsWith t "application/" && Text.endsIn t "+json")

/-- how many bytes a body that is read may have -/
def greatestSize : Nat := 256 * 1024 * 1024

/-- the body as JSON, if it is that -/
def json (limits : Json.Limits) (r : Request) : Except Json.Failure Json :=
  match Text.decodeDetected? r.body with
  | some cs =>
    (Json.readWithin limits cs).map fun j => if Text.isWholeText r.body then j else j.cleave
  | none => .error .malformed

/-- the body as text -/
def text (r : Request) : String := String.ofList (Text.decode r.body)

end Request

end MacroFusion.Web
