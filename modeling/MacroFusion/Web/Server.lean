import MacroFusion.Report.Data
import MacroFusion.Run
import MacroFusion.Web.Request

/-!
# The web interface

Four routes: the state of the server, the catalogs, one catalog, and the analysis of a listing that is
sent.  A fifth one leads to static files, of which there are none.  A request brings the listing either
as a JSON object with options beside it or as plain text with options in the query; what it leaves open
comes from the configuration of the server.

What a route does is the program's own.  Which path leads to which route, which methods a route has, the
redirection of paths with two slashes in a row, the route to static files and the limit on the size of a
body are assumed behaviour of the web framework.
-/

namespace MacroFusion

def version : String := "1.0.0"

def Diagnostic.toJson (d : Diagnostic) : Json :=
  .object [("error", .string d.kind.label), ("category", .string d.area.label),
    ("severity", .string d.severity.label), ("message", .string d.message),
    ("suggestion", match d.suggestion with
      | some s => .string s
      | none => .null)]

namespace Web

structure Response where
  status : Nat
  /-- nothing where the body is no JSON -/
  body : Option Json

inductive Route where
  | health
  | catalogs
  | catalog (name : String)
  | analyze
  | static
  deriving DecidableEq, Repr

namespace Route

/-- whether a text can name a static file: it does not begin with a slash and is on one line -/
def isStaticName : List Char → Bool
  | [] => false
  | c :: cs => c != '/' && !cs.contains '\n'

/-- the route of a path -/
def ofPath? (path : List Char) : Option Route :=
  match (Text.splitAt '/' path).map String.ofList with
  | ["", "api", "health"] => some .health
  | ["", "api", "catalogs"] => some .catalogs
  | ["", "api", "catalogs", name] => if name.isEmpty then none else some (.catalog name)
  | ["", "api", "analyze"] => some .analyze
  | "" :: "static" :: rest => if isStaticName ("/".intercalate rest).toList then some .static else none
  | _ => none

def methods : Route → List String
  | .analyze => ["POST", "OPTIONS"]
  | _ => ["GET", "HEAD", "OPTIONS"]

/-- one slash for every two in a row -/
def mergeSlashes : List Char → List Char
  | '/' :: '/' :: cs => '/' :: mergeSlashes cs
  | c :: cs => c :: mergeSlashes cs
  | [] => []

end Route

/-- what a request asks to be analyzed -/
structure Order where
  text : String
  config : Config

/-- the words that mean yes -/
def saysYes (s : String) : Bool :=
  ["1", "true", "yes"].contains (String.ofList (s.toList.map Char.toLower))

/-- an option that has to be a text if it is there -/
def textOption (options : List (String × Json)) (key : String) : Except Fault (Option String) :=
  match options.lookup key with
  | none | some .null => .ok none
  | some (.string s) | some (.cleft s) => .ok (some s)
  | some _ => .error (.optionNotText key)

/-- a text that is there and not empty -/
def nonEmpty (s : Option String) : Option String :=
  match s with
  | some text => if text.isEmpty then none else some text
  | none => none

/-- whether examples are wanted; a text has to say so -/
def verboseOption (server : Config) (options : List (String × Json)) : Bool :=
  match options.lookup "verbose" with
  | none => server.verbose
  | some (.string s) | some (.cleft s) => saysYes s
  | some other => other.isTrue

/-- the order that some options make under the configuration of the server -/
def orderOf (server : Config) (text : String) (options : List (String × Json)) :
    Except Fault Order := do
  let function ← textOption options "function"
  let catalog ← textOption options "catalog"
  return {
    text
    config :=
      { filter := (nonEmpty function).or server.filter
        verbose := verboseOption server options
        catalog := (nonEmpty catalog).getD server.catalog
        missExampleLimit := server.missExampleLimit
        topFunctions := server.topFunctions
        workers := server.workers
        workers_pos := server.workers_pos } }

/-- the order that a request brings -/
def readOrder (limits : Json.Limits) (server : Config) (r : Request) : Except Fault Order :=
  if r.isJson then
    match r.json limits with
    | .error .tooDeep => .error .nestedTooDeep
    | .ok (.object fields) =>
      match fields.lookup "disassembly" with
      | some (.string text) | some (.cleft text) => orderOf server text fields
      | _ => .error .missingDisassembly
    | _ => .error .missingDisassembly
  else orderOf server r.text (r.options.map fun (name, value) => (name, .string value))

def statusOf : Diagnostic.Kind → Nat
  | .noInstructions => 422
  | .input | .configuration => 400
  | _ => 500

/-- the answer to an order that cannot be carried out -/
def faultResponse (f : Fault) : Response :=
  match f.diagnostic? with
  | none => { status := 500, body := none }
  | some d => { status := statusOf d.kind, body := some d.toJson }

/-- the answer to an order that was carried out -/
def runResponse (run : Run) : Response :=
  match run.summary.toJson with
  | .error _ => { status := 500, body := none }
  | .ok summary =>
    { status := 200
      body := some (.object (summary.fields
        ++ [("functions_parsed", .integer run.listing.functions.length)])) }

/-- the answer to a listing that is sent; a body that is too large is not read -/
def analyze (limits : Json.Limits) (server : Config) (registry : Registry) (r : Request) : Response :=
  if Request.greatestSize < r.body.length then { status := 413, body := none }
  else
    match readOrder limits server r with
    | .error f => faultResponse f
    | .ok order =>
      match Run.run registry order.text order.config none with
      | .error f => faultResponse f
      | .ok run => runResponse run

/-- the answer of a route to a request that may use it -/
def serve (limits : Json.Limits) (server : Config) (registry : Registry) (r : Request) :
    Route → Response
  | .health =>
    { status := 200, body := some (.object [("status", .string "ok"), ("version", .string version)]) }
  | .catalogs =>
    match registry.available.mapM registry.get with
    | .error f => faultResponse f
    | .ok editions =>
      { status := 200
        body := some (.object [("default", .string server.catalog),
          ("catalogs", .array (editions.map (·.catalog.toJson)))]) }
  | .catalog name =>
    match registry.get name with
    | .ok e => { status := 200, body := some e.catalog.toJson }
    | .error f => { status := 404, body := f.diagnostic?.map (·.toJson) }
  | .analyze => analyze limits server registry r
  | .static => { status := 404, body := none }

/-- the answer to any request -/
def respond (limits : Json.Limits) (server : Config) (registry : Registry) (r : Request) : Response :=
  let method := String.ofList (r.method.toList.map Char.toUpper)
  let allowed (route : Route) := route.methods.contains method
  match Route.ofPath? r.path with
  | some route =>
    if !allowed route then { status := 405, body := none }
    else if method == "OPTIONS" then { status := 200, body := none }
    else
      let response := serve limits server registry r route
      if method == "HEAD" then { response with body := none } else response
  | none =>
    match Route.ofPath? (Route.mergeSlashes r.path) with
    | some route => { status := if allowed route then 308 else 405, body := none }
    | none => { status := 404, body := none }

end Web

end MacroFusion
