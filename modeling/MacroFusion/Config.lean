import MacroFusion.Fault
import MacroFusion.Registry

/-!
# Configuration

The options of one run.  `Settings` are the options as given; `Settings.check` refuses the ones that
make no sense and fills in what is left open, and only a `Config` is run.
-/

namespace MacroFusion

/-- the forms of a report -/
inductive Format where
  | markdown | json
  deriving DecidableEq, Repr

def Format.label : Format → String
  | .markdown => "markdown"
  | .json => "json"

def Format.ofLabel? (label : String) : Option Format :=
  [Format.markdown, Format.json].find? (·.label == label)

/-- options as given -/
structure Settings where
  filter : Option String := none
  verbose : Bool := false
  catalog : String := defaultCatalog
  /-- left open, it follows from `verbose` -/
  exampleLimit : Option Int := none
  missExampleLimit : Int := 3
  topFunctions : Int := 20
  workers : Int := 1
  format : String := "markdown"
  deriving DecidableEq, Repr

/-- options that can be run -/
structure Config where
  /-- only functions whose name contains this are scanned -/
  filter : Option String := none
  verbose : Bool := false
  catalog : String := defaultCatalog
  /-- how many examples of each category a report keeps -/
  exampleLimit : Nat := if verbose then 50 else 0
  /-- how many examples of each missed pattern a report keeps -/
  missExampleLimit : Nat := 3
  /-- how many functions the breakdown lists -/
  topFunctions : Nat := 20
  workers : Nat := 1
  format : Format := .markdown
  workers_pos : 0 < workers := by decide
  deriving DecidableEq, Repr

namespace Settings

/-- a limit that must not be negative -/
def checkLimit (limit : Limit) (value : Int) : Except Fault Nat :=
  if value < 0 then .error (.negativeLimit limit) else .ok value.toNat

/-- without a limit, verbose runs keep fifty examples and others none -/
def exampleLimitOrDefault (s : Settings) : Int := s.exampleLimit.getD (if s.verbose then 50 else 0)

/-- the configuration, or the first fault of the options -/
def check (s : Settings) : Except Fault Config := do
  let exampleLimit ← checkLimit .examples s.exampleLimitOrDefault
  let missExampleLimit ← checkLimit .missExamples s.missExampleLimit
  let topFunctions ← checkLimit .topFunctions s.topFunctions
  if h : 0 < s.workers then
    match Format.ofLabel? s.format with
    | none => .error (.unknownFormat s.format)
    | some format =>
      return {
        filter := s.filter, verbose := s.verbose, catalog := s.catalog
        exampleLimit, missExampleLimit, topFunctions
        workers := s.workers.toNat, format
        workers_pos := by omega }
  else .error .tooFewWorkers

/-- the settings that a command line or a request leaves: an empty catalog or format is none -/
def ofOptions (filter : Option String) (verbose : Bool) (catalog : Option String) (workers : Int)
    (format : Option String) : Settings :=
  let given (text : Option String) (otherwise : String) : String :=
    match text with
    | some s => if s.isEmpty then otherwise else s
    | none => otherwise
  { filter, verbose, catalog := given catalog defaultCatalog, workers
    format := given format "markdown" }

end Settings

end MacroFusion
