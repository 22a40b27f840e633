import MacroFusion.Catalog.AppleM
import MacroFusion.Fault

/-!
# The registry of catalogs

Catalogs are looked up by name.  The registry tells catalogs that were built apart from each other
even if they read the same: each carries a serial number, and the built-in one carries the number
zero.  Registering a catalog again under its own name is no conflict; registering another one is.

The built-in catalog can be replaced but not removed, so there always is a default.
-/

namespace MacroFusion

/-- a `RuleCatalog` object: a catalog with the number under which it was built -/
structure Edition where
  serial : Nat
  catalog : Catalog

def Edition.builtIn : Edition := ⟨0, .appleM⟩

def defaultCatalog : String := Catalog.appleM.name

/-- the catalogs by name, in the order of their registration -/
structure Registry where
  entries : Dictionary Edition

namespace Registry

/-- just the built-in catalog -/
def fresh : Registry := ⟨[(defaultCatalog, .builtIn)]⟩

def find? (r : Registry) (name : String) : Option Edition := r.entries.lookup name

/-- adds a catalog under its name, or sets it in the place of another one if asked to -/
def register (r : Registry) (e : Edition) (replacing : Bool) : Except Fault Registry :=
  match r.find? e.catalog.name with
  | some known =>
    if replacing then .ok ⟨r.entries.put e.catalog.name e⟩
    else if known.serial = e.serial then .ok r
    else .error (.duplicateCatalog e.catalog.name)
  | none => .ok ⟨r.entries.put e.catalog.name e⟩

/-- removes a catalog and hands it out; the default one stays -/
def unregister (r : Registry) (name : String) : Option Edition × Registry :=
  if name = defaultCatalog then (none, r)
  else (r.find? name, ⟨r.entries.remove name⟩)

/-- the catalog of a name; the empty name means the default -/
def get (r : Registry) (name : String) : Except Fault Edition :=
  let key := if name.isEmpty then defaultCatalog else name
  match r.find? key with
  | some e => .ok e
  | none => .error (.unknownCatalog key)

/-- the registered names in the order of code points -/
def available (r : Registry) : List String := r.entries.keys.mergeSort fun a b => !decide (b < a)

/-- one block of lines for every registered name -/
def list (r : Registry) : Except Fault String := do
  let editions ← r.available.mapM r.get
  return "\n".intercalate (editions.flatMap (·.catalog.summaryLines))

end Registry

end MacroFusion
