import MacroFusion.Catalog.NeoverseV2
import MacroFusion.Registry

/-!
# Plugins

A plugin is a class of a plugin module.  The program makes one instance of it and asks this for a
catalog, a name and a version.  A module cannot be imported, or ends the program, or defines classes; of
these the first one by name is used that derives from the plugin interface and leaves nothing abstract.

The code of a plugin is not the program's own.  It is taken to answer what it is asked, with the same
answer each time, or to fail; either way it leaves the registry and the loaded plugins alone.
-/

namespace MacroFusion

/-- what an instance answers when it is asked for its catalog -/
inductive Offer where
  /-- something that is no catalog -/
  | nothing
  /-- the built-in catalog itself -/
  | builtIn
  /-- a new catalog each time -/
  | catalog (c : Catalog)
  /-- a failure while it is built -/
  | fails (f : Fault)

/-- a class of a plugin module -/
structure PluginClass where
  className : String
  /-- what its instances answer when they are asked for their name, and for their version -/
  name : Except Fault String
  version : Except Fault String := .ok "1.0"
  description : String := ""
  author : String := ""
  /-- derives from the plugin interface -/
  derived : Bool := true
  /-- leaves something abstract -/
  isAbstract : Bool := false
  /-- what the constructor fails with -/
  constructorFailure : Option Fault := none
  offer : Offer

/-- a plugin module -/
inductive PluginModule where
  /-- it cannot be imported -/
  | broken
  /-- its import ends the program, and no handler keeps this back -/
  | exits (status : Nat)
  | classes (cs : List PluginClass)

/-- how an instance is called in the notes: it is asked for its name, and then for its version -/
def PluginClass.label (c : PluginClass) : Except Fault String := do
  let name ← c.name
  let version ← c.version
  return name ++ " v" ++ version

/-- an instance of a plugin class (a `CatalogPlugin`), told from others by its serial number -/
structure Plugin where
  serial : Nat
  cls : PluginClass

namespace PluginModule

/-- the classes by name: of two with one name the last one counts -/
def byName (cs : List PluginClass) : Dictionary PluginClass :=
  (cs.foldl (fun d c => Dictionary.put c.className c d) []).mergeSort fun a b => !decide (b.1 < a.1)

/-- the class that is used -/
def chosen? : PluginModule → Option PluginClass
  | .broken | .exits _ => none
  | .classes cs => ((byName cs).map (·.2)).find? fun c => c.derived && !c.isAbstract

/-- the module that comes with the program -/
def shipped : PluginModule :=
  .classes [{
    className := "NeoverseV2Catalog"
    name := .ok "NeoverseV2Catalog"
    version := .ok "1.0.0"
    description := "Neoverse-N1 baseline versus a Neoverse-V2 style core"
    author := "fusioncheck contributors"
    offer := .catalog .neoverseV2 }]

end PluginModule

/-- the catalog of an offer, numbered if it is a new one; who offers no catalog is asked for a name -/
def Offer.edition (o : Offer) (name : Except Fault String) (serial : Nat) : Except Fault Edition :=
  match o with
  | .nothing => name.bind fun plugin => .error (.notACatalog plugin)
  | .builtIn => .ok .builtIn
  | .catalog c => .ok ⟨serial, c⟩
  | .fails f => .error f

end MacroFusion
