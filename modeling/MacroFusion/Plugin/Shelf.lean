import MacroFusion.Files.Tree
import MacroFusion.Log

/-!
# Shelves of plugins

A shelf looks for plugin files below a directory, loads them and registers their catalogs.  A load first
finds the class, makes an instance and asks this for its catalog; then it registers the catalog and puts
the plugin at the end of the shelf; and then it asks the plugin for name and version, for the note on it.
What fails before the plugin is put up leaves all as it was.  What fails after that leaves the plugin on
the shelf and its catalog in the registry.

Loading a whole directory skips the files whose failure has a diagnostic; any other failure ends it.
-/

namespace MacroFusion

/-- the loaded plugins of one `PluginManager`, and the directory that it searches -/
structure Shelf where
  directory : String
  plugins : List Plugin := []

/-- a `PluginManager` at work: its shelf, the registry of the whole process, to which `register_catalog` and
`unregister_catalog` apply, and the serial number that comes next -/
structure Workshop where
  shelf : Shelf
  registry : Registry
  next : Nat

namespace Shelf

def note (level : Log.Level) (message : String) : Log.Entry := ⟨level, .plugins, message⟩

/-- the note on a new shelf -/
def opening (directory : String) : Log :=
  [note .debug ("PluginManager initialized with plugin directory: " ++ directory)]

/-- the directory to search: the one given, unless it is empty, else that of the shelf -/
def searched (s : Shelf) (directory : Option String) : String :=
  match directory with
  | some d => if d.isEmpty then s.directory else d
  | none => s.directory

/-- the plugin files below a directory -/
def discover (fs : FileSystem) (directory : String) : List String :=
  match fs.find? directory with
  | some node => fs.pluginFiles directory node
  | none => []

/-- the notes on a search -/
def discoverLog (fs : FileSystem) (directory : String) : Log :=
  match fs.find? directory with
  | none => [note .warning ("Plugin directory does not exist: " ++ directory)]
  | some _ =>
    let found := discover fs directory
    note .info ("Discovering plugins in: " ++ directory)
      :: found.map (fun path => note .debug ("Discovered plugin file: " ++ path))
      ++ [note .info ("Discovered " ++ toString found.length ++ " plugin file(s)")]

end Shelf

/-- the module that a file makes: text is one only if there is nothing in it -/
def Content.module : Content → PluginModule
  | .code m => m
  | .bytes data => if data.isEmpty then .classes [] else .broken

/-- the place of a plugin file: slashes at the end of a relative path do not count -/
def pluginPlace (path : String) : String := if Path.isAbsolute path then path else Path.trimEnd path

/-- the plugin class of a path; a compiled module is never one that can be loaded -/
def FileSystem.pluginClass (fs : FileSystem) (path : String) : Except Fault PluginClass :=
  let place := pluginPlace path
  if Text.endsIn place ".pyc" then .error (.pluginLoadFailed path)
  else if !Text.endsIn place ".py" then .error (.noPluginModule path)
  else match fs.find? place with
    | some (.file f) =>
      match f.content.module with
      | .broken => .error (.pluginLoadFailed path)
      | .exits status => .error (.exitRequested status)
      | m =>
        match m.chosen? with
        | some c => .ok c
        | none => .error (.noPluginClass path)
    | _ => .error (.pluginLoadFailed path)

namespace Workshop

/-- a name that is taken is the plugin's fault -/
def blamePlugin : Fault → Fault
  | .duplicateCatalog name => .pluginConflict name
  | f => f

/-- what is done in a workshop: it may fail, and the workshop is then as it was left -/
abbrev Step := ExceptT Fault (StateM Workshop)

/-- makes an instance of a class, under the number that comes next -/
def instantiate (cls : PluginClass) : Step Plugin := do
  match cls.constructorFailure with
  | some f => throw f
  | none => return ⟨(← get).next, cls⟩

/-- asks an instance for its catalog; a new one has the number after that of the instance -/
def catalogOf (plugin : Plugin) : Step Edition :=
  plugin.cls.offer.edition plugin.cls.name (plugin.serial + 1)

/-- enters a catalog into the registry -/
def enter (edition : Edition) : Step Unit := do
  let w ← get
  let registry ← (w.registry.register edition false).mapError blamePlugin
  set { w with registry }

/-- puts a plugin at the end of the shelf; its number and that of its catalog are then used up -/
def putUp (plugin : Plugin) : Step Unit := do
  let w ← get
  set { w with
    shelf := { w.shelf with plugins := w.shelf.plugins ++ [plugin] }
    next := plugin.serial + 2 }

/-- what a load hands out -/
structure Loaded where
  plugin : Plugin
  edition : Edition
  /-- what the plugin is called in the note on it -/
  label : String

/-- the steps in which the plugin at a path is loaded and its catalog registered; the label is asked for
when all is done -/
def loading (fs : FileSystem) (path : String) : Step Loaded := do
  let cls ← fs.pluginClass path
  let plugin ← instantiate cls
  let edition ← catalogOf plugin
  enter edition
  putUp plugin
  let label ← plugin.cls.label
  return { plugin, edition, label }

/-- loads the plugin at a path: what is handed out, or a fault, and the workshop as it then is -/
def load (w : Workshop) (fs : FileSystem) (path : String) : Except Fault Loaded × Workshop :=
  (loading fs path).run w

/-- the notes on loading -/
def loadLog (path : String) (result : Except Fault Loaded) : Log :=
  Shelf.note .info ("Loading plugin from: " ++ path) ::
    match result with
    | .error _ => []
    | .ok loaded =>
      [Shelf.note .info ("Loaded plugin: " ++ loaded.label
        ++ " (catalog '" ++ loaded.edition.catalog.name ++ "')")]

/-- whether a fault is a plugin's own and can be skipped -/
def isPluginFault (f : Fault) : Option Diagnostic :=
  match f.diagnostic? with
  | some d => if d.kind = .plugin then some d else none
  | none => none

/-- what follows on the loading of one file: the rest is loaded, unless a fault ends it all -/
def goOn (path : String) (rest : Workshop → Except Fault Nat × Log × Workshop)
    (outcome : Except Fault Loaded × Workshop) : Except Fault Nat × Log × Workshop :=
  let log := loadLog path outcome.1
  match outcome.1 with
  | .ok _ =>
    let (count, more, w) := rest outcome.2
    (count.map (· + 1), log ++ more, w)
  | .error f =>
    match isPluginFault f with
    | some d =>
      let (count, more, w) := rest outcome.2
      (count, log ++ Shelf.note .error d.message :: more, w)
    | none => (.error f, log, outcome.2)

/-- loads the plugins at some paths: how many loads succeeded, or the fault that ended it, with the notes
and the workshop as it then is -/
def loadEach (fs : FileSystem) : List String → Workshop → Except Fault Nat × Log × Workshop
  | [], w => (.ok 0, [], w)
  | path :: rest, w => goOn path (loadEach fs rest) (w.load fs path)

/-- loads all plugins below a directory -/
def loadAll (w : Workshop) (fs : FileSystem) (directory : Option String) :
    Except Fault Nat × Log × Workshop :=
  let searched := w.shelf.searched directory
  let (count, log, w) := loadEach fs (Shelf.discover fs searched) w
  let closing := match count with
    | .ok n => [Shelf.note .info ("Loaded " ++ toString n ++ " plugin(s) successfully")]
    | .error _ => []
  (count, Shelf.discoverLog fs searched ++ log ++ closing, w)

/-- the first loaded plugin of a name; each one is asked until then -/
def find? (w : Workshop) (name : String) : Except Fault (Option Plugin) :=
  w.shelf.plugins.findM? fun plugin => plugin.cls.name.map (· == name)

/-- takes a plugin off the shelf and its catalog out of the registry; `false` if it is not there.  Its name
is asked for when this is done. -/
def unload (w : Workshop) (plugin : Plugin) : Except Fault Bool × Log × Workshop :=
  if !w.shelf.plugins.any (·.serial = plugin.serial) then (.ok false, [], w)
  else
    let shelf :=
      { w.shelf with plugins := w.shelf.plugins.eraseP (·.serial = plugin.serial) }
    match plugin.cls.offer.edition plugin.cls.name w.next with
    | .error f => (.error f, [], { w with shelf })
    | .ok e =>
      let log := plugin.cls.name.map fun name => [Shelf.note .info ("Unloaded plugin: " ++ name)]
      (log.map fun _ => true, log.toOption.getD [],
        { shelf, registry := (w.registry.unregister e.catalog.name).2, next := w.next + 1 })

end Workshop

end MacroFusion
