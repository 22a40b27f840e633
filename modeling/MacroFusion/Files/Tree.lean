import MacroFusion.Dictionary
import MacroFusion.Path
import MacroFusion.Plugin.Basic

/-!
# File trees

What is below a root, and how a path leads to it.  A path is taken step by step: an empty step and `.`
stay, `..` goes up, a name goes down, and every step has to start at a directory.  Going up from the root
stays at the root.  Where a name is that of a link, the way goes on along the path that the link holds, and
only so many links are followed on one way.  A name that is too long ends the way where it is looked for.

Every directory can be read and searched.  Pipes and devices that can be opened are left out: what is
written to them is not kept.
-/

namespace MacroFusion

/-- what a file holds -/
inductive Content where
  | bytes (data : List UInt8)
  /-- a plugin module -/
  | code (m : PluginModule)

/-- a file; one that is not readable exists all the same -/
structure File where
  content : Content
  readable : Bool := true

/-- what a directory has in it -/
inductive Node where
  | file (f : File)
  | directory (entries : List (String × Node))
  /-- a symbolic link, with the path that it holds -/
  | link (target : String)
  /-- a socket, or what else is neither of these and cannot be opened -/
  | special

namespace Node

def isDirectory : Node → Bool
  | .directory _ => true
  | _ => false

/-- the node at the end of some names -/
def at? : Node → List String → Option Node
  | node, [] => some node
  | .directory entries, name :: rest =>
    match entries.lookup name with
    | some node => node.at? rest
    | none => none
  | _, _ :: _ => none

/-- sets a node at the end of some names, with directories on the way where nothing is yet -/
def put : Node → List String → Node → Node
  | _, [], new => new
  | .directory entries, name :: rest, new =>
    .directory (Dictionary.put name
      (put ((entries.lookup name).getD (.directory [])) rest new) entries)
  | node, _ :: _, _ => node

end Node

/-- a root, the names that lead from it to the working directory, and how many links are followed on the
way along one path -/
structure FileSystem where
  root : Node
  workingDirectory : List String
  greatestLinks : Nat := 40

namespace FileSystem

/-- where a path leads -/
inductive Lead where
  /-- to some names, counted from the root, at which there need not be anything -/
  | to (names : List String)
  | nowhere
  | tooLong
  deriving DecidableEq, Repr

/-- the path that a link holds -/
def link? (fs : FileSystem) (names : List String) : Option String :=
  match fs.root.at? names with
  | some (.link target) => some target
  | _ => none

/-- where some steps lead, if `jump` says where those lead that a link puts in the place of its name -/
def followVia (fs : FileSystem) (jump : List String → List String → Lead) :
    List String → List String → Lead
  | here, [] => .to here
  | here, step :: rest =>
    match fs.root.at? here with
    | some (.directory _) =>
      if Path.isIdle step then fs.followVia jump here rest
      else if step = ".." then fs.followVia jump here.dropLast rest
      else if Path.isTooLongName step then .tooLong
      else match fs.link? (here ++ [step]) with
        | some target =>
          jump (if Path.isAbsolute target then [] else here) (Path.steps target ++ rest)
        | none => fs.followVia jump (here ++ [step]) rest
    | _ => .nowhere

/-- where some steps lead, with a number of links on the way at most -/
def follow (fs : FileSystem) : Nat → List String → List String → Lead
  | 0 => fs.followVia fun _ _ => .nowhere
  | links + 1 => fs.followVia (fs.follow links)

/-- where a path leads, if each of its steps counts; one with a NUL leads nowhere -/
def lead (fs : FileSystem) (path : String) : Lead :=
  if path.toList.contains '\x00' then .nowhere
  else if Path.isTooLong path then .tooLong
  else fs.follow fs.greatestLinks (if Path.isAbsolute path then [] else fs.workingDirectory)
    (Path.steps path)

/-- what a search comes to -/
inductive Found where
  | node (n : Node)
  | nothing
  | tooLong

/-- what is where a path leads -/
def look (fs : FileSystem) (path : String) : Found :=
  match fs.lead path with
  | .to names => match fs.root.at? names with
    | some n => .node n
    | none => .nothing
  | .nowhere => .nothing
  | .tooLong => .tooLong

/-- the node of a path whose every step counts -/
def find? (fs : FileSystem) (path : String) : Option Node :=
  if path.isEmpty then none
  else match fs.look path with
    | .node n => some n
    | .nothing | .tooLong => none

/-- the names to which a tidy path leads, whatever is there -/
def target (fs : FileSystem) (path : String) : List String :=
  (Path.tidySteps path).foldl
    (fun here step => if step = ".." then here.dropLast else here ++ [step])
    (if Path.isAbsolute path then [] else fs.workingDirectory)

/-- puts a node at a path, with directories on the way where nothing is yet -/
def place (fs : FileSystem) (path : String) (node : Node) : FileSystem :=
  { fs with root := fs.root.put (fs.target path) node }

/-- makes a directory at a path, unless something is there -/
def placeDirectory (fs : FileSystem) (path : String) : FileSystem :=
  if (fs.root.at? (fs.target path)).isSome then fs else fs.place path (.directory [])

/-- a tree with an empty working directory at some depth -/
def bare (depth : Nat) : FileSystem :=
  let workingDirectory := List.replicate depth "work"
  { root := (Node.directory []).put workingDirectory (.directory []), workingDirectory }

/-- writes a file; its directory has to exist, and nothing but a file may be there yet -/
def write? (fs : FileSystem) (path : String) (data : List UInt8) : Option FileSystem :=
  match fs.lead (Path.tidy path) with
  | .nowhere | .tooLong => none
  | .to names =>
    match fs.root.at? names with
    | some (.file f) =>
      some { fs with root := fs.root.put names (.file { f with content := .bytes data }) }
    | some _ => none
    | none => some { fs with root := fs.root.put names (.file { content := .bytes data }) }

/-! ## Looking for plugins -/

/-- a name below a directory -/
def join (directory name : String) : String :=
  if directory.isEmpty || Text.endsIn directory "/" then directory ++ name
  else directory ++ "/" ++ name

def isPluginName (name : String) : Bool := Text.endsIn name ".py" && !Text.beginsWith name "__"

def sortNames (names : List String) : List String := names.mergeSort fun a b => !decide (b < a)

/-- whether a path leads to a directory -/
def leadsToDirectory (fs : FileSystem) (path : String) : Bool :=
  match fs.look path with
  | .node node => node.isDirectory
  | .nothing | .tooLong => false

/-- whether what is at a path counts among the files of its directory: all that is neither a directory
nor a link to one -/
def isListed (fs : FileSystem) (path : String) : Node → Bool
  | .directory _ => false
  | .link _ => !fs.leadsToDirectory path
  | .file _ | .special => true

def fileNames (fs : FileSystem) (path : String) (entries : List (String × Node)) : List String :=
  (entries.filter fun e => fs.isListed (join path e.1) e.2).map (·.1)

mutual

/-- the plugin files below a node, which `path` leads to: for each directory first its own, then those
of its subdirectories, each in the order of names; a directory whose path is too long cannot be read -/
def pluginFiles (fs : FileSystem) (path : String) : Node → List String
  | .directory entries =>
    if Path.isTooLong path then []
    else ((sortNames (fs.fileNames path entries)).filter isPluginName).map (join path)
      ++ ((fs.pluginFilesBelow path entries).mergeSort fun a b => !decide (b.1 < a.1)).flatMap (·.2)
  | _ => []

/-- the plugin files of each subdirectory, with its name -/
def pluginFilesBelow (fs : FileSystem) (path : String) :
    List (String × Node) → List (String × List String)
  | [] => []
  | (name, node) :: rest =>
    if node.isDirectory then
      (name, fs.pluginFiles (join path name) node) :: fs.pluginFilesBelow path rest
    else fs.pluginFilesBelow path rest

end

end FileSystem

end MacroFusion
