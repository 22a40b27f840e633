import MacroFusion.Clock
import MacroFusion.Session
import Std.Time.DateTime.Timestamp

/-!
# The command line

Reads what one run needs, hands it to `Session.run`, and carries out what the transcript says.  No
external tool is started and no port is opened here: a binary is reported as one that cannot be
disassembled.
-/

namespace MacroFusion

/-- what is at a path -/
def nodeAt (path : String) : IO (Option Node) := do
  try
    let data ← IO.FS.readBinFile path
    return some (.file { content := .bytes data.toList })
  catch
    | .noFileOrDirectory .. => return none
    | .permissionDenied .. => return some (.file { content := .bytes [], readable := false })
    | _ => return some (.directory [])

/-- everything up to the end of a stream -/
partial def readAll (stream : IO.FS.Stream) (read : ByteArray := .empty) : IO ByteArray := do
  let more ← stream.read 65536
  if more.isEmpty then return read else readAll stream (read ++ more)

def standardInput : IO StandardInput := do
  let stream ← IO.getStdin
  if ← stream.isTty then return .terminal
  return .text (String.ofList (Text.decode (← readAll stream).toList))

/-- whether a run takes its listing from standard input -/
def readsInput (a : CommandLine.Arguments) : Bool :=
  !a.listRules && !a.web && (Session.filled a.objdump).isNone
    && match Session.filled a.file with
      | some file => file == "-"
      | none => true

/-- the files that a run may touch; where the output cannot be written, a directory is in its place -/
def filesFor (a : CommandLine.Arguments) (writable : Bool) : IO FileSystem := do
  let paths := [a.objdump, a.output].filterMap Session.filled
  let bare := FileSystem.bare (paths.foldr (fun path n => path.length + n) 1)
  let fs := match Session.filled a.output with
    | some path => bare.placeDirectory (if writable then directoryOf path else path)
    | none => bare
  match Session.filled a.objdump with
  | none => return fs
  | some path =>
    match ← nodeAt path with
    | some node => return fs.place path node
    | none => return fs
where
  directoryOf (path : String) : String :=
    (if path.toList.head? = some '/' then "/" else "")
      ++ "/".intercalate (Path.tidySteps path).dropLast

/-- one run, up to its transcript -/
def transcript (arguments : List String) (input : StandardInput) (a : CommandLine.Arguments)
    (writable : Bool) : IO (Transcript × Session) := do
  let seconds := (← Std.Time.Timestamp.now).toSecondsSinceUnixEpoch.val.toNat
  let session : Session := { files := ← filesFor a writable, next := 1 }
  let machine : Machine := { outcome := .notStarted "external tools are not started" }
  return session.run (Clock.stamp seconds) { arguments, input, machine }

/-- writes the output file of a run, if there is one; `false` if that fails -/
def writeOutput (a : CommandLine.Arguments) (t : Transcript) (s : Session) : IO Bool := do
  match Session.filled a.output, t.exit with
  | some path, .code 0 =>
    match s.files.look (Path.tidy path) with
    | .node (.file { content := .bytes data, .. }) =>
      try
        IO.FS.writeBinFile path ⟨data.toArray⟩
        return true
      catch _ => return false
    | _ => return true
  | _, _ => return true

/-- prints a transcript; the exit code of the process -/
def print (t : Transcript) : IO UInt32 := do
  (← IO.getStdout).putStr t.output
  (← IO.getStderr).putStr t.errors
  match t.exit with
  | .code n => return n.toUInt32
  | .uncaught _ => return 1

end MacroFusion

open MacroFusion in
def main (arguments : List String) : IO UInt32 := do
  let (a, reads) := match CommandLine.read arguments with
    | .ok (.run a) => (a, readsInput a)
    | _ => ({}, false)
  let input ← if reads then standardInput else pure .terminal
  let (t, s) ← transcript arguments input a true
  if ← writeOutput a t s then print t
  else
    let (t, _) ← transcript arguments input a false
    print t
