import GoldenRun.Command.Execution

/-!
# Command line

The files below the current directory and in the directories in which tools are sought are read
into a file system, a command works on it, and what it changed is written back. Whether a file may
be executed cannot be asked here, so every file counts as executable; and no program is launched
from here, so each launch is refused.
-/

namespace GoldenRun.CommandLine

def pathOf (place : Place) : String :=
  "/" ++ "/".intercalate place

/-- A file system with the directories that lead to a place. -/
def plant (disk : Disk) (place : Place) : Disk :=
  (List.range place.length).foldl (fun d i => d.put (place.take (i + 1)) .directory) disk

/-- Reads entries of a directory, with all that is below them if the contents of files matter. -/
partial def readEntries (contents : Bool) (place : Place) (disk : Disk)
    (entries : List IO.FS.DirEntry) : IO Disk :=
  entries.foldlM (fun disk entry => do
    let here := place ++ [entry.fileName]
    try
      match (← entry.path.metadata).type with
      | .dir =>
        let made := disk.put here .directory
        if contents then readEntries contents here made (← entry.path.readDir).toList
        else return made
      | .file =>
        let data ← if contents then IO.FS.readBinFile entry.path else pure .empty
        return disk.put here (.file data.toList true)
      | _ => return disk
    catch _ => return disk) disk

def readDirectory (contents : Bool) (disk : Disk) (place : Place) : IO Disk := do
  try
    let entries ← (System.mkFilePath [pathOf place]).readDir
    readEntries contents place (plant disk place) entries.toList
  catch _ => return disk

/-- Writes back what a command changed. -/
def writeBack (before after : Disk) : IO Unit := do
  for (place, entry) in before.entries do
    match entry, after.at? place with
    | .file _ _, none => IO.FS.removeFile (pathOf place)
    | _, _ => pure ()
  for (place, entry) in after.entries.mergeSort fun a b => a.1.length ≤ b.1.length do
    if before.at? place ≠ some entry then
      match entry with
      | .directory => IO.FS.createDirAll (pathOf place)
      | .file data _ => IO.FS.writeBinFile (pathOf place) (ByteArray.mk data.toArray)
      | .link _ => pure ()

def readEnvironment (names : List String) : IO Environment := do
  let values ← names.mapM fun name => return (name, ← IO.getEnv name)
  return fun name => (values.lookup name).join

def settingsVariables : List String :=
  [Settings.fileVariable, Settings.rootVariable, Settings.simulatorVariable, "PATH"]

/-- The settings of an invocation, or the defaults where there are none. -/
def settingsOf (disk : Disk) (environment : Environment) : Invocation → Settings
  | .version => {}
  | .command path _ =>
    match Settings.choose disk environment path with
    | .ok settings => settings
    | .error _ => {}

def execute (invocation : Invocation) : IO Report := do
  let home := Path.steps (← IO.currentDir).toString
  let below ← readDirectory true (plant (Disk.empty home) home) home
  let tools := (settingsOf below (← readEnvironment settingsVariables) invocation).toolchain
  let environment ←
    readEnvironment (settingsVariables ++ [tools.searchVariable, tools.rootVariable])
  let directories := (Search.ofEnvironment tools environment).directories.filter Path.isAbsolute
  let before ← (directories.map Path.steps).foldlM (readDirectory false) below
  let (report, after) := invocation.execute ⟨environment, fun _ => .error .denied⟩ before
  writeBack before after
  return report

end GoldenRun.CommandLine

/-- Executes the command that the arguments spell. -/
def main (arguments : List String) : IO UInt32 := do
  match GoldenRun.Command.parse? arguments with
  | none =>
    IO.eprintln "usage: rvtest [--config FILE] run|build|generate|locate [OPTIONS]"
    return 2
  | some invocation =>
    let report ← GoldenRun.CommandLine.execute invocation
    IO.print report.output
    IO.eprint report.errors
    return UInt32.ofNat report.code
