import GoldenRun.Disk.Edit
import GoldenRun.Machine
import GoldenRun.Pattern.Tool
import GoldenRun.Trial.Basic

/-!
# Searching for tools

Tools are sought below the root of a toolchain if one is set, and else in the directories of a
search path. The first directory that holds an executable file with a fitting name decides, and of
several such files the first in order. A variable that is blank counts as unset.
-/

namespace GoldenRun

/-- Where tools are sought, and the names of the variables that say so. -/
structure Search where
  searchVariable : String
  rootVariable : String
  searchPath : Option String
  root : Option Path
  deriving DecidableEq

namespace Search

/-- A search with given values, blank ones left out. -/
def new (settings : ToolchainSettings) (searchPath : Option String) (root : Option Path) : Search
    where
  searchVariable := settings.searchVariable
  rootVariable := settings.rootVariable
  searchPath := searchPath.filter (· != "")
  root := root.filter (· != "")

def ofEnvironment (settings : ToolchainSettings) (environment : Environment) : Search :=
  new settings (environment settings.searchVariable) (environment settings.rootVariable)

def directories (search : Search) : List Path :=
  match search.root, search.searchPath with
  | some root, _ => [root, root.join "bin"]
  | none, some path => (Path.ofSearchPath path).filter (· != "")
  | none, none => []

def describe (search : Search) : String :=
  match search.root, search.searchPath with
  | some root, _ => "$" ++ search.rootVariable ++ " (" ++ root ++ ")"
  | none, some _ => "the directories listed in $" ++ search.searchVariable
  | none, none =>
    "nothing ($" ++ search.rootVariable ++ " and $" ++ search.searchVariable ++ " are both unset)"

/-- The executable files of a directory with a fitting name. -/
def candidates (disk : Disk) (pattern : ToolPattern) (directory : Path) : List Path :=
  match disk.list directory with
  | .error _ => []
  | .ok names =>
    (names.filter fun name =>
      pattern.recognises name && disk.isExecutable (directory.join name)).map directory.join

/-- The first in order of the candidates in a directory. The text of the directory is itself taken
for a search path. -/
def firstIn (disk : Disk) (pattern : ToolPattern) (directory : Path) : Option Path :=
  Path.least? ((Path.ofSearchPath directory).flatMap (candidates disk pattern))

def locate (search : Search) (disk : Disk) (tool : Tool) (pattern : ToolPattern) :
    Except Failure Path :=
  match search.directories.findSome? (firstIn disk pattern) with
  | some path => .ok path
  | none =>
    .error (.toolMissing tool pattern.source search.describe search.searchVariable
      search.rootVariable)

/-- Finds assembler and disassembler. Both patterns must be valid before any is sought. -/
def locateBoth (search : Search) (disk : Disk) (settings : ToolchainSettings) :
    Except Failure (Path × Path) := do
  let assembler ← ToolPattern.ofSpec settings.assembler
  let disassembler ← ToolPattern.ofSpec settings.disassembler
  return (← search.locate disk .assembler assembler,
    ← search.locate disk .disassembler disassembler)

end Search

namespace Rig

/-- The rig of settings, with the tools that the environment leads to. -/
def ofSettings (disk : Disk) (environment : Environment) (settings : Settings) :
    Except Failure Rig := do
  let search := Search.ofEnvironment settings.toolchain environment
  let (assembler, disassembler) ← search.locateBoth disk settings.toolchain
  return ⟨settings, assembler, disassembler⟩

end Rig

end GoldenRun
