import GoldenRun.Batch
import GoldenRun.Command.Arguments
import GoldenRun.Search
import GoldenRun.Settings.Source
import GoldenRun.Suite.Generation

/-!
# Executing commands

What a command prints, how it ends, and what it leaves in the file system. A failure outside a test
ends a command at once.
-/

namespace GoldenRun

/-- The end of a command: its exit code and what it printed. -/
structure Report where
  code : Nat
  output : String
  errors : String
  deriving DecidableEq, Repr

namespace Command

def failed (output : String) (failure : Failure) : Report :=
  ⟨1, output, "error: " ++ failure.report ++ "\n"⟩

def succeeded (output : String) : Report :=
  ⟨0, output, ""⟩

/-- The settings as options of a run change them. What is switched on already stays so. -/
def adjust (settings : Settings) (keepArtifacts strict : Bool) : Settings :=
  { settings with
    keepArtifacts := settings.keepArtifacts || keepArtifacts
    lengthRule := if strict then .strict else settings.lengthRule }

/-- The tests to be run: those that are named, or all that there are. -/
def testsToRun (disk : Disk) (rig : Rig) (category : String) (names : List String) :
    Except Failure (List String) :=
  if names = [] then
    Corpus.discover disk (Trial.assemblyDirectory rig.settings.root category)
  else .ok names

def batchReport (category : String) (result : List Entrant × Option Failure) : Report :=
  let lines := Batch.lines category result.1
  match result.2 with
  | some failure => failed lines failure
  | none =>
    ⟨if Batch.allPassed result.1 then 0 else 1, lines ++ Batch.summary result.1, ""⟩

def executeRun (machine : Machine) (disk : Disk) (settings : Settings) (category : String)
    (names : List String) : Report × Disk :=
  match Rig.ofSettings disk machine.environment settings with
  | .error failure => (failed "" failure, disk)
  | .ok rig =>
    match testsToRun disk rig category names with
    | .error failure => (failed "" failure, disk)
    | .ok [] => (⟨1, "", "no tests found in category `" ++ category ++ "`\n"⟩, disk)
    | .ok tests =>
      let (result, after) := machine.run (Batch.runAll rig category tests) disk
      (batchReport category result, after)

def executeBuild (machine : Machine) (disk : Disk) (settings : Settings) (category name : String) :
    Report × Disk :=
  match Rig.ofSettings disk machine.environment settings with
  | .error failure => (failed "" failure, disk)
  | .ok rig =>
    match Trial.new rig category name with
    | .error failure => (failed "" failure, disk)
    | .ok trial =>
      match machine.run (trial.build rig) disk with
      | ((.error failure, _), after) => (failed "" failure, after)
      | ((.ok image, _), after) =>
        (succeeded (image.path ++ " (" ++ Nat.repr image.instructions ++ " instructions)\n"), after)

def executeGenerate (disk : Disk) (settings : Settings) (category : String)
    (directory : Option Path) (output : Path) : Report × Disk :=
  let source := directory.getD (Trial.assemblyDirectory settings.root category)
  let generation := Suite.generate disk source output category
  match generation.answer with
  | .error failure => (failed "" failure, generation.disk)
  | .ok count => (succeeded (Nat.repr count ++ " tests -> " ++ output ++ "\n"), generation.disk)

def executeLocate (machine : Machine) (disk : Disk) (settings : Settings) : Report :=
  match Rig.ofSettings disk machine.environment settings with
  | .error failure => failed "" failure
  | .ok rig =>
    succeeded
      ("assembler:    " ++ rig.assembler ++ "\n"
        ++ "disassembler: " ++ rig.disassembler ++ "\n"
        ++ "simulator:    " ++ settings.simulatorPath ++ "\n")

def execute (machine : Machine) (disk : Disk) (settings : Settings) : Command → Report × Disk
  | run category names keepArtifacts strict =>
    executeRun machine disk (adjust settings keepArtifacts strict) category names
  | build category name => executeBuild machine disk settings category name
  | generate category directory output => executeGenerate disk settings category directory output
  | locate => (executeLocate machine disk settings, disk)

def version : String :=
  "rvtest 0.3.0\n"

end Command

namespace Invocation

/-- Executes an invocation. The settings are read before anything else is done. -/
def execute (machine : Machine) (disk : Disk) : Invocation → Report × Disk
  | version => (Command.succeeded Command.version, disk)
  | command path c =>
    match Settings.choose disk machine.environment path with
    | .error failure => (Command.failed "" failure, disk)
    | .ok settings => c.execute machine disk settings

end Invocation

end GoldenRun
