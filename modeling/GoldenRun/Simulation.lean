import GoldenRun.Image
import GoldenRun.Settings.Basic

/-!
# Simulation

The simulator is launched on an image and writes its dump. An old dump is removed before, so only
what this launch leaves can be judged. How the simulator ends does not matter.
-/

namespace GoldenRun

/-- A simulator, and how it is launched. -/
structure Simulator where
  program : Path
  quiet : Bool := true
  memorySize : Option Nat := none
  limit : Option Duration := none
  deriving DecidableEq

namespace Simulator

open Attempt

def ofSettings (settings : Settings) : Simulator where
  program := settings.simulatorPath
  quiet := settings.simulator.quiet
  memorySize := settings.simulator.memorySize
  limit := settings.simulator.limit

def arguments (simulator : Simulator) (image result : Path) : List String :=
  [image, "--dump-to", result]
    ++ (if simulator.quiet then ["--quiet"] else [])
    ++ (match simulator.memorySize with
      | some size => ["-s", Nat.repr size]
      | none => [])

def command (simulator : Simulator) (image result : Path) : Launch where
  program := simulator.program
  arguments := simulator.arguments image result
  output := none
  limit := simulator.limit

/-- Makes the directory of the dump, and removes an old one. -/
def clear (result : Path) : Attempt Unit := do
  prepareDirectory .actual result
  match ← ask (.removeFile result) with
  | .ok () => pure ()
  | .error .missing => pure ()
  | .error fault => fail (.cannotWrite .actual result fault)

def invoke (simulator : Simulator) (image result : Path) : Attempt Unit := do
  clear result
  let _ ← launch .simulator (simulator.command image result)

end Simulator

namespace Comparison

open Attempt

/-- Compares the dump in a file with the golden result in another. -/
def ofFiles (rule : LengthRule) (actual expected : Path) : Attempt Comparison := do
  let dump ← granted (← ask (.openFile actual)) (.cannotOpen .actual actual)
  let golden ← granted (← ask (.openFile expected)) (.cannotOpen .expected expected)
  let goldenStream ← ask (.read golden)
  let dumpStream ← ask (.read dump)
  match ofStreams rule goldenStream dumpStream with
  | .ok answer => pure answer
  | .error (.expected, fault) => fail (.cannotRead .expected expected fault)
  | .error (.actual, fault) => fail (.cannotRead .actual actual fault)

end Comparison

end GoldenRun
