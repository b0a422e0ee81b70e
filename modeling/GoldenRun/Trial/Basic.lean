import GoldenRun.Simulation
import GoldenRun.Trial.Name

/-!
# Trials

A trial is one named test. It is run by making the image, simulating it and judging the dump. The
image is made by the first run that needs it and kept for later runs; a failed attempt to make it
again leaves the record of the old one. A run sets the verdict. A trial that has passed when it is
discarded takes the files with it that were made for it.
-/

namespace GoldenRun

/-- The settings of a run, with the tools that were found for it. -/
structure Rig where
  settings : Settings
  assembler : Path
  disassembler : Path
  deriving DecidableEq

namespace Rig

def toolchain (rig : Rig) : Toolchain where
  assembler := rig.assembler
  disassembler := rig.disassembler
  architecture := rig.settings.toolchain.architecture
  convention := rig.settings.toolchain.convention
  limit := rig.settings.toolchain.limit

def simulator (rig : Rig) : Simulator :=
  .ofSettings rig.settings

end Rig

/-- What is known of a test. -/
inductive Verdict
  | unset
  | pass
  | fail
  deriving DecidableEq, Repr

def Verdict.display : Verdict → String
  | unset => "UNSET"
  | pass => "PASS"
  | fail => "FAIL"

/-- One test of a category: its files, the image if one has been made, and the verdict. -/
structure Trial where
  category : String
  name : String
  files : Trial.Files
  image : Option Image
  verdict : Verdict
  deriving DecidableEq

namespace Trial

def new (rig : Rig) (category name : String) : Except Failure Trial := do
  checkName category name
  return ⟨category, name, .locate rig.settings.root category name, none, .unset⟩

def id (trial : Trial) : String :=
  trial.category ++ "/" ++ trial.name

def passed (trial : Trial) : Bool :=
  trial.verdict = .pass

def verdictOf : Except Failure Comparison → Verdict
  | .ok answer => if answer.passed then .pass else .fail
  | .error _ => .fail

/-- Makes the image, whether or not there is one. -/
def build (rig : Rig) (trial : Trial) : Job (Except Failure Image × Trial) := do
  match ← (rig.toolchain.build trial.files).job with
  | .ok image => pure (.ok image, { trial with image := some image })
  | .error failure => pure (.error failure, trial)

def requireImage (rig : Rig) (trial : Trial) : Job (Except Failure Image × Trial) :=
  match trial.image with
  | some image => pure (.ok image, trial)
  | none => trial.build rig

def simulate (rig : Rig) (files : Files) : Attempt Comparison := do
  rig.simulator.invoke files.image files.result
  Comparison.ofFiles rig.settings.lengthRule files.result files.expected

def run (rig : Rig) (trial : Trial) : Job (Except Failure Comparison × Trial) := do
  match ← trial.requireImage rig with
  | (.error failure, trial) => pure (.error failure, { trial with verdict := .fail })
  | (.ok _, trial) =>
    let result ← (simulate rig trial.files).job
    pure (result, { trial with verdict := verdictOf result })

/-- Runs the test, and tells no more than whether it has passed. -/
def check (rig : Rig) (trial : Trial) : Job (Except Failure Bool × Trial) := do
  let (result, trial) ← trial.run rig
  pure (result.map Comparison.passed, trial)

/-- Removes files, as far as they can be removed. -/
def removeAll : List Path → Job Unit
  | [] => pure ()
  | path :: rest => do
    let _ ← Job.request (.removeFile path)
    removeAll rest

/-- Gives up the test. If it has passed, the files that were made for it are removed, unless they
are to be kept. -/
def discard (rig : Rig) (trial : Trial) : Job Unit :=
  if trial.passed ∧ rig.settings.keepArtifacts = false then removeAll trial.files.generated
  else pure ()

end Trial

end GoldenRun
