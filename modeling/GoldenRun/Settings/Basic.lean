import GoldenRun.Comparison
import GoldenRun.Duration
import GoldenRun.Path

/-!
# Settings

Everything that a run can be told: where the corpus is, how the simulator is launched, how tools
are found and used, and what counts as a pass. Every setting has a default.
-/

namespace GoldenRun

/-- How the file name of a tool is recognised. -/
inductive PatternSpec
  | substring (text : String)
  | regex (text : String)
  deriving DecidableEq, Repr

namespace PatternSpec

/-- The file names of assemblers of the common naming scheme. -/
def defaultAssembler : PatternSpec :=
  .regex "^riscv(32|64)-[A-Za-z0-9_]+(-[A-Za-z0-9_]+)*-as(\\.exe)?$"

def defaultDisassembler : PatternSpec :=
  .regex "^riscv(32|64)-[A-Za-z0-9_]+(-[A-Za-z0-9_]+)*-objdump(\\.exe)?$"

end PatternSpec

/-- How the simulator is launched. Without a path it is sought below the root. -/
structure SimulatorSettings where
  path : Option Path := none
  quiet : Bool := true
  memorySize : Option Nat := none
  limit : Option Duration := none
  deriving DecidableEq

/-- How assembler and disassembler are found and used. -/
structure ToolchainSettings where
  searchVariable : String := "PATH"
  rootVariable : String := "RISCV"
  assembler : PatternSpec := .defaultAssembler
  disassembler : PatternSpec := .defaultDisassembler
  architecture : String := "rv32i"
  convention : String := "ilp32"
  limit : Option Duration := none
  deriving DecidableEq

/-- Everything that a run can be told. -/
structure Settings where
  root : Path := "."
  simulator : SimulatorSettings := {}
  toolchain : ToolchainSettings := {}
  lengthRule : LengthRule := .lenient
  keepArtifacts : Bool := false
  deriving DecidableEq

namespace Settings

def builtSimulator : Path := "target/release/riscv-sim"

/-- The simulator that is launched: the one that is set, or the one built below the root. -/
def simulatorPath (settings : Settings) : Path :=
  settings.simulator.path.getD (settings.root.join builtSimulator)

end Settings

end GoldenRun
