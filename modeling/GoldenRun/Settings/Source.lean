import GoldenRun.Machine
import GoldenRun.Settings.Json

/-!
# Where settings come from

Settings start from a file, or from the defaults where no file is named. Variables of the
environment then replace the root and the simulator. A variable that is blank counts as unset.
-/

namespace GoldenRun.Settings

def fileVariable : String := "RVTEST_CONFIG"

def rootVariable : String := "RVTEST_ROOT"

def simulatorVariable : String := "RVTEST_SIMULATOR"

def load (disk : Disk) (path : Path) : Except Failure Settings :=
  match disk.readText path with
  | .error fault => .error (.cannotOpen .settings path fault)
  | .ok text =>
    match ofText? text with
    | some settings => .ok settings
    | none => .error (.badSettings path)

/-- Settings with what the environment replaces. -/
def override (environment : Environment) (settings : Settings) : Settings :=
  { settings with
    root := (environment.nonempty? rootVariable).getD settings.root
    simulator :=
      { settings.simulator with
        path := (environment.nonempty? simulatorVariable).or settings.simulator.path } }

/-- The settings that the environment asks for. -/
def ofEnvironment (disk : Disk) (environment : Environment) : Except Failure Settings :=
  match environment.nonempty? fileVariable with
  | some path => (load disk path).map (override environment)
  | none => .ok (override environment {})

/-- The settings of a file that is named outside the environment, or else those that the
environment asks for. -/
def choose (disk : Disk) (environment : Environment) : Option Path → Except Failure Settings
  | some path => (load disk path).map (override environment)
  | none => ofEnvironment disk environment

end GoldenRun.Settings
