import GoldenRun.Duration
import GoldenRun.ExitStatus
import GoldenRun.Fault
import GoldenRun.Path
import GoldenRun.Text.Blank
import GoldenRun.Tool

/-!
# Failures

Why a step of the work did not succeed: its cause, how far the failure reaches, and its wording.
A dump that differs from its golden result is no failure but an ordinary answer.
-/

namespace GoldenRun

/-- Why a text cannot be the name of a test or of a category. -/
inductive NameFlaw
  | blank
  | relative
  | separator
  deriving DecidableEq, Repr

def NameFlaw.message : NameFlaw → String
  | blank => "identifiers must not be empty"
  | relative => "`.` and `..` are not test identifiers"
  | separator => "identifiers must not contain path separators"

/-- Why a step did not succeed. -/
inductive Failure
  | toolMissing (tool : Tool) (pattern searched searchVariable rootVariable : String)
  | badPattern (pattern : String)
  | badSettings (path : Path)
  | cannotOpen (role : Role) (path : Path) (cause : Fault)
  | cannotRead (role : Role) (path : Path) (cause : Fault)
  | cannotWrite (role : Role) (path : Path) (cause : Fault)
  | cannotLaunch (tool : Tool) (program : Path) (cause : Fault)
  | toolFailed (tool : Tool) (status : ExitStatus) (diagnostics : String)
  | timedOut (tool : Tool) (limit : Duration)
  | noInstructions (listing : Path)
  | badName (category name : String) (flaw : NameFlaw)
  | nameClash (first second ident : String)
  deriving DecidableEq, Repr

/-- How far a failure reaches: it ends the whole run, or only the test that met it. -/
inductive Scope
  | run
  | test
  deriving DecidableEq, Repr

namespace Failure

/-- How far a failure reaches. Settings that cannot be opened or read end the run, as do settings,
patterns and tools that are unusable. -/
def scope : Failure → Scope
  | toolMissing .. | badPattern _ | badSettings _ | nameClash .. => .run
  | cannotOpen .settings .. | cannotRead .settings .. => .run
  | _ => .test

def isFatal (failure : Failure) : Bool :=
  failure.scope == .run

/-- What the operating system said, if it was asked. -/
def cause? : Failure → Option Fault
  | cannotOpen _ _ cause | cannotRead _ _ cause | cannotWrite _ _ cause => some cause
  | cannotLaunch _ _ cause => some cause
  | _ => none

/-- The diagnostics of a tool on lines of their own, without trailing white space. -/
def showDiagnostics (diagnostics : String) : String :=
  let trimmed := Text.trimEnd diagnostics
  if trimmed = "" then "" else ":\n" ++ trimmed

def message : Failure → String
  | toolMissing tool pattern searched searchVariable rootVariable =>
    "could not find the " ++ tool.label ++ " (pattern `" ++ pattern ++ "`) in " ++ searched
      ++ ".\nInstall a RISC-V GNU toolchain and either export " ++ searchVariable
      ++ "=<toolchain>/bin:$" ++ searchVariable ++ " or export " ++ rootVariable
      ++ "=<toolchain install dir>"
  | badPattern pattern => "invalid tool pattern `" ++ pattern ++ "`"
  | badSettings path => "invalid harness config " ++ path
  | cannotOpen role path _ => "could not open " ++ role.label ++ " file " ++ path
  | cannotRead role path _ => "could not read " ++ role.label ++ " file " ++ path
  | cannotWrite role path _ => "could not write " ++ role.label ++ " file " ++ path
  | cannotLaunch tool program _ => "failed to launch the " ++ tool.label ++ " (" ++ program ++ ")"
  | toolFailed tool status diagnostics =>
    "the " ++ tool.label ++ " exited with " ++ status.display ++ showDiagnostics diagnostics
  | timedOut tool limit =>
    "the " ++ tool.label ++ " did not finish within " ++ limit.display ++ "s and was killed"
  | noInstructions listing =>
    "disassembly " ++ listing ++ " contains no instructions; did the assembler run?"
  | badName category name flaw =>
    "invalid test identifier `" ++ category ++ "/" ++ name ++ "`: " ++ flaw.message
  | nameClash first second ident =>
    "assembly files `" ++ first ++ ".s` and `" ++ second
      ++ ".s` both generate the test function `" ++ ident ++ "`"

/-- The wording of a failure followed by its cause. -/
def report (failure : Failure) : String :=
  match failure.cause? with
  | some cause => failure.message ++ ": " ++ cause.message
  | none => failure.message

end Failure

end GoldenRun
