import GoldenRun.Listing.Cursor
import GoldenRun.Job
import GoldenRun.Trial.Files

/-!
# Memory images

A source is assembled to an object, the object is disassembled to a listing, and the instructions of
the listing make up the image: one line for each, in their order. Every step makes the directory of
the file it writes, and a step that fails ends the work.
-/

namespace GoldenRun

/-- An image that was written, and how many instructions it holds. -/
structure Image where
  path : Path
  instructions : Nat
  deriving DecidableEq, Repr

namespace Attempt

/-- Makes the directory of a file that is about to be written. -/
def prepareDirectory (role : Role) (path : Path) : Attempt Unit :=
  match path.directory? with
  | none => pure ()
  | some directory => do
    granted (← ask (.makeDirectories directory)) (.cannotWrite role directory)

/-- Launches a tool and waits for it. It must come to its end in time. -/
def launch (tool : Tool) (command : Launch) : Attempt (ExitStatus × Bytes) := do
  let finished ← granted (← ask (.launch command)) (.cannotLaunch tool command.program)
  match finished.status with
  | some status => pure (status, finished.diagnostics)
  | none => fail (.timedOut tool (command.limit.getD (.ofSeconds 0)))

def launchChecked (tool : Tool) (command : Launch) : Attempt Unit := do
  let (status, diagnostics) ← launch tool command
  if status.isSuccess then pure ()
  else fail (.toolFailed tool status (String.ofList (Utf8.decodeLossy diagnostics)))

end Attempt

namespace Image

open Attempt

def text (instructions : List Instruction) : Bytes :=
  instructions.flatMap fun i => Utf8.encode (i.display ++ ['\n'])

/-- Writes the instructions of a listing to an image, and counts them. Instructions in front of a
line that is no text are still written then, but the line is reported even if that fails. -/
def extract (listing image : Path) : Attempt Nat := do
  let input ← granted (← ask (.openFile listing)) (.cannotOpen .listing listing)
  prepareDirectory .image image
  let output ← granted (← ask (.createFile image)) (.cannotWrite .image image)
  let stream ← ask (.read input)
  let (instructions, fault) := stream.instructions
  let written ← ask (.write output (text instructions))
  match fault with
  | some fault => fail (.cannotRead .listing listing fault)
  | none =>
    if instructions = [] then fail (.noInstructions listing)
    else do
      granted written (.cannotWrite .image image)
      pure instructions.length

end Image

/-- Assembler and disassembler, and how they are used. -/
structure Toolchain where
  assembler : Path
  disassembler : Path
  architecture : String
  convention : String
  limit : Option Duration
  deriving DecidableEq

namespace Toolchain

open Attempt

def assembleCommand (tools : Toolchain) (source object : Path) : Launch where
  program := tools.assembler
  arguments :=
    ["-march=" ++ tools.architecture, "-mabi=" ++ tools.convention, source, "-o", object]
  output := none
  limit := tools.limit

/-- The command that disassembles an object into an open file. -/
def disassembleCommand (tools : Toolchain) (object : Path) (output : Place) : Launch where
  program := tools.disassembler
  arguments := ["-d", object]
  output := some output
  limit := tools.limit

/-- Assembles a source, which must be a regular file. -/
def assemble (tools : Toolchain) (source object : Path) : Attempt Unit := do
  if ← ask (.isFile source) then
    prepareDirectory .object object
    launchChecked .assembler (tools.assembleCommand source object)
  else fail (.cannotOpen .source source .notFound)

def disassemble (tools : Toolchain) (object listing : Path) : Attempt Unit := do
  prepareDirectory .listing listing
  let output ← granted (← ask (.createFile listing)) (.cannotWrite .listing listing)
  launchChecked .disassembler (tools.disassembleCommand object output)

/-- Makes the image of a test from its source. -/
def build (tools : Toolchain) (files : Trial.Files) : Attempt Image := do
  tools.assemble files.source files.object
  tools.disassemble files.object files.listing
  let instructions ← Image.extract files.listing files.image
  pure ⟨files.image, instructions⟩

end Toolchain

end GoldenRun
