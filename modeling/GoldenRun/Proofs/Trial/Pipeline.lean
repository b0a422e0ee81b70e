import GoldenRun.Proofs.Comparison
import GoldenRun.Proofs.Machine.Tools

/-!
# What a test comes to

The result of a test as a function of its source, of its golden result and of what the three tools
do. No file system stands between one step and the next.
-/

namespace GoldenRun

/-- What the tools do that a test uses. -/
structure Crew where
  assembler : Custom
  disassembler : Custom
  simulator : Custom

namespace Rig

variable (rig : Rig) (files : Trial.Files)

def assembling : Call where
  program := rig.assembler
  arguments := (rig.toolchain.assembleCommand files.source files.object).arguments
  limit := rig.toolchain.limit
  input := files.source
  target := some files.object

/-- How the disassembler is called. It prints the listing. -/
def disassembling : Call where
  program := rig.disassembler
  arguments := ["-d", files.object]
  limit := rig.toolchain.limit
  input := files.object
  target := none

def simulating : Call where
  program := rig.simulator.program
  arguments := rig.simulator.arguments files.image files.result
  limit := rig.simulator.limit
  input := files.image
  target := some files.result

theorem assembleCommand_eq : rig.toolchain.assembleCommand files.source files.object =
    (rig.assembling files).command none := rfl

theorem disassembleCommand_eq (place : Place) :
    rig.toolchain.disassembleCommand files.object place =
      (rig.disassembling files).command (some place) := rfl

theorem simulateCommand_eq : rig.simulator.command files.image files.result =
    (rig.simulating files).command none := rfl

end Rig

def Deed.checked (deed : Deed) (tool : Tool) : Except Failure Deed :=
  if deed.status.isSuccess then .ok deed
  else .error (.toolFailed tool deed.status (String.ofList (Utf8.decodeLossy deed.diagnostics)))

theorem Deed.checked_ok {deed done : Deed} {tool : Tool} (h : deed.checked tool = .ok done) :
    deed.status.isSuccess = true ∧ done = deed := by
  unfold checked at h
  split_ifs at h with hsuccess
  exact ⟨hsuccess, (Except.ok.inj h).symm⟩

namespace Instruction

/-- The instruction in a line, which carriage returns may end. -/
def ofLine? (text : List Char) : Option Instruction :=
  parse? (Text.dropEndWhile (· == '\r') text)

def ofListing? (content : Bytes) : Option (List Instruction) :=
  ((Lines.all content).mapM Utf8.decode?).map (·.filterMap ofLine?)

/-- The instructions of a listing, of which there must be one at least. -/
def ofListing (listing : Path) (content : Bytes) : Except Failure (List Instruction) :=
  match ofListing? content with
  | none => .error (.cannotRead .listing listing .notText)
  | some [] => .error (.noInstructions listing)
  | some instructions => .ok instructions

end Instruction

theorem Cursor.collect_none (lines : List Bytes) :
    match lines.mapM Utf8.decode? with
    | some texts => collect none lines = (texts.filterMap Instruction.ofLine?, none)
    | none => (collect none lines).2 = some .notText := by
  induction lines with
  | nil => rfl
  | cons line rest ih =>
    rw [List.mapM_cons]
    cases hline : Utf8.decode? line with
    | none => simp [collect, readLine, hline]
    | some text =>
      have hread : readLine line = .ok (Instruction.ofLine? text) := by
        simp [readLine, hline, Instruction.ofLine?]
      cases hrest : rest.mapM Utf8.decode? with
      | none =>
        rw [hrest] at ih
        cases hof : Instruction.ofLine? text <;> simpa [collect, hread, hof, hrest] using ih
      | some texts =>
        rw [hrest] at ih
        cases hof : Instruction.ofLine? text <;>
          simp only [collect, hread, hof, ih] <;> simp [hof]

theorem Stream.instructions_of_ofListing? (content : Bytes) :
    match Instruction.ofListing? content with
    | some instructions => Stream.instructions ⟨content, none⟩ = (instructions, none)
    | none => (Stream.instructions ⟨content, none⟩).2 = some .notText := by
  have hcollect := Cursor.collect_none (Lines.all content)
  unfold Instruction.ofListing?
  cases hmap : (Lines.all content).mapM Utf8.decode? with
  | none => simpa [hmap, Stream.instructions, Stream.lines] using hcollect
  | some texts => simpa [hmap, Stream.instructions, Stream.lines] using hcollect

namespace Trial

namespace Plot

variable (p : Plot) (rig : Rig)

theorem files_source : p.files.source = p.path .source := rfl

theorem files_object : p.files.object = p.path .object := rfl

theorem files_listing : p.files.listing = p.path .listing := rfl

theorem files_image : p.files.image = p.path .image := rfl

theorem files_expected : p.files.expected = p.path .expected := rfl

theorem files_result : p.files.result = p.path .result := rfl

theorem assembling_input : (rig.assembling p.files).input = p.path .source := rfl

theorem assembling_target : (rig.assembling p.files).target = some (p.path .object) := rfl

theorem disassembling_input : (rig.disassembling p.files).input = p.path .object := rfl

theorem disassembling_target : (rig.disassembling p.files).target = none := rfl

theorem simulating_input : (rig.simulating p.files).input = p.path .image := rfl

theorem simulating_target : (rig.simulating p.files).target = some (p.path .result) := rfl

end Plot

/-- The comparison of a dump with the golden result, each of which may be missing. -/
def judge (rule : LengthRule) (files : Files) (dump : Option Bytes) (golden : Except Fault Bytes) :
    Except Failure Comparison :=
  match dump, golden with
  | none, _ => .error (.cannotOpen .actual files.result .missing)
  | some _, .error fault => .error (.cannotOpen .expected files.expected fault)
  | some dump, .ok golden => .ok (.ofContents rule golden dump)

/-- The instructions of a test. The disassembler is given what the assembler has left, and nothing
keeps the tools from writing. -/
def draft (rig : Rig) (files : Files) (crew : Crew) :
    Option Bytes → Except Failure (List Instruction)
  | none => .error (.cannotOpen .source files.source .notFound)
  | some source => do
    let assembled ←
      (crew.assembler (rig.assembling files).arguments (some source) none).checked .assembler
    let disassembled ←
      (crew.disassembler (rig.disassembling files).arguments assembled.left.data? none).checked
        .disassembler
    Instruction.ofListing files.listing disassembled.output

theorem draft_some (rig : Rig) (files : Files) (crew : Crew) (source : Bytes) :
    draft rig files crew (some source) =
      ((crew.assembler (rig.assembling files).arguments (some source) none).checked
        .assembler).bind
        fun assembled =>
          ((crew.disassembler (rig.disassembling files).arguments assembled.left.data? none).checked
            .disassembler).bind
          fun disassembled => Instruction.ofListing files.listing disassembled.output := rfl

/-- The result of a test. The simulator is given the image, and its dump is judged. -/
def pipeline (rig : Rig) (files : Files) (crew : Crew) (source : Option Bytes)
    (golden : Except Fault Bytes) : Except Failure Comparison := do
  let instructions ← draft rig files crew source
  let image := Image.text instructions
  let simulated := crew.simulator (rig.simulating files).arguments (some image) none
  judge rig.settings.lengthRule files simulated.left.data? golden

end Trial

end GoldenRun
