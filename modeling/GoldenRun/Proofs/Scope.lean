import GoldenRun.Command.Execution
import GoldenRun.Proofs.Job.Returns

/-!
# How far failures reach

Before the first test is made, every failure is one of the whole run: settings that cannot be used,
patterns that are none, tools that are not found. From then on every failure is one of the test that
meets it, whatever the files, the tools and other jobs answer, so no test ends a batch of tests.
-/

namespace GoldenRun

variable {α β : Type} {scope : Scope}

/-- A result that is a failure is one of a scope. -/
def Scope.Bounds (scope : Scope) (result : Except Failure α) : Prop :=
  ∀ failure, result = .error failure → failure.scope = scope

namespace Scope

theorem bounds_ok (a : α) : scope.Bounds (.ok a) :=
  fun _ heq => by contradiction

theorem bounds_error {failure : Failure} (h : failure.scope = scope) :
    scope.Bounds (.error failure : Except Failure α) :=
  fun _ heq => Except.error.inj heq ▸ h

theorem Bounds.bind {x : Except Failure α} {f : α → Except Failure β} (h : scope.Bounds x)
    (hf : ∀ a, scope.Bounds (f a)) : scope.Bounds (x >>= f) := by
  cases x with
  | ok a => exact hf a
  | error failure => exact bounds_error (h failure rfl)

theorem Bounds.map {x : Except Failure α} (h : scope.Bounds x) (f : α → β) :
    scope.Bounds (x.map f) := by
  cases x with
  | ok a => exact bounds_ok (f a)
  | error failure => exact bounds_error (h failure rfl)

end Scope

open Scope

/-! ### Getting ready -/

section Preparation

variable (disk : Disk) (environment : Environment)

theorem Settings.bounds_load (path : Path) : Scope.run.Bounds (load disk path) := by
  unfold load
  split
  · exact bounds_error rfl
  · split
    · exact bounds_ok _
    · exact bounds_error rfl

theorem Settings.bounds_ofEnvironment : Scope.run.Bounds (ofEnvironment disk environment) := by
  unfold ofEnvironment
  split
  · exact (bounds_load disk _).map _
  · exact bounds_ok _

theorem Settings.bounds_choose (path : Option Path) :
    Scope.run.Bounds (choose disk environment path) := by
  cases path with
  | some path => exact (bounds_load disk path).map _
  | none => exact bounds_ofEnvironment disk environment

theorem ToolPattern.bounds_ofRegex (text : String) : Scope.run.Bounds (ofRegex text) := by
  unfold ofRegex
  split
  · exact bounds_ok _
  · exact bounds_error rfl

theorem ToolPattern.bounds_ofSubstring (text : String) : Scope.run.Bounds (ofSubstring text) := by
  unfold ofSubstring
  split
  · exact bounds_ok _
  · exact bounds_error rfl

theorem ToolPattern.bounds_ofSpec (spec : PatternSpec) : Scope.run.Bounds (ofSpec spec) := by
  cases spec with
  | substring text => exact bounds_ofSubstring text
  | regex text => exact bounds_ofRegex text

theorem Search.bounds_locate (search : Search) (tool : Tool) (pattern : ToolPattern) :
    Scope.run.Bounds (search.locate disk tool pattern) := by
  unfold locate
  split
  · exact bounds_ok _
  · exact bounds_error rfl

theorem Search.bounds_locateBoth (search : Search) (settings : ToolchainSettings) :
    Scope.run.Bounds (search.locateBoth disk settings) := by
  apply (ToolPattern.bounds_ofSpec settings.assembler).bind
  intro assembler
  apply (ToolPattern.bounds_ofSpec settings.disassembler).bind
  intro disassembler
  apply (search.bounds_locate disk .assembler assembler).bind
  intro found
  apply (search.bounds_locate disk .disassembler disassembler).bind
  intro found'
  exact bounds_ok _

theorem Rig.bounds_ofSettings (settings : Settings) :
    Scope.run.Bounds (ofSettings disk environment settings) := by
  apply (Search.bounds_locateBoth disk _ settings.toolchain).bind
  intro found
  exact bounds_ok _

end Preparation

/-! ### Working on a test -/

/-- An attempt that belongs to a test: its failures reach no further. -/
def Attempt.IsTestwise (x : Attempt α) : Prop :=
  x.FailsOnly fun failure => failure.scope = .test

namespace Attempt

theorem isTestwise_prepareDirectory (role : Role) (path : Path) :
    (prepareDirectory role path).IsTestwise := by
  unfold prepareDirectory
  split
  · exact failsOnly_pure
  · apply failsOnly_ask_bind
    intro answer
    exact failsOnly_granted fun fault => rfl

theorem isTestwise_launch (tool : Tool) (command : Launch) : (launch tool command).IsTestwise := by
  apply failsOnly_ask_bind
  intro answer
  refine failsOnly_granted_bind (fun fault => rfl) ?_
  intro finished
  cases finished.status with
  | some status => exact failsOnly_pure
  | none => exact failsOnly_fail rfl

theorem isTestwise_launchChecked (tool : Tool) (command : Launch) :
    (launchChecked tool command).IsTestwise := by
  apply (isTestwise_launch tool command).bind
  rintro ⟨status, diagnostics⟩
  by_cases hsuccess : status.isSuccess = true
  · simp only [hsuccess, if_true]
    exact failsOnly_pure
  · simp only [hsuccess]
    exact failsOnly_fail rfl

end Attempt

open Attempt

namespace Toolchain

variable (tools : Toolchain)

theorem isTestwise_assemble (source object : Path) : (tools.assemble source object).IsTestwise := by
  apply failsOnly_ask_bind
  intro found
  cases found with
  | false => exact failsOnly_fail rfl
  | true =>
    apply (isTestwise_prepareDirectory .object object).bind
    intro _
    exact isTestwise_launchChecked _ _

theorem isTestwise_disassemble (object listing : Path) :
    (tools.disassemble object listing).IsTestwise := by
  apply (isTestwise_prepareDirectory .listing listing).bind
  intro _
  apply failsOnly_ask_bind
  intro answer
  refine failsOnly_granted_bind (fun fault => rfl) ?_
  intro output
  exact isTestwise_launchChecked _ _

end Toolchain

theorem Image.isTestwise_extract (listing image : Path) : (extract listing image).IsTestwise := by
  apply failsOnly_ask_bind
  intro answer
  refine failsOnly_granted_bind (fun fault => rfl) ?_
  intro input
  apply (isTestwise_prepareDirectory .image image).bind
  intro _
  apply failsOnly_ask_bind
  intro answer
  refine failsOnly_granted_bind (fun fault => rfl) ?_
  intro output
  apply failsOnly_ask_bind
  intro stream
  apply failsOnly_ask_bind
  intro written
  split
  · exact failsOnly_fail rfl
  · split
    · exact failsOnly_fail rfl
    · exact failsOnly_granted_bind (fun fault => rfl) fun _ => failsOnly_pure

theorem Toolchain.isTestwise_build (tools : Toolchain) (files : Trial.Files) :
    (tools.build files).IsTestwise := by
  apply (tools.isTestwise_assemble files.source files.object).bind
  intro _
  apply (tools.isTestwise_disassemble files.object files.listing).bind
  intro _
  apply (Image.isTestwise_extract files.listing files.image).bind
  intro instructions
  exact failsOnly_pure

theorem Simulator.isTestwise_clear (result : Path) : (clear result).IsTestwise := by
  apply (isTestwise_prepareDirectory .actual result).bind
  intro _
  apply failsOnly_ask_bind
  intro answer
  split
  · exact failsOnly_pure
  · exact failsOnly_pure
  · exact failsOnly_fail rfl

theorem Simulator.isTestwise_invoke (simulator : Simulator) (image result : Path) :
    (simulator.invoke image result).IsTestwise := by
  apply (isTestwise_clear result).bind
  intro _
  apply (isTestwise_launch .simulator _).bind
  intro finished
  exact failsOnly_pure

theorem Comparison.isTestwise_ofFiles (rule : LengthRule) (actual expected : Path) :
    (ofFiles rule actual expected).IsTestwise := by
  apply failsOnly_ask_bind
  intro answer
  refine failsOnly_granted_bind (fun fault => rfl) ?_
  intro dump
  apply failsOnly_ask_bind
  intro answer
  refine failsOnly_granted_bind (fun fault => rfl) ?_
  intro golden
  apply failsOnly_ask_bind
  intro goldenStream
  apply failsOnly_ask_bind
  intro dumpStream
  split
  · exact failsOnly_pure
  · exact failsOnly_fail rfl
  · exact failsOnly_fail rfl

namespace Trial

variable (rig : Rig) (category name : String) (trial : Trial)

theorem bounds_checkName : Scope.test.Bounds (checkName category name) := by
  unfold checkName
  split
  · exact bounds_error rfl
  · split
    · exact bounds_error rfl
    · exact bounds_ok ()

theorem bounds_new : Scope.test.Bounds (new rig category name) := by
  apply (bounds_checkName category name).bind
  intro _
  exact bounds_ok _

theorem returns_build : (trial.build rig).Returns fun reply => Scope.test.Bounds reply.1 := by
  apply Job.Returns.bind (rig.toolchain.isTestwise_build trial.files)
  intro result hresult
  cases result with
  | ok image => exact Job.Returns.done (bounds_ok image)
  | error failure => exact Job.Returns.done (bounds_error (hresult failure rfl))

theorem isTestwise_simulate (files : Files) : (simulate rig files).IsTestwise := by
  apply (rig.simulator.isTestwise_invoke files.image files.result).bind
  intro _
  exact Comparison.isTestwise_ofFiles _ _ _

theorem returns_requireImage :
    (trial.requireImage rig).Returns fun reply => Scope.test.Bounds reply.1 := by
  unfold requireImage
  split
  · exact Job.Returns.done (bounds_ok _)
  · exact trial.returns_build rig

theorem returns_run : (trial.run rig).Returns fun reply => Scope.test.Bounds reply.1 := by
  apply (trial.returns_requireImage rig).bind
  rintro ⟨image | image, later⟩ himage
  · exact Job.Returns.done (bounds_error (himage _ rfl))
  · apply Job.Returns.bind (isTestwise_simulate rig later.files)
    intro result hresult
    exact Job.Returns.done hresult

theorem returns_check : (trial.check rig).Returns fun reply => Scope.test.Bounds reply.1 := by
  apply (trial.returns_run rig).bind
  rintro ⟨result, later⟩ hresult
  exact Job.Returns.done (hresult.map _)

end Trial

/-! ### Batches -/

namespace Batch

variable (rig : Rig) (category : String)

theorem returns_runOne (name : String) :
    (runOne rig category name).Returns fun result => Scope.test.Bounds result := by
  unfold runOne
  split
  · next failure hnew =>
    exact Job.Returns.done (bounds_error (Trial.bounds_new rig category name failure hnew))
  · next trial hnew =>
    apply (trial.returns_run rig).bind
    rintro ⟨result, after⟩ hresult
    apply (Job.Returns.trivial (after.discard rig)).bind
    intro _ _
    exact Job.Returns.done hresult

theorem fatal?_eq_none {result : Except Failure Comparison} (h : Scope.test.Bounds result) :
    fatal? result = none := by
  cases result with
  | ok answer => rfl
  | error failure =>
    unfold fatal? Failure.isFatal
    simp [h failure rfl]

theorem returns_runAll (names : List String) :
    (runAll rig category names).Returns fun reply =>
      reply.2 = none ∧ reply.1.map Entrant.name = names := by
  induction names with
  | nil => exact Job.Returns.done ⟨rfl, rfl⟩
  | cons name rest ih =>
    apply (returns_runOne rig category name).bind
    intro result hresult
    rw [fatal?_eq_none hresult]
    apply ih.bind
    rintro ⟨others, stopped⟩ ⟨hstopped, hothers⟩
    apply Job.Returns.done
    exact ⟨hstopped, congrArg (name :: ·) hothers⟩

end Batch

/-- The scope of a failure tells the stage of the work at which it was met. All failures in getting
settings, patterns, tools and a rig are of the run. All failures in making a test, in building and
running it and in each single step of that are of the test, whatever is answered to the requests.
So no course of a batch is ended by a failure. -/
theorem failures_by_stage :
    ((∀ disk path failure, Settings.load disk path = .error failure → failure.scope = .run) ∧
      (∀ disk environment failure,
        Settings.ofEnvironment disk environment = .error failure → failure.scope = .run) ∧
      (∀ disk environment path failure,
        Settings.choose disk environment path = .error failure → failure.scope = .run) ∧
      (∀ text failure, ToolPattern.ofSubstring text = .error failure → failure.scope = .run) ∧
      (∀ text failure, ToolPattern.ofRegex text = .error failure → failure.scope = .run) ∧
      (∀ spec failure, ToolPattern.ofSpec spec = .error failure → failure.scope = .run) ∧
      (∀ (search : Search) disk tool pattern failure,
        search.locate disk tool pattern = .error failure → failure.scope = .run) ∧
      (∀ (search : Search) disk settings failure,
        search.locateBoth disk settings = .error failure → failure.scope = .run) ∧
      (∀ disk environment settings failure,
        Rig.ofSettings disk environment settings = .error failure → failure.scope = .run) ∧
      (∀ disk environment failure,
        (Settings.ofEnvironment disk environment >>= Rig.ofSettings disk environment) =
          .error failure → failure.scope = .run)) ∧
    ((∀ rig category name failure,
        Trial.new rig category name = .error failure → failure.scope = .test) ∧
      (∀ rig (trial later : Trial) requests failure,
        (trial.build rig).Course requests (.error failure, later) → failure.scope = .test) ∧
      (∀ rig (trial later : Trial) requests failure,
        (trial.run rig).Course requests (.error failure, later) → failure.scope = .test) ∧
      (∀ rig (trial later : Trial) requests failure,
        (trial.check rig).Course requests (.error failure, later) → failure.scope = .test) ∧
      (∀ (tools : Toolchain) source object requests failure,
        (tools.assemble source object).job.Course requests (.error failure) →
          failure.scope = .test) ∧
      (∀ (tools : Toolchain) object listing requests failure,
        (tools.disassemble object listing).job.Course requests (.error failure) →
          failure.scope = .test) ∧
      (∀ listing image requests failure,
        (Image.extract listing image).job.Course requests (.error failure) →
          failure.scope = .test) ∧
      (∀ (tools : Toolchain) files requests failure,
        (tools.build files).job.Course requests (.error failure) → failure.scope = .test) ∧
      (∀ (simulator : Simulator) image result requests failure,
        (simulator.invoke image result).job.Course requests (.error failure) →
          failure.scope = .test) ∧
      (∀ rule actual expected requests failure,
        (Comparison.ofFiles rule actual expected).job.Course requests (.error failure) →
          failure.scope = .test)) ∧
    (∀ rig category name requests result,
      (Batch.runOne rig category name).Course requests result → Batch.fatal? result = none) ∧
    ∀ rig category names requests entrants stopped,
      (Batch.runAll rig category names).Course requests (entrants, stopped) → stopped = none := by
  refine ⟨⟨?_, ?_, ?_, ?_, ?_, ?_, ?_, ?_, ?_, ?_⟩,
    ⟨?_, ?_, ?_, ?_, ?_, ?_, ?_, ?_, ?_, ?_⟩, ?_, ?_⟩
  · exact Settings.bounds_load
  · exact Settings.bounds_ofEnvironment
  · exact Settings.bounds_choose
  · exact ToolPattern.bounds_ofSubstring
  · exact ToolPattern.bounds_ofRegex
  · exact ToolPattern.bounds_ofSpec
  · exact fun search disk => search.bounds_locate disk
  · exact fun search disk => search.bounds_locateBoth disk
  · exact Rig.bounds_ofSettings
  · intro disk environment
    exact (Settings.bounds_ofEnvironment disk environment).bind
      (Rig.bounds_ofSettings disk environment)
  · exact Trial.bounds_new
  · intro rig trial later requests failure hcourse
    exact (trial.returns_build rig).course hcourse failure rfl
  · intro rig trial later requests failure hcourse
    exact (trial.returns_run rig).course hcourse failure rfl
  · intro rig trial later requests failure hcourse
    exact (trial.returns_check rig).course hcourse failure rfl
  · intro tools source object requests failure hcourse
    exact (tools.isTestwise_assemble source object).course hcourse failure rfl
  · intro tools object listing requests failure hcourse
    exact (tools.isTestwise_disassemble object listing).course hcourse failure rfl
  · intro listing image requests failure hcourse
    exact (Image.isTestwise_extract listing image).course hcourse failure rfl
  · intro tools files requests failure hcourse
    exact (tools.isTestwise_build files).course hcourse failure rfl
  · intro simulator image result requests failure hcourse
    exact (simulator.isTestwise_invoke image result).course hcourse failure rfl
  · intro rule actual expected requests failure hcourse
    exact (Comparison.isTestwise_ofFiles rule actual expected).course hcourse failure rfl
  · intro rig category name requests result hcourse
    exact Batch.fatal?_eq_none ((Batch.returns_runOne rig category name).course hcourse)
  · intro rig category names requests entrants stopped hcourse
    exact ((Batch.returns_runAll rig category names).course hcourse).1

/-- A tool that is sought nowhere fails the run, and a name that is rejected fails its test. -/
theorem failures_by_stage_sample : ∃ (search : Search) (rig : Rig) (rejected : Failure),
    (∀ disk pattern, ∃ missing, search.locate disk .assembler pattern = .error missing ∧
      missing.scope = .run) ∧
    Trial.new rig "c" ".." = .error rejected ∧ rejected.scope = .test := by
  obtain ⟨hready, ⟨hnew, -⟩, -⟩ := failures_by_stage
  obtain ⟨-, -, -, -, -, -, hlocate, -⟩ := hready
  have hrejected : Trial.new ⟨{}, "/as", "/od"⟩ "c" ".." =
      .error (.badName "c" ".." .relative) := rfl
  let search : Search := ⟨"PATH", "RISCV", none, none⟩
  refine ⟨search, _, _, ?_, hrejected, hnew _ _ _ _ hrejected⟩
  intro disk pattern
  have hmissing : search.locate disk .assembler pattern = .error (.toolMissing .assembler
      pattern.source search.describe search.searchVariable search.rootVariable) := rfl
  exact ⟨_, hmissing, hlocate search disk .assembler pattern _ hmissing⟩

end GoldenRun
