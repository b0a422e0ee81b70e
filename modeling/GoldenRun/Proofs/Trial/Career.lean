import GoldenRun.Proofs.Trial.ImageFile

/-!
# The image that is simulated

A trial is asked to make its image and to run, in any order and as often as one likes. Between two
operations everything may change but the files that it makes, and so may the tools. An image that it
has recorded is the one that the last successful making has left, as long as no later making has
failed on the listing: such a failure empties the file and leaves the record. What the simulator is
launched on is the image on record, under the same condition.
-/

namespace GoldenRun.Trial

/-- What a trial may be asked to do. -/
inductive Operation
  | build
  | run
  | check
  deriving DecidableEq

namespace Operation

/-- An operation, of which only the trial is looked at that it leaves. -/
def job (rig : Rig) (trial : Trial) : Operation → Job Trial
  | build => do
    let (_, next) ← trial.build rig
    pure next
  | run => do
    let (_, next) ← trial.run rig
    pure next
  | check => do
    let (_, next) ← trial.check rig
    pure next

/-- Whether an operation makes the image: a run does so if there is none. -/
def makes (trial : Trial) : Operation → Bool
  | build => true
  | run | check => trial.image.isNone

end Operation

/-- What has become of the image: the content that the last successful making has left, and whether
a later one has failed on the listing. -/
structure Ledger where
  made : Option Bytes
  spoiled : Bool

namespace Ledger

def enter (ledger : Ledger) : Except Failure Image × Disk → Ledger
  | (.ok image, after) => ⟨after.content? image.path, false⟩
  | (.error failure, _) => { ledger with spoiled := ledger.spoiled || spoilsImage failure }

/-- The ledger after an operation, which begins with making the image if it makes it at all. -/
def after (ledger : Ledger) (machine : Machine) (rig : Rig) (trial : Trial) (operation : Operation)
    (disk : Disk) : Ledger :=
  if operation.makes trial then
    ledger.enter (machine.attempt (rig.toolchain.build trial.files) disk)
  else ledger

end Ledger

namespace Plot

/-- A trial, the file system and the ledger after some operations. The machine may be another one at
each of them, and between them nothing is certain but the files that the trial makes. -/
inductive Career (p : Plot) (rig : Rig) (start : Trial) : Trial → Disk → Ledger → Prop
  | start {disk} : Career p rig start start disk ⟨none, false⟩
  | meanwhile {trial disk ledger after} : Career p rig start trial disk ledger →
      (∀ path ∈ p.files.generated, after.plain? path = disk.plain? path) →
      Career p rig start trial after ledger
  | performed {trial disk ledger} (machine : Machine) (operation : Operation) :
      Career p rig start trial disk ledger → p.Undiverted disk →
      (∀ launch ∈ machine.launches (operation.job rig trial) disk,
        Confined machine rig p.files launch) →
      Career p rig start (machine.run (operation.job rig trial) disk).1
        (machine.run (operation.job rig trial) disk).2
        (ledger.after machine rig trial operation disk)

/-- What an image on record says of its file: it consists of lines of instructions, and unless it
has been spoiled these are the recorded number of lines that the last successful making has left. -/
structure Accounted (p : Plot) (disk : Disk) (ledger : Ledger) (image : Image) : Prop where
  path : image.path = p.path .image
  lines : ∃ instructions, disk.content? image.path = some (Image.text instructions) ∧
    (ledger.spoiled = false → instructions ≠ [] ∧ instructions.length = image.instructions ∧
      ledger.made = some (Image.text instructions))

/-- The trial is that of the plot, and its image is accounted for. -/
structure Balances (p : Plot) (trial : Trial) (disk : Disk) (ledger : Ledger) : Prop where
  files : trial.files = p.files
  image : ∀ image, trial.image = some image → p.Accounted disk ledger image

end Plot

variable {p : Plot} {machine : Machine} {rig : Rig} {trial start : Trial}
  {disk before after : Disk} {ledger : Ledger} {image : Image} {failure : Failure}
  {operation : Operation}

theorem launches_build (machine : Machine) (rig : Rig) (trial : Trial) (disk : Disk) :
    machine.launches (trial.build rig) disk =
      machine.launches (rig.toolchain.build trial.files).job disk := by
  unfold build
  rw [Job.bind_eq, Machine.launches_bind]
  cases (machine.run (rig.toolchain.build trial.files).job disk).1 <;> exact List.append_nil _

theorem run_build_ok (h : machine.attempt (rig.toolchain.build trial.files) disk =
      (.ok image, after)) :
    machine.run (trial.build rig) disk =
      ((.ok image, { trial with image := some image }), after) := by
  unfold Machine.attempt at h
  unfold build
  rw [Job.bind_eq, Machine.run_bind, h]
  rfl

theorem run_build_error (h : machine.attempt (rig.toolchain.build trial.files) disk =
      (.error failure, after)) :
    machine.run (trial.build rig) disk = ((.error failure, trial), after) := by
  unfold Machine.attempt at h
  unfold build
  rw [Job.bind_eq, Machine.run_bind, h]
  rfl

namespace Operation

theorem run_job_build (machine : Machine) (rig : Rig) (trial : Trial) (disk : Disk) :
    machine.run (build.job rig trial) disk =
        ((machine.run (trial.build rig) disk).1.2, (machine.run (trial.build rig) disk).2) ∧
      machine.launches (build.job rig trial) disk = machine.launches (trial.build rig) disk := by
  rw [job, Job.bind_eq, Machine.run_bind, Machine.launches_bind]
  exact ⟨rfl, List.append_nil _⟩

theorem run_job_of_ne_build (machine : Machine) (rig : Rig) (trial : Trial) (disk : Disk)
    (h : operation ≠ build) :
    machine.run (operation.job rig trial) disk =
        ((machine.run (trial.run rig) disk).1.2, (machine.run (trial.run rig) disk).2) ∧
      machine.launches (operation.job rig trial) disk = machine.launches (trial.run rig) disk := by
  cases operation with
  | build => exact absurd rfl h
  | run =>
    rw [job, Job.bind_eq, Machine.run_bind, Machine.launches_bind]
    exact ⟨rfl, List.append_nil _⟩
  | check =>
    rw [job, Trial.check]
    simp only [Job.bind_eq, Machine.run_bind, Machine.launches_bind]
    exact ⟨rfl, (List.append_nil _).trans (List.append_nil _)⟩

end Operation

namespace Plot

theorem Accounted.keep (h : p.Accounted before ledger image)
    (hkeep : ∀ data, before.content? (p.path .image) = some data →
      after.content? (p.path .image) = some data) : p.Accounted after ledger image := by
  obtain ⟨instructions, hcontent, hwhole⟩ := h.lines
  rw [h.path] at hcontent
  exact ⟨h.path, instructions, h.path ▸ hkeep _ hcontent, hwhole⟩

theorem Balances.keep (h : p.Balances trial before ledger)
    (hkeep : ∀ data, before.content? (p.path .image) = some data →
      after.content? (p.path .image) = some data) : p.Balances trial after ledger :=
  ⟨h.files, fun image hrecord => (h.image image hrecord).keep hkeep⟩

theorem Balances.judge (h : p.Balances trial disk ledger) (verdict : Verdict) :
    p.Balances { trial with verdict := verdict } disk ledger :=
  ⟨h.files, h.image⟩

theorem Balances.built (h : p.Balances trial before ledger)
    (hmade : p.Remade before (.ok image) after) :
    p.Balances { trial with image := some image } after (ledger.enter (.ok image, after)) := by
  refine ⟨h.files, fun other hother => ?_⟩
  obtain rfl := Option.some.inj hother
  cases hmade with
  | whole _ hne hcontent => exact ⟨rfl, _, hcontent, fun _ => ⟨hne, rfl, hcontent⟩⟩

theorem Balances.failed (h : p.Balances trial before ledger)
    (hfailed : p.Remade before (.error failure) after) :
    p.Balances trial after (ledger.enter (.error failure, after)) := by
  refine ⟨h.files, fun image hrecord => ?_⟩
  have haccounted := h.image image hrecord
  cases hfailed with
  | spoiled _ hspoils hcontent =>
    refine ⟨haccounted.path, _, haccounted.path ▸ hcontent, fun hwhole => ?_⟩
    simp [Ledger.enter, hspoils] at hwhole
  | spared hspares hkept =>
    obtain ⟨hpath, instructions, hcontent, hlines⟩ := haccounted.keep hkept.image
    refine ⟨hpath, instructions, hcontent, fun hwhole => hlines ?_⟩
    simpa [Ledger.enter, hspares] using hwhole

theorem Balances.build (h : p.Balances trial disk ledger) (hundiverted : p.Undiverted disk)
    (hconfined : ∀ launch ∈ machine.launches (trial.build rig) disk,
      Confined machine rig p.files launch) :
    p.Balances (machine.run (trial.build rig) disk).1.2 (machine.run (trial.build rig) disk).2
        (ledger.enter (machine.attempt (rig.toolchain.build trial.files) disk)) ∧
      p.Undiverted (machine.run (trial.build rig) disk).2 := by
  rw [launches_build, h.files] at hconfined
  have hremade := hundiverted.ensures_build hconfined
  rw [← h.files] at hremade
  rcases hbuild : machine.attempt (rig.toolchain.build trial.files) disk with
    ⟨failure | image, after⟩ <;> rw [hbuild] at hremade
  · rw [run_build_error hbuild]
    exact ⟨h.failed hremade, hremade.undiverted hundiverted⟩
  · rw [run_build_ok hbuild]
    exact ⟨h.built hremade, hremade.undiverted hundiverted⟩

theorem Balances.requireImage (h : p.Balances trial disk ledger) (hundiverted : p.Undiverted disk)
    (hconfined : ∀ launch ∈ machine.launches (trial.requireImage rig) disk,
      Confined machine rig p.files launch) :
    p.Balances (machine.run (trial.requireImage rig) disk).1.2
        (machine.run (trial.requireImage rig) disk).2
        (ledger.after machine rig trial .run disk) ∧
      p.Undiverted (machine.run (trial.requireImage rig) disk).2 ∧
      ∀ image, (machine.run (trial.requireImage rig) disk).1.1 = .ok image →
        (machine.run (trial.requireImage rig) disk).1.2.image = some image ∧
        (trial.image = none → (ledger.after machine rig trial .run disk).spoiled = false) := by
  unfold Ledger.after Operation.makes
  cases hrecord : trial.image with
  | some image =>
    have hrequire : trial.requireImage rig = pure (.ok image, trial) := by
      unfold Trial.requireImage
      rw [hrecord]
    rw [hrequire]
    refine ⟨h, hundiverted, fun other hother => ?_⟩
    obtain rfl := Except.ok.inj hother
    exact ⟨hrecord, fun hnone => by contradiction⟩
  | none =>
    have hrequire : trial.requireImage rig = trial.build rig := by
      unfold Trial.requireImage
      rw [hrecord]
    rw [hrequire] at hconfined ⊢
    obtain ⟨hbalances, hafter⟩ := h.build hundiverted hconfined
    refine ⟨hbalances, hafter, fun image hok => ?_⟩
    rcases hbuild : machine.attempt (rig.toolchain.build trial.files) disk with
      ⟨failure | made, after⟩
    · rw [run_build_error hbuild] at hok
      contradiction
    · rw [run_build_ok hbuild] at hok ⊢
      obtain rfl := Except.ok.inj hok
      exact ⟨rfl, fun _ => rfl⟩

/-- A run keeps the account, and the simulator is launched on the image on record. -/
theorem Balances.run (h : p.Balances trial disk ledger) (hundiverted : p.Undiverted disk)
    (hconfined : ∀ launch ∈ machine.launches (trial.run rig) disk,
      Confined machine rig p.files launch) :
    p.Balances (machine.run (trial.run rig) disk).1.2 (machine.run (trial.run rig) disk).2
        (ledger.after machine rig trial .run disk) ∧
      ∀ launched, (trial.simulation rig, launched) ∈ machine.launches (trial.run rig) disk →
        ∃ image, (machine.run (trial.run rig) disk).1.2.image = some image ∧
          p.Accounted launched (ledger.after machine rig trial .run disk) image ∧
          (trial.image = none → (ledger.after machine rig trial .run disk).spoiled = false) := by
  have hbefore := not_launched_by_requireImage machine rig trial disk
  rcases hrequire : machine.run (trial.requireImage rig) disk with ⟨⟨failure | image, next⟩, ready⟩
  · obtain ⟨hrun, hlaunches⟩ := run_of_error hrequire
    rw [hlaunches] at hconfined ⊢
    obtain ⟨hbalances, -⟩ := h.requireImage hundiverted hconfined
    rw [hrequire] at hbalances
    rw [hrun]
    exact ⟨hbalances.judge .fail, fun launched hmem => absurd rfl (hbefore _ hmem)⟩
  · obtain ⟨hrun, hlaunches⟩ := run_of_image hrequire
    rw [hlaunches] at hconfined ⊢
    obtain ⟨hbalances, hready, hrecord⟩ := h.requireImage hundiverted
      fun launch hmem => hconfined launch (List.mem_append_left _ hmem)
    rw [hrequire] at hbalances hready hrecord
    obtain ⟨himage, hfresh⟩ := hrecord image rfl
    have hfiles : next.files = p.files := hbalances.files
    have hspares := hready.ensures_simulate
      fun launch hmem => hconfined launch (List.mem_append_right _ (hfiles ▸ hmem))
    rw [← hfiles] at hspares
    rw [hrun]
    refine ⟨(hbalances.keep hspares.image).judge _, fun launched hmem => ?_⟩
    rcases List.mem_append.mp hmem with hmem | hmem
    · exact absurd rfl (hbefore _ hmem)
    obtain ⟨-, hclear⟩ := of_mem_launches_simulate hmem
    have hclearing : machine.Ensures (fun _ => True) (Simulator.clear p.files.result) ready
        (p.Harmless ready) := hready.ensures_clear
    have hcleared := hclearing fun _ _ => trivial
    rw [← hfiles, hclear] at hcleared
    exact ⟨image, himage, (hbalances.keep hcleared.1.image).image image himage, hfresh⟩

/-- An operation keeps the account. -/
theorem Balances.performed (h : p.Balances trial disk ledger) (hundiverted : p.Undiverted disk)
    (hconfined : ∀ launch ∈ machine.launches (operation.job rig trial) disk,
      Confined machine rig p.files launch) :
    p.Balances (machine.run (operation.job rig trial) disk).1
      (machine.run (operation.job rig trial) disk).2
      (ledger.after machine rig trial operation disk) := by
  by_cases hbuild : operation = .build
  · subst hbuild
    obtain ⟨hrun, hlaunches⟩ := Operation.run_job_build machine rig trial disk
    rw [hlaunches] at hconfined
    rw [hrun]
    exact (h.build hundiverted hconfined).1
  · obtain ⟨hrun, hlaunches⟩ := Operation.run_job_of_ne_build machine rig trial disk hbuild
    rw [hlaunches] at hconfined
    rw [hrun]
    have hbalances := (h.run hundiverted hconfined).1
    cases operation with
    | build => exact absurd rfl hbuild
    | run => exact hbalances
    | check => exact hbalances

theorem Career.balances (h : p.Career rig start trial disk ledger) (hfiles : start.files = p.files)
    (himage : start.image = none) : p.Balances trial disk ledger := by
  induction h with
  | start => exact ⟨hfiles, fun image hrecord => by simp [himage] at hrecord⟩
  | meanwhile _ hplain ih =>
    refine ih.keep fun data hcontent => ?_
    have hgenerated : p.path .image ∈ p.files.generated := by
      simp [Files.generated, p.files_image]
    exact (Disk.content?_congr (hplain _ hgenerated)).trans hcontent
  | performed machine operation _ hundiverted hconfined ih =>
    exact ih.performed hundiverted hconfined

end Plot

/-- An accepted test that has recorded an image finds its file as the last successful making has
left it, with as many lines as are on record, unless a later making has failed on the listing. Under
the same condition, or if it has to make the image itself, an operation that launches the simulator
does so on as many lines as are on record. -/
theorem simulates_last_build {category name : String}
    (hnew : Trial.new rig category name = .ok start)
    (h : (Plot.ofNew hnew).Career rig start trial disk ledger) :
    (∀ image, trial.image = some image → (Plot.ofNew hnew).Accounted disk ledger image) ∧
    ∀ (machine : Machine) (operation : Operation), (Plot.ofNew hnew).Undiverted disk →
      (∀ launch ∈ machine.launches (operation.job rig trial) disk,
        Confined machine rig (Plot.ofNew hnew).files launch) →
      trial.image = none ∨ ledger.spoiled = false →
      ∀ launched,
        (trial.simulation rig, launched) ∈ machine.launches (operation.job rig trial) disk →
        ∃ image instructions, (machine.run (operation.job rig trial) disk).1.image = some image ∧
          launched.content? trial.files.image = some (Image.text instructions) ∧
          instructions ≠ [] ∧ instructions.length = image.instructions := by
  obtain ⟨hfiles, himage, -⟩ := Plot.of_new hnew
  have hbalances := h.balances hfiles himage
  refine ⟨hbalances.image, fun machine operation hundiverted hconfined hwhole launched hmem => ?_⟩
  by_cases hbuild : operation = .build
  · subst hbuild
    rw [(Operation.run_job_build machine rig trial disk).2, launches_build] at hmem
    have huses := (rig.toolchain.launching_build trial.files).launches machine disk _ hmem
    exact absurd huses (rig.toolchain.not_uses_simulation trial.files rig.simulator)
  · obtain ⟨hrun, hlaunches⟩ := Operation.run_job_of_ne_build machine rig trial disk hbuild
    rw [hlaunches] at hconfined hmem
    rw [hrun]
    obtain ⟨image, hrecord, haccounted, hfresh⟩ :=
      (hbalances.run hundiverted hconfined).2 launched hmem
    obtain ⟨instructions, hcontent, hlines⟩ := haccounted.lines
    have hunspoiled : (ledger.after machine rig trial .run disk).spoiled = false := by
      rcases hwhole with hnone | hwhole
      · exact hfresh hnone
      · cases hrecorded : trial.image with
        | none => exact hfresh hrecorded
        | some recorded => simpa [Ledger.after, Operation.makes, hrecorded] using hwhole
    obtain ⟨hne, hlength, -⟩ := hlines hunspoiled
    rw [haccounted.path, ← (Plot.ofNew hnew).files_image, ← hbalances.files] at hcontent
    exact ⟨image, instructions, hrecord, hcontent, hne, hlength⟩

theorem Plot.On.view_of_content? {top : Place} {part : Part} {data : Bytes} (h : p.On disk top)
    (hcontent : disk.content? (p.path part) = some data) :
    p.view disk top part = .ok (some (.file data false)) := by
  rw [h.content?] at hcontent
  rcases h.view_cases part with ⟨fault, hview⟩ | hview | hview | ⟨found, hview⟩ <;>
    rw [hview] at hcontent ⊢
  · contradiction
  · contradiction
  · contradiction
  · obtain rfl := Option.some.inj hcontent
    rfl

theorem Plot.Fit.exists_launched {crew : Crew} {top : Place} {text : Bytes}
    (h : p.Fit machine rig crew disk top)
    (himage : p.view disk top .image = .ok (some (.file text false)))
    (hfiles : trial.files = p.files) (hrecord : trial.image = some image) :
    ∃ launched, (trial.simulation rig, launched) ∈ machine.launches (trial.run rig) disk ∧
      launched.content? (p.path .image) = some text := by
  obtain ⟨cleared, hclear, hcleared, -, hkept⟩ := h.clear himage
  have hrequire : machine.run (trial.requireImage rig) disk = ((.ok image, trial), disk) := by
    unfold requireImage
    rw [hrecord]
    rfl
  rw [← hfiles] at hclear
  refine ⟨cleared, ?_, ?_⟩
  · rw [(run_of_image hrequire).2, launches_simulate hclear]
    exact List.mem_append_right _ (List.mem_singleton.mpr rfl)
  · rw [(h.on.vary hcleared).content?, hkept]
    rfl

section Sample

variable {crew : Crew}

/-- A program that tells by its arguments which tool of the sample it is to be. -/
def sampleTool (crew : Crew) : Program := fun arguments limit disk =>
  if arguments = (sampleRig.assembling sampleTrial.files).arguments then
    crew.assembler.program (sampleRig.assembling sampleTrial.files) arguments limit disk
  else if arguments = (sampleRig.disassembling sampleTrial.files).arguments then
    crew.disassembler.program (sampleRig.disassembling sampleTrial.files) arguments limit disk
  else crew.simulator.program (sampleRig.simulating sampleTrial.files) arguments limit disk

def sampleMachineOf (crew : Crew) : Machine where
  environment name := if name = "RISCV" then some "/" else none
  interpret _ := .ok (sampleTool crew)

/-- The tools of the sample, but the disassembler prints nothing. -/
def muteCrew : Crew :=
  { sampleCrew with disassembler := fun _ _ _ => ⟨.exited 0, [], [], .kept⟩ }

theorem sampleTool_assembles (crew : Crew) :
    (sampleTool crew).GoesBy crew.assembler (sampleRig.assembling sampleTrial.files) := by
  intro disk
  rw [sampleTool, if_pos rfl]
  exact crew.assembler.program_goesBy _ disk

theorem sampleTool_disassembles (crew : Crew) :
    (sampleTool crew).GoesBy crew.disassembler (sampleRig.disassembling sampleTrial.files) := by
  intro disk
  rw [sampleTool, if_neg (by decide), if_pos rfl]
  exact crew.disassembler.program_goesBy _ disk

theorem sampleTool_simulates (crew : Crew) :
    (sampleTool crew).GoesBy crew.simulator (sampleRig.simulating sampleTrial.files) := by
  intro disk
  rw [sampleTool, if_neg (by decide), if_neg (by decide)]
  exact crew.simulator.program_goesBy _ disk

theorem eq_sampleTool {program : Program} {path : Path} (hslash : '/' ∈ path.toList)
    (h : (sampleMachineOf crew).findProgram disk path = .ok program) :
    program = sampleTool crew := by
  unfold Machine.findProgram at h
  split_ifs at h
  unfold Machine.programAt at h
  split at h
  · exact (Except.ok.inj h).symm
  · contradiction
  · contradiction
  · contradiction

theorem sample_confined_of (crew : Crew) (launch : Launch × Disk) :
    Confined (sampleMachineOf crew) sampleRig sampleTrial.files launch := by
  refine confined_of_goesBy crew launch (fun _ hfind => ?_) (fun _ hfind => ?_)
    fun _ hfind => ?_
  · exact eq_sampleTool (by decide) hfind ▸ sampleTool_assembles crew
  · exact eq_sampleTool (by decide) hfind ▸ sampleTool_disassembles crew
  · exact eq_sampleTool (by decide) hfind ▸ sampleTool_simulates crew

theorem sample_fit_of (crew : Crew) :
    (Plot.ofNew sampleTrial_new).Fit (sampleMachineOf crew) sampleRig crew sampleDisk [] :=
  sample_fit_of_staffed (sample_staffed_of rfl (sampleTool_assembles crew) rfl
    (sampleTool_disassembles crew) rfl (sampleTool_simulates crew))

theorem sampleDisk_undiverted : (Plot.ofNew sampleTrial_new).Undiverted sampleDisk :=
  fun place target hat => absurd hat (sampleDisk_linkless [] place target)

def sampleBuilt : Trial :=
  { sampleTrial with image := some ⟨sampleTrial.files.image, 1⟩ }

theorem sample_career : ∃ built,
    (Plot.ofNew sampleTrial_new).Career sampleRig sampleTrial sampleBuilt built
      ⟨built.content? sampleTrial.files.image, false⟩ ∧
    (Plot.ofNew sampleTrial_new).Alters [] sampleDisk built ∧
    (Plot.ofNew sampleTrial_new).view built [] .image =
      .ok (some (.file (Image.text [⟨['0'], 0x13⟩]) false)) := by
  obtain ⟨built, hbuild, halters, himage⟩ := sample_builds_on (sample_fit_of sampleCrew) rfl rfl
  refine ⟨built, ?_, halters, himage⟩
  have hcareer : (Plot.ofNew sampleTrial_new).Career sampleRig sampleTrial _ _ _ :=
    .performed (sampleMachineOf sampleCrew) .build .start sampleDisk_undiverted
      fun launch _ => sample_confined_of sampleCrew launch
  rw [(Operation.run_job_build _ _ _ _).1, run_build_ok hbuild] at hcareer
  simp only [Ledger.after, Operation.makes, if_true, hbuild, Ledger.enter] at hcareer
  exact hcareer

/-- The image of the sample is the one that was made, and the simulator is launched on it. -/
theorem simulates_last_build_sample : ∃ (disk launched : Disk) (instructions : List Instruction),
    disk.content? sampleBuilt.files.image = some (Image.text instructions) ∧
    instructions.length = 1 ∧
    (sampleBuilt.simulation sampleRig, launched) ∈
      (sampleMachineOf sampleCrew).launches (sampleBuilt.run sampleRig) disk ∧
    ∃ simulated, launched.content? sampleBuilt.files.image = some (Image.text simulated) ∧
      simulated ≠ [] := by
  obtain ⟨built, hcareer, halters, hview⟩ := sample_career
  obtain ⟨haccounted, hlaunch⟩ := simulates_last_build sampleTrial_new hcareer
  have hfiles : sampleBuilt.files = (Plot.ofNew sampleTrial_new).files := rfl
  have hrecord : sampleBuilt.image = some ⟨sampleTrial.files.image, 1⟩ := rfl
  obtain ⟨instructions, hcontent, hlines⟩ := (haccounted _ hrecord).lines
  obtain ⟨-, hlength, -⟩ := hlines rfl
  obtain ⟨launched, hmem, -⟩ :=
    ((sample_fit_of sampleCrew).vary halters).exists_launched hview hfiles hrecord
  obtain ⟨-, hlaunches⟩ := Operation.run_job_of_ne_build (sampleMachineOf sampleCrew) sampleRig
    sampleBuilt built (by decide : Operation.run ≠ .build)
  obtain ⟨_, simulated, -, hsimulated, hne, -⟩ := hlaunch (sampleMachineOf sampleCrew) .run
    (sampleDisk_undiverted.vary halters) (fun launch _ => sample_confined_of sampleCrew launch)
    (Or.inr rfl) launched (hlaunches ▸ hmem)
  exact ⟨built, launched, instructions, hcontent, hlength, hmem, simulated, hsimulated, hne⟩

/-- Once the image is made, a disassembler that prints nothing spoils it: a trial has an image of
one instruction on record, and launches the simulator on an empty file. -/
theorem simulates_spoiled_image : ∃ (disk launched : Disk) (ledger : Ledger) (image : Image),
    (Plot.ofNew sampleTrial_new).Career sampleRig sampleTrial sampleBuilt disk ledger ∧
    sampleBuilt.image = some image ∧ image.instructions = 1 ∧
    disk.content? sampleBuilt.files.image = some [] ∧
    (sampleBuilt.simulation sampleRig, launched) ∈
      (sampleMachineOf sampleCrew).launches (sampleBuilt.run sampleRig) disk ∧
    launched.content? sampleBuilt.files.image = some [] := by
  obtain ⟨built, hcareer, halters, -⟩ := sample_career
  have hfiles : sampleBuilt.files = (Plot.ofNew sampleTrial_new).files := rfl
  have hrecord : sampleBuilt.image = some ⟨sampleTrial.files.image, 1⟩ := rfl
  have hundiverted := sampleDisk_undiverted.vary halters
  have hsource : built.content? ((Plot.ofNew sampleTrial_new).path .source) = some [] := by
    rw [(sampleDisk_on.vary halters).content?, Plot.view_vary (by simp [Part.IsGenerated]) halters]
    decide
  have hdraft : draft sampleRig (Plot.ofNew sampleTrial_new).files muteCrew (some []) =
      .error (.noInstructions (Plot.ofNew sampleTrial_new).files.listing) := by
    rw [draft_some]
    rfl
  obtain ⟨spoiled, hbuild, halters', -⟩ :=
    ((sample_fit_of muteCrew).vary halters).build fun _ _ => ⟨[], rfl⟩
  rw [hsource, hdraft] at hbuild
  have hremade := hundiverted.ensures_build fun launch _ => sample_confined_of muteCrew launch
  rw [hbuild] at hremade
  have hspoiled := hremade.content?_of_noInstructions
  have hcareer' : (Plot.ofNew sampleTrial_new).Career sampleRig sampleTrial _ _ _ :=
    .performed (sampleMachineOf muteCrew) .build hcareer hundiverted
      fun launch _ => sample_confined_of muteCrew launch
  rw [(Operation.run_job_build _ _ _ _).1, run_build_error (hfiles ▸ hbuild)] at hcareer'
  have hfit := ((sample_fit_of sampleCrew).vary halters).vary halters'
  obtain ⟨launched, hmem, hlaunched⟩ :=
    hfit.exists_launched (hfit.on.view_of_content? hspoiled) hfiles hrecord
  rw [hfiles, Plot.files_image]
  exact ⟨spoiled, launched, _, _, hcareer', hrecord, rfl, hspoiled, hmem, hlaunched⟩

end Sample

end GoldenRun.Trial
