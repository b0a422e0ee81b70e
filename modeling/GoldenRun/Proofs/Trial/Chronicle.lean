import GoldenRun.Proofs.Trial.Career
import GoldenRun.Proofs.Trial.Confinement

/-!
# What tests leave alone

Tests over one root are made, are asked to work and are given up, in any order and whatever comes of
it. Nothing is written or removed but the files that are made for them, and no directories are made
but those of such files. Sources and golden results are the same at every moment, those of other
tests included.
-/

namespace GoldenRun.Trial

/-- Tests over one root are made, asked to work, and given up. There are those that are still held,
each with the rig it was made with, the files of all that were made, the steps that were taken, each
for the files of a test, and the file system. The tools may be others at each operation. -/
inductive Chronicle (root : Path) (start : Disk) :
    List (Rig × Trial) → List Files → List (Files × Step) → Disk → Prop
  | start : Chronicle root start [] [] [] start
  | made {held used log disk rig category name trial} : Chronicle root start held used log disk →
      rig.settings.root = root → Trial.new rig category name = .ok trial →
      Chronicle root start ((rig, trial) :: held) (trial.files :: used) log disk
  | worked {first last used log disk rig trial} (machine : Machine) (operation : Operation) :
      Chronicle root start (first ++ (rig, trial) :: last) used log disk →
      (∀ launch ∈ machine.launches (operation.job rig trial) disk,
        Confined machine rig trial.files launch) →
      Chronicle root start
        (first ++ (rig, (machine.run (operation.job rig trial) disk).1) :: last) used
        (log ++ (machine.trace (operation.job rig trial) disk).map (trial.files, ·))
        (machine.run (operation.job rig trial) disk).2
  | dropped {first last used log disk rig trial} (machine : Machine) :
      Chronicle root start (first ++ (rig, trial) :: last) used log disk →
      Chronicle root start (first ++ last) used
        (log ++ (machine.trace (trial.discard rig) disk).map (trial.files, ·))
        (machine.run (trial.discard rig) disk).2

/-- The tests over a root that given files belong to. -/
def plotsOf (root : Path) (used : List Files) : Set Plot :=
  {p | p.root = root ∧ p.files ∈ used}

/-- What is true all along a chronicle: nothing has changed but what is made for the tests, each
test that is held can be gone by, and each step was within the files of its test. -/
structure Orderly (root : Path) (start : Disk) (held : List (Rig × Trial)) (used : List Files)
    (log : List (Files × Step)) (disk : Disk) : Prop where
  since : Since start root (plotsOf root used) disk
  plots : ∀ files ∈ used, ∃ p ∈ plotsOf root used, p.files = files
  stands : ∀ item ∈ held, ∃ p ∈ plotsOf root used,
    p.Stands (start.isFile (p.path .source) = true) Set.univ item.2
  steps : ∀ entry ∈ log, entry.1 ∈ used ∧ Since start root (plotsOf root used) entry.2.before ∧
    Since start root (plotsOf root used) entry.2.after ∧
    entry.2.Within (start.Spells root) entry.1.generated

variable {root : Path} {start disk : Disk} {held held' : List (Rig × Trial)} {used : List Files}
  {log : List (Files × Step)} {rig : Rig} {trial : Trial} {machine : Machine} {p : Plot} {α : Type}

theorem plotsOf_cons (files : Files) : plotsOf root used ⊆ plotsOf root (files :: used) :=
  fun _ hp => ⟨hp.1, List.mem_cons_of_mem _ hp.2⟩

namespace Plot

theorem keeps_job {top : Place} {sourced : Prop} {known : Set Path}
    (h : p.Stands sourced known trial) (operation : Operation) :
    (operation.job rig trial).Keeps (p.contract rig top sourced)
      (fun later next => p.Stands sourced later next) known := by
  cases operation with
  | build => exact Job.Keeps.bind (keeps_trial_build h) fun _ _ _ hr => .done hr.1
  | run => exact Job.Keeps.bind (keeps_run h) fun _ _ _ hr => .done hr
  | check =>
    have hcheck : (trial.check rig).Keeps (p.contract rig top sourced)
        (fun later r => p.Stands sourced later r.2) known :=
      Job.Keeps.bind (keeps_run h) fun _ _ _ hr => .done hr
    exact Job.Keeps.bind hcheck fun _ _ _ hr => .done hr

theorem trace_of_keeps {plots : Set Plot} {fits : Set Path → α → Prop} {job : Job α}
    (hlinkless : ∀ top, start.Arrives p.root top → start.Linkless top) (hp : p ∈ plots)
    (hsince : Since start p.root plots disk)
    (hkeeps : ∀ top, job.Keeps (p.contract rig top (start.isFile (p.path .source) = true)) fits
      Set.univ)
    (hlaunches : ∀ launch ∈ machine.launches job disk, Confined machine rig p.files launch) :
    (∃ later, fits later (machine.run job disk).1) ∧
      Since start p.root plots (machine.run job disk).2 ∧
      ∀ step ∈ machine.trace job disk, Since start p.root plots step.before ∧
        Since start p.root plots step.after ∧
        step.Within (start.Spells p.root) p.files.generated := by
  -- A root that leads nowhere may be said to lead anywhere, as there is no source below it.
  obtain ⟨top, htop⟩ : ∃ top, ∀ top', start.Arrives p.root top' → top' = top := by
    by_cases harrives : ∃ top, start.Arrives p.root top
    · obtain ⟨top, harrives⟩ := harrives
      exact ⟨top, fun top' harrives' => harrives'.unique harrives⟩
    · exact ⟨[], fun top' harrives' => (harrives ⟨top', harrives'⟩).elim⟩
  exact (hkeeps top).trace (governs hlinkless htop hp) disk hsince hlaunches

end Plot

theorem launches_discard (machine : Machine) (rig : Rig) (trial : Trial) (disk : Disk) :
    machine.launches (trial.discard rig) disk = [] := by
  have hremove : ∀ paths disk, machine.launches (removeAll paths) disk = [] := by
    intro paths
    induction paths with
    | nil => exact fun _ => rfl
    | cons path rest ih => exact fun disk => ih _
  unfold discard
  split_ifs
  · exact hremove _ disk
  · rfl

namespace Orderly

theorem begin (root : Path) (start : Disk) : Orderly root start [] [] [] start where
  since := .refl start
  plots _ hmem := by contradiction
  stands _ hmem := by contradiction
  steps _ hmem := by contradiction

theorem made {category name : String} (h : Orderly root start held used log disk)
    (hroot : rig.settings.root = root) (hnew : Trial.new rig category name = .ok trial) :
    Orderly root start ((rig, trial) :: held) (trial.files :: used) log disk := by
  obtain ⟨hfiles, himage, hverdict⟩ := Plot.of_new hnew
  have hle : plotsOf root used ⊆ plotsOf root (trial.files :: used) := plotsOf_cons trial.files
  have hp : Plot.ofNew hnew ∈ plotsOf root (trial.files :: used) :=
    ⟨hroot, hfiles ▸ List.mem_cons_self ..⟩
  constructor
  · exact h.since.mono hle
  · intro files hmem
    rcases List.mem_cons.mp hmem with rfl | hmem
    · exact ⟨_, hp, hfiles.symm⟩
    · obtain ⟨p, hp, rfl⟩ := h.plots files hmem
      exact ⟨p, hle hp, rfl⟩
  · intro item hmem
    rcases List.mem_cons.mp hmem with rfl | hmem
    · refine ⟨_, hp, hfiles, ?_, ?_⟩
      · intro hne
        exact absurd himage hne
      · intro hpass
        simp [passed, hverdict] at hpass
    · obtain ⟨p, hp, hstands⟩ := h.stands item hmem
      exact ⟨p, hle hp, hstands⟩
  · intro entry hmem
    obtain ⟨hused, hbefore, hafter, hwithin⟩ := h.steps entry hmem
    exact ⟨List.mem_cons_of_mem _ hused, hbefore.mono hle, hafter.mono hle, hwithin⟩

/-- A job of a test leaves everything in order, if what is held afterwards can be gone by. -/
theorem extend {fits : Set Path → α → Prop} {job : Job α}
    (h : Orderly root start held used log disk)
    (hlinkless : ∀ top, start.Arrives root top → start.Linkless top) (hp : p ∈ plotsOf root used)
    (hkeeps : ∀ top, job.Keeps (p.contract rig top (start.isFile (p.path .source) = true)) fits
      Set.univ)
    (hlaunches : ∀ launch ∈ machine.launches job disk, Confined machine rig p.files launch)
    (hstands : ∀ later, fits later (machine.run job disk).1 → ∀ item ∈ held',
      item ∈ held ∨ p.Stands (start.isFile (p.path .source) = true) later item.2) :
    Orderly root start held' used (log ++ (machine.trace job disk).map (p.files, ·))
      (machine.run job disk).2 := by
  obtain ⟨rfl, hfiles⟩ : p.root = root ∧ p.files ∈ used := hp
  have hmine : p ∈ plotsOf p.root used := ⟨rfl, hfiles⟩
  obtain ⟨⟨later, hfits⟩, hsince, hsteps⟩ :=
    Plot.trace_of_keeps hlinkless hmine h.since hkeeps hlaunches
  constructor
  · exact hsince
  · exact h.plots
  · intro item hmem
    rcases hstands later hfits item hmem with hold | hnew
    · exact h.stands item hold
    · exact ⟨p, hmine, hnew.mono (Set.subset_univ _)⟩
  · intro entry hmem
    rcases List.mem_append.mp hmem with hold | hnew
    · exact h.steps entry hold
    · obtain ⟨step, hstep, rfl⟩ := List.mem_map.mp hnew
      exact ⟨hfiles, hsteps step hstep⟩

end Orderly

/-- A chronicle leaves everything in order. -/
theorem Chronicle.orderly (h : Chronicle root start held used log disk)
    (hlinkless : ∀ top, start.Arrives root top → start.Linkless top) :
    Orderly root start held used log disk := by
  induction h with
  | start => exact .begin root start
  | made _ hroot hnew ih => exact ih.made hroot hnew
  | @worked first last used log disk rig trial machine operation _ hlaunches ih =>
    -- The test stands as its plot says, so what it does next keeps to the contract of the plot.
    obtain ⟨p, hp, hstands⟩ := ih.stands (rig, trial) (by simp)
    rw [hstands.files] at hlaunches ⊢
    refine ih.extend hlinkless hp (fun top => Plot.keeps_job hstands operation) hlaunches ?_
    intro later hnext item hmem
    rcases List.mem_append.mp hmem with hfirst | hlast
    · exact Or.inl (List.mem_append_left _ hfirst)
    · rcases List.mem_cons.mp hlast with rfl | hlast
      · exact Or.inr hnext
      · exact Or.inl (List.mem_append_right _ (List.mem_cons_of_mem _ hlast))
  | @dropped first last used log disk rig trial machine _ ih =>
    obtain ⟨p, hp, hstands⟩ := ih.stands (rig, trial) (by simp)
    rw [hstands.files]
    refine ih.extend hlinkless hp (fun top => Plot.keeps_discard hstands) ?_ ?_
    · intro launch hmem
      rw [launches_discard] at hmem
      contradiction
    · intro later _ item hmem
      refine Or.inl ?_
      rcases List.mem_append.mp hmem with hfirst | hlast
      · exact List.mem_append_left _ hfirst
      · exact List.mem_append_right _ (List.mem_cons_of_mem _ hlast)

/-- The file system now, and before and after each step that was taken. -/
def moments (log : List (Files × Step)) (disk : Disk) : List Disk :=
  disk :: log.flatMap fun entry => [entry.2.before, entry.2.after]

/-- What is at a moment as it was at the start: sources and golden results, whether they are there
or not and whether their tests were made or not, and all files but those that are made for tests.
The paths of these lead nowhere but to the places that they spell. -/
structure Untouched (root : Path) (start : Disk) (used : List Files) (moment : Disk) : Prop where
  inputs : ∀ category name, checkName category name = .ok () →
    moment.find? (Files.locate root category name).source =
      start.find? (Files.locate root category name).source ∧
    moment.find? (Files.locate root category name).expected =
      start.find? (Files.locate root category name).expected
  files : ∀ place data mode, start.at? place = some (.file data mode) →
    (∀ files ∈ used, ∀ path ∈ files.generated, ¬start.Spells root path place) →
    moment.at? place = some (.file data mode)
  sites : ∀ files ∈ used, ∀ path ∈ files.generated, ∀ place, moment.site? path = some place →
    start.Spells root path place

theorem Since.untouched {moment : Disk} (h : Since start root (plotsOf root used) moment)
    (hlinkless : ∀ top, start.Arrives root top → start.Linkless top)
    (hplots : ∀ files ∈ used, ∃ p ∈ plotsOf root used, p.files = files) :
    Untouched root start used moment where
  inputs category name hcheck := by
    obtain ⟨hcategory, hname⟩ := checkName_eq_ok_iff.mp hcheck
    let p : Plot := ⟨root, category, name, Path.isName_of_flaw? hcategory,
      Path.isName_of_flaw? hname⟩
    have hinput : ∀ part : Part, ¬part.IsGenerated →
        moment.find? (p.path part) = start.find? (p.path part) :=
      fun part => Since.find?_eq h hlinkless
    constructor
    · exact hinput .source (by simp [Part.IsGenerated])
    · exact hinput .expected (by simp [Part.IsGenerated])
  files place data mode hat hfree := by
    rcases h.entries place with hsame | ⟨hmade, -⟩ | ⟨-, hnone, -⟩
    · exact hsame.trans hat
    · obtain ⟨top, harrives, p, ⟨rfl, hfiles⟩, part, hpart, rfl⟩ := hmade
      exact absurd (Plot.spells_place harrives part)
        (hfree p.files hfiles _ (Plot.path_mem_generated hpart))
    · rw [hat] at hnone
      contradiction
  sites files hfiles path hpath place hsite := by
    obtain ⟨p, ⟨rfl, -⟩, rfl⟩ := hplots files hfiles
    obtain ⟨part, -, rfl⟩ := Plot.mem_generated_iff.mp hpath
    exact h.spells_of_site? hlinkless hsite

/-- Tests over one root touch nothing but the files that are made for them: this is true of each
step, and at each moment everything else is as it was at the start. Nothing is expected of the tools
but that they write no files but their outputs. -/
theorem chronicle_confined (h : Chronicle root start held used log disk)
    (hlinkless : ∀ top, start.Arrives root top → start.Linkless top) :
    (∀ entry ∈ log, entry.1 ∈ used ∧
      entry.2.Within (start.Spells root) entry.1.generated) ∧
    ∀ moment ∈ moments log disk, Untouched root start used moment := by
  have horderly := h.orderly hlinkless
  constructor
  · intro entry hmem
    obtain ⟨hused, -, -, hwithin⟩ := horderly.steps entry hmem
    exact ⟨hused, hwithin⟩
  · intro moment hmem
    have hsince : Since start root (plotsOf root used) moment := by
      rcases List.mem_cons.mp hmem with rfl | hmem
      · exact horderly.since
      · obtain ⟨entry, hentry, hmoment⟩ := List.mem_flatMap.mp hmem
        obtain ⟨-, hbefore, hafter, -⟩ := horderly.steps entry hentry
        rcases List.mem_pair.mp hmoment with rfl | rfl
        · exact hbefore
        · exact hafter
    exact hsince.untouched hlinkless horderly.plots

/-- The test of the sample is made and has its image made, which is there, with the golden result as
it was. -/
theorem chronicle_confined_sample : ∃ log built,
    Chronicle "" sampleDisk [(sampleRig, sampleBuilt)] [sampleTrial.files] log built ∧
    (∀ entry ∈ log, entry.2.Within (sampleDisk.Spells "") entry.1.generated) ∧
    built.content? "c/testResources/memImages/t.mem" = some (Image.text [⟨['0'], 0x13⟩]) ∧
    built.find? "c/testResources/expected/t.txt" =
      sampleDisk.find? "c/testResources/expected/t.txt" := by
  obtain ⟨built, hbuild, halters, himage⟩ := sample_builds_on (sample_fit_of sampleCrew) rfl rfl
  have hmade : Chronicle "" sampleDisk ([] ++ [(sampleRig, sampleTrial)]) [sampleTrial.files] []
      sampleDisk :=
    .made .start rfl sampleTrial_new
  have hworked := Chronicle.worked (sampleMachineOf sampleCrew) .build hmade
    fun launch _ => sample_confined_of sampleCrew launch
  rw [(Operation.run_job_build _ _ _ _).1, run_build_ok hbuild] at hworked
  obtain ⟨hsteps, hmoments⟩ := chronicle_confined hworked fun top _ => sampleDisk_linkless top
  refine ⟨_, built, hworked, fun entry hmem => (hsteps entry hmem).2, ?_, ?_⟩
  · have hcontent := (sampleDisk_on.vary halters).content? .image
    rw [himage] at hcontent
    exact hcontent
  · exact ((hmoments _ (List.mem_cons_self ..)).inputs "c" "t" rfl).2

end GoldenRun.Trial
