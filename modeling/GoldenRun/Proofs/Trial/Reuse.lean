import GoldenRun.Proofs.Trial.Once
import GoldenRun.Proofs.Trial.Worlds

/-!
# Runs of an image that is there

Once the image has been made, a run simulates it and does nothing else. In two worlds that look
alike to the simulation all later runs come to the same. The source and the tools that images are
made with may be others, or may be gone.
-/

namespace GoldenRun.Trial

/-- Two trials of the same test have each made its image, and each runs in a world of its own. In
between anything may be done with them and anything may happen, as long as the worlds look alike to
a run afterwards, but for the image, and the simulator is launched on the same image. The trials
come to some events. -/
inductive Sequel (rig : Rig) (start : Trial) :
    List Event → List Event → Trial × Disk → Trial × Disk → Prop
  | made {history history' trial trial' disk other} :
      Worked rig start history trial → Worked rig start history' trial' →
      HasMade rig start.files history → HasMade rig start.files history' →
      Alike start.files disk other → Sequel rig start [] [] (trial, disk) (trial', other)
  | meanwhile {events events' last last' history history' trial trial' disk other} :
      Sequel rig start events events' last last' →
      Worked rig last.1 history trial → Worked rig last'.1 history' trial' →
      Alike start.files disk other → Sequel rig start events events' (trial, disk) (trial', other)
  | ran {events events' trial trial' disk other} (machine machine' : Machine)
      (operation : Operation) :
      Sequel rig start events events' (trial, disk) (trial', other) → operation ≠ .build →
      (∀ launched launched',
        (start.simulation rig, launched) ∈
          machine.launches (operation.perform rig trial) disk →
        (start.simulation rig, launched') ∈
          machine'.launches (operation.perform rig trial') other →
        SameSimulation rig start.files machine machine' launched launched') →
      Sequel rig start
        (events ++ [(machine.run (operation.perform rig trial) disk).1.1])
        (events' ++ [(machine'.run (operation.perform rig trial') other).1.1])
        ((machine.run (operation.perform rig trial) disk).1.2,
          (machine.run (operation.perform rig trial) disk).2)
        ((machine'.run (operation.perform rig trial') other).1.2,
          (machine'.run (operation.perform rig trial') other).2)

variable {rig : Rig} {files : Files} {machine machine' : Machine} {disk other : Disk}

theorem run_of_record {trial : Trial} (himage : trial.image ≠ none) (rig : Rig) (machine : Machine)
    (disk : Disk) :
    machine.run (trial.run rig) disk = (((machine.attempt (simulate rig trial.files) disk).1,
        { trial with verdict := verdictOf (machine.attempt (simulate rig trial.files) disk).1 }),
        (machine.attempt (simulate rig trial.files) disk).2) ∧
      machine.launches (trial.run rig) disk =
        machine.launches (simulate rig trial.files).job disk := by
  obtain ⟨image, himage⟩ := Option.ne_none_iff_exists'.mp himage
  have hrequire : trial.requireImage rig = .done (.ok image, trial) := by
    unfold requireImage
    rw [himage]
    rfl
  have hrequired : machine.run (trial.requireImage rig) disk = ((.ok image, trial), disk) := by
    rw [hrequire]
    rfl
  obtain ⟨hrun, hlaunches⟩ := run_of_image hrequired
  rw [hrequire, Machine.launches_done, List.nil_append] at hlaunches
  exact ⟨hrun, hlaunches⟩

theorem Operation.run_perform {operation : Operation} (hrun : operation ≠ .build) :
    ∃ report : Except Failure Comparison → Event, ∀ (rig : Rig) (trial : Trial),
      trial.image ≠ none → ∀ (machine : Machine) (disk : Disk),
        machine.run (operation.perform rig trial) disk =
          ((report (machine.attempt (simulate rig trial.files) disk).1,
            { trial with
              verdict := verdictOf (machine.attempt (simulate rig trial.files) disk).1 }),
            (machine.attempt (simulate rig trial.files) disk).2) ∧
        machine.launches (operation.perform rig trial) disk =
          machine.launches (simulate rig trial.files).job disk := by
  cases operation with
  | build => exact absurd rfl hrun
  | run =>
    refine ⟨.ran, fun rig trial himage machine disk => ?_⟩
    obtain ⟨hran, hlaunches⟩ := run_of_record himage rig machine disk
    rw [perform, Job.bind_eq, Machine.run_bind, Machine.launches_bind, hlaunches, hran]
    generalize machine.attempt (simulate rig trial.files) disk = judged
    exact ⟨rfl, List.append_nil _⟩
  | check =>
    refine ⟨fun result => .checked (result.map Comparison.passed),
      fun rig trial himage machine disk => ?_⟩
    obtain ⟨hran, hlaunches⟩ := run_of_record himage rig machine disk
    rw [perform, Trial.check]
    simp only [Job.bind_eq, Machine.run_bind, Machine.launches_bind, hran, hlaunches]
    generalize machine.attempt (simulate rig trial.files) disk = judged
    exact ⟨rfl, (List.append_nil _).trans (List.append_nil _)⟩

theorem Worked.keeps_record {start trial : Trial} {history : List (List Exchange)}
    (h : Worked rig start history trial) (himage : start.image ≠ none) :
    trial.files = start.files ∧ trial.image ≠ none := by
  induction h with
  | start => exact ⟨rfl, himage⟩
  | performed operation _ hperformed ih =>
    obtain ⟨hfiles, hrecord⟩ := ih
    rcases Operation.perform_dialogue hperformed with
      ⟨-, hnext, _, -, hnone⟩ | ⟨-, -, hsame, hnext, -⟩
    · exact ⟨hnext.trans hfiles, fun hlost => hrecord (hnone.mp hlost).1⟩
    · exact ⟨hnext.trans hfiles, hsame ▸ hrecord⟩

variable {start : Trial} {events events' : List Event} {last last' : Trial × Disk}

/-- All that later runs come to is the same in both worlds, and the worlds go on to look alike. -/
theorem Sequel.alike (h : Sequel rig start events events' last last')
    (himage : start.image = none) (hslash : start.files.result.endsInSlash = false)
    (hroute : start.files.result.route = start.files.result.steps) :
    events' = events ∧ Alike start.files last.2 last'.2 ∧
      (last.1.files = start.files ∧ last.1.image ≠ none) ∧
      last'.1.files = start.files ∧ last'.1.image ≠ none := by
  induction h with
  | made hworked hworked' hmade hmade' halike =>
    obtain ⟨hfiles, hrecord⟩ := hworked.record himage
    obtain ⟨hfiles', hrecord'⟩ := hworked'.record himage
    exact ⟨rfl, halike, ⟨hfiles, fun hnone => hrecord.mp hnone hmade⟩, hfiles',
      fun hnone => hrecord'.mp hnone hmade'⟩
  | meanwhile _ hworked hworked' halike ih =>
    obtain ⟨hevents, -, ⟨hfiles, hrecord⟩, hfiles', hrecord'⟩ := ih
    obtain ⟨hsame, hkept⟩ := hworked.keeps_record hrecord
    obtain ⟨hsame', hkept'⟩ := hworked'.keeps_record hrecord'
    exact ⟨hevents, halike, ⟨hsame.trans hfiles, hkept⟩, hsame'.trans hfiles', hkept'⟩
  | @ran events events' trial trial' disk other machine machine' operation _ hrun hsim ih =>
    obtain ⟨rfl, halike, ⟨hfiles, hrecord⟩, hfiles', hrecord'⟩ := ih
    obtain ⟨report, hperform⟩ := Operation.run_perform hrun
    obtain ⟨hperformed, hlaunches⟩ := hperform rig trial hrecord machine disk
    obtain ⟨hperformed', hlaunches'⟩ := hperform rig trial' hrecord' machine' other
    have hfiles : trial.files = start.files := hfiles
    have hfiles' : trial'.files = start.files := hfiles'
    rw [hlaunches, hlaunches', hfiles, hfiles'] at hsim
    have hconcurs : machine.Concurs machine' (simulate rig start.files) disk other :=
      concurs_simulate hslash hroute halike subset_rfl hsim
    rw [hperformed, hperformed']
    refine ⟨?_, ?_, ⟨hfiles, hrecord⟩, hfiles', hrecord'⟩
    · rw [hfiles, hfiles', hconcurs.result]
    · rw [hfiles, hfiles']
      dsimp only
      exact Alike.inStep halike hconcurs.inStep

variable {category name : String}

/-- Whatever an accepted test has been asked to do and whatever its requests were answered: once an
attempt to make the image has succeeded, a run launches the simulator and no other tool; until then,
and whenever the image is asked for, it is made from the beginning. In worlds where the image has
been made and is the same, and that look alike but for it where a run looks, all runs come to the
same, even if source and tools have become others or are gone. -/
theorem image_made_once (hnew : Trial.new rig category name = .ok start) :
    (∀ history trial, Worked rig start history trial → MakesOnce rig trial history) ∧
    ∀ events events' last last', Sequel rig start events events' last last' →
      events' = events ∧ Alike start.files last.2 last'.2 := by
  obtain ⟨hfiles, himage, -⟩ := Plot.of_new hnew
  refine ⟨fun history trial hworked => hworked.makesOnce himage, fun _ _ _ _ hsequel => ?_⟩
  have hresult : start.files.result = (Plot.ofNew hnew).path .result := by
    rw [hfiles]
    rfl
  obtain ⟨hevents, halike, -⟩ := hsequel.alike himage
    (hresult ▸ (Plot.ofNew hnew).endsInSlash_path .result)
    (hresult ▸ (Plot.ofNew hnew).route_path .result)
  exact ⟨hevents, halike⟩

theorem Plot.Undiverted.varies_clear {p : Plot} {cleared : Disk} {answer : Except Failure Unit}
    (h : p.Undiverted disk)
    (hclear : machine.attempt (Simulator.clear p.files.result) disk = (answer, cleared)) :
    Disk.Varies {place | place.getLast? = some (p.leaf .result)} Set.univ disk cleared := by
  have hprepared := varies_prepare disk p.files.result
  unfold Simulator.clear at hclear
  rcases attempt_prepareDirectory machine .actual p.files.result disk with
    ⟨made, hprepare, hattempt⟩ | ⟨directory, fault, made, hdirectory, hmake, hattempt⟩
  · rw [hprepare] at hprepared
    have hundiverted := h.vary hprepared
    have hleaf : ∀ place, made.named? p.files.result = some place →
        place.getLast? = some (p.leaf .result) :=
      fun place hnamed => hundiverted.named? .result trivial hnamed
    have hremoved := Disk.varies_removeFile machine made (p.endsInSlash_path .result)
      fun place target hnamed hat =>
        hundiverted place target hat .result trivial (hleaf place hnamed)
    have hlast : cleared = (machine.answer (.removeFile p.files.result) made).2 := by
      rw [Machine.attempt_bind_ok hattempt, Machine.attempt_ask_bind] at hclear
      split at hclear <;> exact (Prod.mk.inj hclear).2.symm
    rw [hlast]
    exact hprepared.then_files (hremoved.mono hleaf le_rfl)
  · rw [Machine.attempt_bind_error hattempt] at hclear
    rw [prepare_of_directory? hdirectory, hmake] at hprepared
    obtain ⟨-, rfl⟩ := Prod.mk.inj hclear
    exact hprepared.mono (Set.empty_subset _) le_rfl

section Sample

theorem sample_ways (hlinkless : disk.Linkless []) (hhome : disk.home = []) {place : Place}
    (h : place ∈ sampleTrial.files.ways disk) :
    place <+: ["c", "testResources", "results", "t.txt"] ∨
      place <+: ["c", "testResources", "expected", "t.txt"] := by
  -- Without links a way comes by the places above the one that its path names.
  have hway : ∀ follow path names, place ∈ disk.way follow path → path.isAbsolute = false ∧
      ".." ∉ path.route ∧ path.route.filter (· ≠ ".") <+: names → place <+: names := by
    rintro follow path names hplace ⟨hrelative, hup, hnames⟩
    have hbegins := Disk.OnWay.prefix hplace (fun place => hlinkless place) hup
    rw [Disk.start, hrelative, hhome] at hbegins
    exact hbegins.trans hnames
  have hshelf : sampleTrial.files.result.directory? = some "c/testResources/results" := by decide
  have habove : ∀ path ∈ Disk.lineage "c/testResources/results",
      path.isAbsolute = false ∧ ".." ∉ path.route ∧
        path.route.filter (· ≠ ".") <+: ["c", "testResources", "results", "t.txt"] := by decide
  rcases h with ⟨directory, hdirectory, path, hpath, hplace⟩ | hplace | hplace
  · rw [hshelf] at hdirectory
    obtain rfl := Option.some.inj hdirectory
    exact Or.inl (hway _ path _ hplace (habove path hpath))
  · exact Or.inl (hway _ _ _ hplace (by decide))
  · exact Or.inr (hway _ _ _ hplace (by decide))

/-- The places of the source and of the tools that images are made with. -/
def sampleMakings : Set Place :=
  {["c", "testResources", "assembly", "t.s"], ["as"], ["od"]}

theorem sampleMakings_cases {place : Place} (h : place ∈ sampleMakings) :
    (place ∉ filesOf [] {Plot.ofNew sampleTrial_new} ∧
      place ∉ shelvesOf [] {Plot.ofNew sampleTrial_new}) ∧
    place ≠ [] ∧ ∃ data executable, sampleDisk.at? place = some (.file data executable) := by
  rcases h with rfl | rfl | rfl
  · have hfile : (Plot.ofNew sampleTrial_new).place [] .source ∉
        filesOf [] {Plot.ofNew sampleTrial_new} :=
      Plot.place_not_mem_files (by simp [Part.IsGenerated])
    have hshelf : (Plot.ofNew sampleTrial_new).place [] .source ∉
        shelvesOf [] {Plot.ofNew sampleTrial_new} := Plot.place_not_mem_shelves
    exact ⟨⟨hfile, hshelf⟩, by simp, _, _, rfl⟩
  · exact ⟨Plot.resources_not_mem [] _ ["as"] (by simp), by simp, _, _, rfl⟩
  · exact ⟨Plot.resources_not_mem [] _ ["od"] (by simp), by simp, _, _, rfl⟩

theorem sample_bare {built : Disk}
    (halters : (Plot.ofNew sampleTrial_new).Alters [] sampleDisk built) : ∃ bare : Disk,
    Disk.Varies sampleMakings ∅ built bare ∧ ∀ place ∈ sampleMakings, bare.at? place = none := by
  have herase : ∀ {disk : Disk} {place : Place}, Disk.Varies sampleMakings ∅ built disk →
      place ∈ sampleMakings → Disk.Varies sampleMakings ∅ built (disk.erase place) := by
    intro disk place hvaries hmem
    obtain ⟨⟨hfile, hshelf⟩, hne, data, executable, hat⟩ := sampleMakings_cases hmem
    have hloose : Loose (built.at? place) := by
      rw [Disk.Varies.at?_eq halters hfile hshelf, hat]
      trivial
    exact hvaries.trans (Set.disjoint_empty _) ((Disk.sets_erase hne
      (hvaries.loose hloose (Set.notMem_empty place))).within hmem)
  refine ⟨((built.erase ["c", "testResources", "assembly", "t.s"]).erase ["as"]).erase ["od"],
    herase (herase (herase (.refl built) ?_) ?_) ?_, ?_⟩
  · exact Or.inl rfl
  · exact Or.inr (Or.inl rfl)
  · exact Or.inr (Or.inr rfl)
  · rintro _ (rfl | rfl | rfl) <;> simp [Disk.at?_erase]

theorem sample_cleared {built bare launched : Disk}
    (halters : (Plot.ofNew sampleTrial_new).Alters [] sampleDisk built)
    (himage : (Plot.ofNew sampleTrial_new).view built [] .image =
      .ok (some (.file (Image.text [⟨['0'], 0x13⟩]) false)))
    (hvaries : Disk.Varies sampleMakings ∅ built bare)
    (hlaunched : (sampleTrial.simulation sampleRig, launched) ∈
      (sampleMachineOf sampleCrew).launches (simulate sampleRig sampleTrial.files).job bare) :
    launched.content? sampleTrial.files.image = some (Image.text [⟨['0'], 0x13⟩]) ∧
      (sampleMachineOf sampleCrew).findProgram launched sampleRig.simulator.program =
        .ok (sampleTool sampleCrew) := by
  have hundiverted := sampleDisk_undiverted.vary halters
  have hcleared : Disk.Varies {place | place.getLast? = some "t.txt"} Set.univ bare launched :=
    (hundiverted.vary hvaries).varies_clear (of_mem_launches_simulate hlaunched).2
  refine ⟨?_, ?_⟩
  · have hbuilt : built.content? ((Plot.ofNew sampleTrial_new).path .image) =
        some (Image.text [⟨['0'], 0x13⟩]) :=
      ((sampleDisk_on.vary halters).content? .image).trans (by rw [himage]; rfl)
    have hbare := hvaries.content? hbuilt fun place hplace hsite => by
      have hleaf : place.getLast? = some "t.mem" := hundiverted.site? .image trivial hsite
      rcases hplace with rfl | rfl | rfl <;> simp at hleaf
    refine hcleared.content? hbare fun place hplace hsite => ?_
    have hleaf : place.getLast? = some "t.mem" :=
      (hundiverted.vary hvaries).site? .image trivial hsite
    have hname : some "t.txt" = some "t.mem" := hplace.symm.trans hleaf
    simp at hname
  · have hfound : sampleDisk.resolve true "/sim" = .ok (.entry ["sim"] (.file [2] true)) :=
      Disk.find?_eq_some_iff.mp (by cbv)
    have hbuilt := Disk.Varies.resolve halters hfound
      (Plot.resources_not_mem [] _ ["sim"] (by simp)).1
    have hbare := hvaries.resolve hbuilt (by simp [sampleMakings])
    have hlast := hcleared.resolve hbare (by simp)
    have hprogram : sampleRig.simulator.program = "/sim" := by decide
    simp [hprogram, Machine.findProgram, Machine.programAt, hlast, sampleMachineOf]

/-- The sample has made its image and passes, though its source and the tools that the image was
made with have been removed. -/
theorem image_made_once_sample : ∃ (bare : Disk) (exchanges : List Exchange),
    Worked sampleRig sampleTrial [exchanges] sampleBuilt ∧
    HasMade sampleRig sampleTrial.files [exchanges] ∧
    MakesOnce sampleRig sampleBuilt [exchanges] ∧
    (∀ place ∈ sampleMakings, bare.at? place = none) ∧
    ((sampleMachineOf sampleCrew).run (Operation.run.perform sampleRig sampleBuilt) bare).1.1 =
      .ran (.ok ⟨true, 1, none, none⟩) := by
  obtain ⟨built, hbuild, halters, himage⟩ := sample_builds_on (sample_fit_of sampleCrew) rfl rfl
  obtain ⟨bare, hvaries, hbare⟩ := sample_bare halters
  obtain ⟨exchanges, hdialogue⟩ := Job.Dialogue.of_run (sampleMachineOf sampleCrew)
    (Operation.build.perform sampleRig sampleTrial) sampleDisk
  rw [Operation.perform, Job.bind_eq, Machine.run_bind, run_build_ok hbuild] at hdialogue
  have hworked : Worked sampleRig sampleTrial [exchanges] sampleBuilt :=
    .performed .build .start hdialogue
  have hmade : HasMade sampleRig sampleTrial.files [exchanges] :=
    not_not.mp ((hworked.record rfl).2.not.mp (by simp [sampleBuilt]))
  obtain ⟨honce, hsequel⟩ := image_made_once sampleTrial_new
  have hlinkless : built.Linkless [] :=
    fun below target hat => sampleDisk_linkless [] below target (Disk.Varies.link halters hat)
  have halike : Alike sampleTrial.files built bare := by
    refine alike_of_varies hvaries fun place hplace => ⟨fun hmaking => ?_, Set.notMem_empty place⟩
    have hways := sample_ways hlinkless halters.home hplace
    rcases hmaking with rfl | rfl | rfl <;> revert hways <;> decide
  have himaged : sampleBuilt.image ≠ none := by simp [sampleBuilt]
  have hlaunches : ∀ disk, (sampleMachineOf sampleCrew).launches
      (Operation.run.perform sampleRig sampleBuilt) disk =
        (sampleMachineOf sampleCrew).launches (simulate sampleRig sampleTrial.files).job disk := by
    intro disk
    obtain ⟨report, hperform⟩ := Operation.run_perform (by decide : Operation.run ≠ .build)
    exact (hperform sampleRig sampleBuilt himaged (sampleMachineOf sampleCrew) disk).2
  have hran := Sequel.ran (sampleMachineOf sampleCrew) (sampleMachineOf sampleCrew) .run
    (.made hworked hworked hmade hmade halike) (by decide) fun launched launched' hmem hmem' => by
      rw [hlaunches] at hmem hmem'
      obtain ⟨hcontent, hfind⟩ := sample_cleared halters himage (.refl built) hmem
      obtain ⟨hcontent', hfind'⟩ := sample_cleared halters himage hvaries hmem'
      obtain ⟨habit, hfollows⟩ := follows_of_goesBy (sampleTool_simulates sampleCrew)
      exact ⟨hcontent'.trans hcontent.symm,
        Or.inr ⟨_, _, habit, hfind, hfind', hfollows, hfollows⟩⟩
  obtain ⟨hevents, -⟩ := hsequel _ _ _ _ hran
  refine ⟨bare, exchanges, hworked, hmade, honce _ _ hworked, hbare,
    (List.cons.inj hevents).1.trans ?_⟩
  rw [Operation.perform, Job.bind_eq, Machine.run_bind,
    (run_of_record himaged sampleRig (sampleMachineOf sampleCrew) built).1]
  exact congrArg Event.ran ((sample_simulates_on (sample_fit_of sampleCrew) (fun _ _ => rfl) halters
    himage).trans (congrArg Except.ok sample_judged))

end Sample

end GoldenRun.Trial
