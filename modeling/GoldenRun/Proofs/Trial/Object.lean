import GoldenRun.Proofs.Trial.Setback

/-!
# Where the object comes from

Nothing but the assembler and the preparations around it happens to the object before it is
disassembled. What the disassembler meets is what the launch of the assembler has left, and what
that launch has met is what was there at the beginning. An object that is disassembled is therefore
new if none was there. An old one is not removed: an assembler that writes nothing leaves it to the
disassembler.
-/

namespace GoldenRun

namespace Machine

variable {α β : Type} {machine : Machine} {disk after last : Disk} {x : Attempt α}
  {f : α → Attempt β} {b : β} {tool : Tool} {command : Launch}

theorem exists_of_attempt_bind (h : machine.attempt (x >>= f) disk = (.ok b, last)) :
    ∃ a between, machine.attempt x disk = (.ok a, between) ∧
      machine.attempt (f a) between = (.ok b, last) := by
  rcases hfirst : machine.attempt x disk with ⟨failure | a, between⟩
  · rw [attempt_bind_error hfirst] at h
    simp at h
  · rw [attempt_bind_ok hfirst] at h
    exact ⟨a, between, rfl, h⟩

theorem launches_launchChecked (machine : Machine) (tool : Tool) (command : Launch) (disk : Disk) :
    machine.launches (Attempt.launchChecked tool command).job disk = [(command, disk)] := by
  have hone := Attempt.launches_launch machine tool command disk
  unfold Attempt.launchChecked
  rcases hlaunch : machine.attempt (Attempt.launch tool command) disk with
    ⟨failure | ⟨status, diagnostics⟩, after⟩
  · exact (launches_bind_error hlaunch).trans hone
  · rw [launches_bind_ok hlaunch, hone]
    by_cases hsuccess : status.isSuccess = true
    · simp only [hsuccess, if_true]
      rfl
    · simp only [hsuccess]
      rfl

theorem launch_of_attempt_launchChecked
    (h : machine.attempt (Attempt.launchChecked tool command) disk = (.ok (), after)) :
    ∃ status diagnostics, machine.launch command disk = (.ok ⟨some status, diagnostics⟩, after) ∧
      status.isSuccess = true := by
  obtain ⟨⟨status, diagnostics⟩, between, hlaunch, hchecked⟩ := exists_of_attempt_bind h
  rw [attempt_launch_eq] at hlaunch
  by_cases hsuccess : status.isSuccess = true
  · simp only [hsuccess, if_true] at hchecked
    obtain rfl : between = after := congrArg Prod.snd hchecked
    rcases hanswer : machine.launch command disk with ⟨fault | ⟨_ | ended, text⟩, left⟩ <;>
      rw [hanswer] at hlaunch
    · simp at hlaunch
    · simp at hlaunch
    · obtain ⟨⟨rfl, rfl⟩, rfl⟩ : (ended = status ∧ text = diagnostics) ∧ left = between := by
        simpa using hlaunch
      exact ⟨ended, text, rfl, hsuccess⟩
  · simp only [hsuccess] at hchecked
    simp at hchecked

theorem exists_of_attempt_prepareDirectory {role : Role} {path : Path}
    (h : machine.attempt (Attempt.prepareDirectory role path) disk = (.ok (), after)) :
    disk.prepare path = (.ok (), after) := by
  rcases Trial.attempt_prepareDirectory machine role path disk with
    ⟨made, hprepare, hattempt⟩ | ⟨directory, fault, made, hdirectory, hmake, hattempt⟩
  · rw [hattempt] at h
    rw [hprepare, (Prod.mk.inj h).2]
  · rw [hattempt] at h
    simp at h

variable {tools : Toolchain} {source object listing : Path} {assembled : Disk}

theorem exists_of_attempt_assemble
    (h : machine.attempt (tools.assemble source object) disk = (.ok (), assembled)) :
    disk.isFile source = true ∧ ∃ launched status diagnostics,
      disk.prepare object = (.ok (), launched) ∧
      machine.launches (tools.assemble source object).job disk =
        [(tools.assembleCommand source object, launched)] ∧
      machine.launch (tools.assembleCommand source object) launched =
        (.ok ⟨some status, diagnostics⟩, assembled) ∧ status.isSuccess = true := by
  have hsource : machine.answer (.isFile source) disk = (disk.isFile source, disk) := rfl
  unfold Toolchain.assemble at h ⊢
  rw [attempt_ask_bind, hsource] at h
  rw [launches_ask_bind, hsource]
  cases hfile : disk.isFile source with
  | false =>
    rw [hfile] at h
    simp at h
  | true =>
    simp only [hfile, if_true] at h ⊢
    obtain ⟨_, launched, hprepare, hlaunch⟩ := exists_of_attempt_bind h
    obtain ⟨status, diagnostics, hanswer, hsuccess⟩ := launch_of_attempt_launchChecked hlaunch
    have hquiet := (Attempt.launching_prepareDirectory .object object).launches_eq_nil machine disk
    refine ⟨trivial, launched, status, diagnostics, exists_of_attempt_prepareDirectory hprepare, ?_,
      hanswer, hsuccess⟩
    rw [launches_bind_ok hprepare, hquiet, launches_launchChecked]
    rfl

theorem exists_of_attempt_disassemble
    (h : machine.attempt (tools.disassemble object listing) assembled = (.ok (), after)) :
    ∃ made output opened status diagnostics, assembled.prepare listing = (.ok (), made) ∧
      made.createFile listing = .ok (output, opened) ∧
      machine.launches (tools.disassemble object listing).job assembled =
        [(tools.disassembleCommand object output, opened)] ∧
      machine.launch (tools.disassembleCommand object output) opened =
        (.ok ⟨some status, diagnostics⟩, after) ∧ status.isSuccess = true := by
  unfold Toolchain.disassemble at h ⊢
  obtain ⟨_, made, hprepare, hopen⟩ := exists_of_attempt_bind h
  have hquiet := (Attempt.launching_prepareDirectory .listing listing).launches_eq_nil machine
    assembled
  rw [launches_bind_ok hprepare, hquiet, launches_ask_bind]
  rw [attempt_ask_bind] at hopen
  rcases Trial.Plot.answer_createFile machine made listing with
    ⟨fault, hanswer⟩ | ⟨output, opened, hcreate, hanswer⟩ <;> rw [hanswer] at hopen ⊢
  · rw [attempt_bind_error (attempt_granted_error _ _)] at hopen
    simp at hopen
  · rw [attempt_bind_ok (attempt_granted_ok _ _)] at hopen
    obtain ⟨status, diagnostics, hlaunch, hsuccess⟩ := launch_of_attempt_launchChecked hopen
    refine ⟨made, output, opened, status, diagnostics, exists_of_attempt_prepareDirectory hprepare,
      hcreate, ?_, hlaunch, hsuccess⟩
    rw [launches_bind_ok (attempt_granted_ok _ _), launches_launchChecked]
    rfl

end Machine

namespace Trial

namespace Plot

variable {p : Plot} {disk before after : Disk} {files directories : Set Place} {directory : Place}
  {part : Part} {data : Bytes}

theorem exists_arrives_of_isFile (h : disk.isFile (p.path .source) = true) :
    ∃ directory, disk.Arrives (p.shelfPath .source) directory := by
  obtain ⟨place, data, executable, hresolve⟩ := Disk.isFile_iff.mp h
  have hwalk := (Disk.resolveAlong_eq_ok hresolve).2
  have hsteps : (p.path .source).steps = (p.shelfPath .source).steps ++ [p.leaf .source] := by
    rw [p.steps_path, p.steps_shelfPath]
    simp
  rw [p.route_path, hsteps, p.start_path, ← p.start_shelfPath disk .source] at hwalk
  obtain ⟨left, directory, hleads, -⟩ := Disk.exists_leads_of_walk (by simp) hwalk
  exact ⟨directory, left, hleads⟩

theorem content?_eq_some_iff_of_arrives (h : disk.Arrives (p.shelfPath part) directory)
    (hlink : ∀ target, disk.at? (directory ++ [p.leaf part]) ≠ some (.link target)) :
    disk.content? (p.path part) = some data ↔
      Disk.textFault? (p.path part) = none ∧ (p.leaf part).utf8ByteSize ≤ Disk.nameLimit ∧
        ∃ executable, disk.at? (directory ++ [p.leaf part]) = some (.file data executable) := by
  obtain ⟨left, hleads⟩ := h
  have hsteps : (p.path part).steps = (p.shelfPath part).steps ++ [p.leaf part] := by
    rw [p.steps_path, p.steps_shelfPath]
    simp
  have hwalk : disk.walk true Disk.linkLimit (disk.start (p.path part)) (p.path part).route =
      disk.walk true left directory [p.leaf part] := by
    rw [p.route_path, hsteps, p.start_path, ← p.start_shelfPath disk part,
      hleads.walk_append (Or.inr rfl)]
  rw [Disk.walk_name (p.leaf_isName part) hlink] at hwalk
  rw [Disk.content?_eq_some_iff]
  unfold Disk.resolve Disk.resolveAlong
  rw [hwalk]
  cases Disk.textFault? (p.path part) with
  | some fault => simp
  | none =>
    by_cases hlong : (p.leaf part).utf8ByteSize > Disk.nameLimit
    · simp [hlong]
    · rcases disk.at? (directory ++ [p.leaf part]) with _ | found <;> simp [hlong, le_of_not_gt]

theorem Undiverted.content?_eq (h : p.Undiverted before)
    (harrives : before.Arrives (p.shelfPath part) directory) (hpart : part.IsGenerated)
    (hvaries : Disk.Varies files directories before after)
    (hfiles : ∀ place ∈ files, place.getLast? ≠ some (p.leaf part)) :
    after.content? (p.path part) = before.content? (p.path part) := by
  have hlink : ∀ disk, p.Undiverted disk →
      ∀ target, disk.at? (directory ++ [p.leaf part]) ≠ some (.link target) :=
    fun disk hdisk target hat => hdisk _ target hat part hpart (by simp)
  refine Option.ext fun data => ?_
  rw [content?_eq_some_iff_of_arrives harrives (hlink _ h),
    content?_eq_some_iff_of_arrives (hvaries.arrives harrives) (hlink _ (h.vary hvaries))]
  rcases hvaries.entries (directory ++ [p.leaf part]) with hsame | ⟨hmem, -⟩ | ⟨-, hnone, hmade⟩
  · rw [hsame]
  · exact absurd (by simp) (hfiles _ hmem)
  · simp [hnone, hmade]

/-- Directories and links are left alone: none is gone, and no new link bears the name of a file
that the test makes. Files of any kind may have been written. -/
structure Steady (p : Plot) (before after : Disk) : Prop where
  home : after.home = before.home
  ways : before.KeepsWays after
  links : ∀ place target, after.at? place = some (.link target) →
    ∀ part : Part, part.IsGenerated → place.getLast? = some (p.leaf part) →
    before.at? place = some (.link target)

theorem Undiverted.steady (h : p.Undiverted before) (hsteady : p.Steady before after) :
    p.Undiverted after :=
  fun place target hat part hpart hleaf =>
    h place target (hsteady.links place target hat part hpart hleaf) part hpart hleaf

theorem steady_of_varies (hvaries : Disk.Varies files directories before after) :
    p.Steady before after :=
  ⟨hvaries.home, hvaries.keepsWays, fun _ _ hat _ _ _ => hvaries.link hat⟩

end Plot

/-- How a successful making of the image goes from one tool to the other: each is launched once and
ends well. The assembler meets the object of the beginning, and the disassembler meets the one that
the assembler has left. -/
structure Handover (machine : Machine) (tools : Toolchain) (files : Files)
    (disk launched assembled opened : Disk) : Prop where
  met : launched.content? files.object = disk.content? files.object
  assembles : ∃ status diagnostics,
    machine.launch (tools.assembleCommand files.source files.object) launched =
      (.ok ⟨some status, diagnostics⟩, assembled) ∧ status.isSuccess = true
  handed : opened.content? files.object = assembled.content? files.object
  disassembles : ∃ output status diagnostics,
    machine.launches (tools.build files).job disk =
      [(tools.assembleCommand files.source files.object, launched),
        (tools.disassembleCommand files.object output, opened)] ∧
    (machine.launch (tools.disassembleCommand files.object output) opened).1 =
      .ok ⟨some status, diagnostics⟩ ∧ status.isSuccess = true

/-- Tools of which no object comes: the assembler leaves the object as it is, whatever its status,
and the disassembler does not end well where there is none. -/
structure Idle (machine : Machine) (tools : Toolchain) (files : Files) : Prop where
  assembler : ∀ disk, (machine.launch
    (tools.assembleCommand files.source files.object) disk).2.content? files.object =
      disk.content? files.object
  disassembler : ∀ disk output status diagnostics, disk.content? files.object = none →
    (machine.launch (tools.disassembleCommand files.object output) disk).1 =
      .ok ⟨some status, diagnostics⟩ → status.isSuccess = false

theorem Idle.content?_eq {machine : Machine} {tools : Toolchain} {files : Files}
    {launched assembled : Disk} {answer : Except Fault Finished} (h : Idle machine tools files)
    (hlaunch : machine.launch (tools.assembleCommand files.source files.object) launched =
      (answer, assembled)) :
    assembled.content? files.object = launched.content? files.object := by
  have hleft := h.assembler launched
  rw [hlaunch] at hleft
  exact hleft

/-- Without an object at the beginning, idle tools do not pass one on. -/
theorem Idle.not_handover {machine : Machine} {tools : Toolchain} {files : Files}
    {disk launched assembled opened : Disk} (h : Idle machine tools files)
    (hnone : disk.content? files.object = none) :
    ¬Handover machine tools files disk launched assembled opened := by
  intro hover
  obtain ⟨_, _, hlaunch, -⟩ := hover.assembles
  obtain ⟨output, status, diagnostics, -, hdisassemble, hsuccess⟩ := hover.disassembles
  have hleft := (h.content?_eq hlaunch).trans (hover.met.trans hnone)
  have hfailed := h.disassembler opened output status diagnostics (hover.handed.trans hleft)
    hdisassemble
  rw [hfailed] at hsuccess
  contradiction

/-- Making the directory of the object does not bring an object about, so the assembler meets the
one of the beginning. -/
theorem Plot.Undiverted.exists_assembling {p : Plot} {machine : Machine} {tools : Toolchain}
    {disk assembled : Disk} (h : p.Undiverted disk)
    (hassemble : machine.attempt (tools.assemble p.files.source p.files.object) disk =
      (.ok (), assembled)) :
    ∃ launched status diagnostics directory,
      machine.launches (tools.assemble p.files.source p.files.object).job disk =
        [(tools.assembleCommand p.files.source p.files.object, launched)] ∧
      machine.launch (tools.assembleCommand p.files.source p.files.object) launched =
        (.ok ⟨some status, diagnostics⟩, assembled) ∧ status.isSuccess = true ∧
      p.Undiverted launched ∧ launched.Arrives (p.shelfPath .object) directory ∧
      launched.content? p.files.object = disk.content? p.files.object := by
  obtain ⟨hsource, launched, status, diagnostics, hprepare, hlaunches, hanswer, hsuccess⟩ :=
    Machine.exists_of_attempt_assemble hassemble
  rw [p.files_source] at hsource
  obtain ⟨directory, hdirectory⟩ := exists_arrives_of_isFile hsource
  have harrives : disk.Arrives (p.shelfPath .object) directory := hdirectory
  have hmade := varies_prepare disk p.files.object
  rw [hprepare] at hmade
  refine ⟨launched, status, diagnostics, directory, hlaunches, hanswer, hsuccess, h.vary hmade,
    hmade.arrives harrives, ?_⟩
  rw [p.files_object]
  exact h.content?_eq harrives trivial hmade fun _ hplace => hplace.elim

/-- Where no link bears the name of a file that is made and the assembler leaves directories and
links alone, a successful making of the image hands the object over from tool to tool. -/
theorem Plot.Undiverted.exists_handover {p : Plot} {machine : Machine} {tools : Toolchain}
    {disk : Disk} {image : Image} (h : p.Undiverted disk)
    (hsteady : ∀ launched, (tools.assembleCommand p.files.source p.files.object, launched) ∈
      machine.launches (tools.build p.files).job disk → p.Steady launched
        (machine.launch (tools.assembleCommand p.files.source p.files.object) launched).2)
    (hbuild : (machine.attempt (tools.build p.files) disk).1 = .ok image) :
    ∃ launched assembled opened, Handover machine tools p.files disk launched assembled opened := by
  obtain ⟨last, hlast⟩ : ∃ last, machine.attempt (tools.build p.files) disk = (.ok image, last) :=
    ⟨_, Prod.ext hbuild rfl⟩
  obtain ⟨_, assembled, hassemble, hrest⟩ := Machine.exists_of_attempt_bind hlast
  obtain ⟨_, disassembled, hdisassemble, hextract⟩ := Machine.exists_of_attempt_bind hrest
  obtain ⟨launched, status, diagnostics, directory, hlaunches, hanswer, hsuccess, hundiverted,
    harrives, hmet⟩ := h.exists_assembling hassemble
  obtain ⟨made, output, opened, status', diagnostics', hprepare, hcreate, hlaunches', hanswer',
    hsuccess'⟩ := Machine.exists_of_attempt_disassemble hdisassemble
  have hquiet : machine.launches (do
      let instructions ← Image.extract p.files.listing p.files.image
      pure (⟨p.files.image, instructions⟩ : Image)).job disassembled = [] := by
    have hnone := (Image.launching_extract p.files.listing p.files.image).launches_eq_nil machine
      disassembled
    obtain ⟨_, between, hcount, -⟩ := Machine.exists_of_attempt_bind hextract
    rw [Machine.launches_bind_ok hcount, hnone]
    rfl
  have hall : machine.launches (tools.build p.files).job disk =
      [(tools.assembleCommand p.files.source p.files.object, launched),
        (tools.disassembleCommand p.files.object output, opened)] := by
    unfold Toolchain.build
    rw [Machine.launches_bind_ok hassemble, hlaunches, Machine.launches_bind_ok hdisassemble,
      hlaunches', hquiet]
    rfl
  have hkept := hsteady launched (hall ▸ List.mem_cons_self)
  rw [hanswer] at hkept
  have hundiverted' := hundiverted.steady hkept
  have hmade := varies_prepare assembled p.files.listing
  rw [hprepare] at hmade
  obtain ⟨hsite, hopened, -⟩ := Disk.createFile_ok hcreate
  have harrives' := harrives.keep hkept.home hkept.ways
  -- The file that is opened is the listing, which is not the object.
  have hleaf : ∀ place ∈ ({output} : Set Place), place.getLast? ≠ some (p.leaf .object) := by
    rintro _ rfl hobject
    have hlisting := (hundiverted'.vary hmade).site? .listing trivial hsite
    have hparts : Part.listing = .object := Plot.leaf_inj trivial trivial
      (Option.some.inj (hlisting.symm.trans hobject))
    contradiction
  refine ⟨launched, assembled, opened, hmet, ⟨status, diagnostics, hanswer, hsuccess⟩, ?_,
    output, status', diagnostics', hall, by rw [hanswer'], hsuccess'⟩
  rw [p.files_object]
  calc opened.content? (p.path .object)
      = made.content? (p.path .object) :=
        (hundiverted'.vary hmade).content?_eq (hmade.arrives harrives') trivial hopened hleaf
    _ = assembled.content? (p.path .object) :=
        hundiverted'.content?_eq harrives' trivial hmade fun _ hplace => hplace.elim

variable {machine : Machine} {rig : Rig} {trial : Trial} {disk : Disk} {category name : String}

/-- If there is no object at the beginning, a successful making of the image disassembles the one
that its own launch of the assembler has left, and with idle tools it fails. This is for an accepted
test, where no link bears the name of a file that is made and the assembler leaves directories and
links alone. -/
theorem build_disassembles_new_object (hnew : Trial.new rig category name = .ok trial)
    (hundiverted : (Plot.ofNew hnew).Undiverted disk)
    (hsteady : ∀ launched,
      (rig.toolchain.assembleCommand trial.files.source trial.files.object, launched) ∈
        machine.launches (rig.toolchain.build trial.files).job disk →
      (Plot.ofNew hnew).Steady launched (machine.launch
        (rig.toolchain.assembleCommand trial.files.source trial.files.object) launched).2)
    (hnone : disk.content? trial.files.object = none) :
    (∀ image, (machine.attempt (rig.toolchain.build trial.files) disk).1 = .ok image →
      ∃ launched assembled opened,
        Handover machine rig.toolchain trial.files disk launched assembled opened ∧
        launched.content? trial.files.object = none) ∧
    (Idle machine rig.toolchain trial.files →
      ∃ failure, (machine.attempt (rig.toolchain.build trial.files) disk).1 = .error failure) := by
  have hfiles : trial.files = (Plot.ofNew hnew).files := (Plot.of_new hnew).1
  have hhandover : ∀ image,
      (machine.attempt (rig.toolchain.build trial.files) disk).1 = .ok image →
      ∃ launched assembled opened,
        Handover machine rig.toolchain trial.files disk launched assembled opened := by
    rw [hfiles] at hsteady ⊢
    exact fun image => hundiverted.exists_handover hsteady
  refine ⟨fun image hbuild => ?_, fun hidle => ?_⟩
  · obtain ⟨launched, assembled, opened, hover⟩ := hhandover image hbuild
    exact ⟨launched, assembled, opened, hover, hover.met.trans hnone⟩
  · cases hbuild : (machine.attempt (rig.toolchain.build trial.files) disk).1 with
    | error failure => exact ⟨failure, rfl⟩
    | ok image =>
      obtain ⟨launched, assembled, opened, hover⟩ := hhandover image hbuild
      exact absurd hover (hidle.not_handover hnone)

section Sample

/-- An assembler that ends well without an object, and a disassembler that asks for one. -/
def idleCrew : Crew :=
  { sampleCrew with
    assembler := fun _ _ _ => ⟨.exited 0, [], [], .kept⟩
    disassembler := fun arguments input obstacle =>
      if input = none then ⟨.exited 1, [], [], .kept⟩
      else sampleCrew.disassembler arguments input obstacle }

theorem launch_sampleMachineOf (crew : Crew) (command : Launch) (disk : Disk)
    (hslash : '/' ∈ command.program.toList) :
    (∃ fault, (sampleMachineOf crew).launch command disk = (.error fault, disk)) ∨
    ∃ outcome, outcome = sampleTool crew command.arguments command.limit disk ∧
      (sampleMachineOf crew).launch command disk = (.ok ⟨outcome.status, outcome.diagnostics⟩,
        command.output.elim outcome.disk fun place => outcome.disk.store place outcome.output) := by
  unfold Machine.launch
  cases Machine.wordFault? command with
  | some fault => exact Or.inl ⟨fault, rfl⟩
  | none =>
    cases hfind : (sampleMachineOf crew).findProgram disk command.program with
    | error fault => exact Or.inl ⟨fault, rfl⟩
    | ok program =>
      obtain rfl := eq_sampleTool hslash hfind
      refine Or.inr ⟨_, rfl, ?_⟩
      cases command.output <;> rfl

theorem sample_idle :
    Idle (sampleMachineOf idleCrew) sampleRig.toolchain sampleTrial.files := by
  refine ⟨fun disk => ?_, fun disk output status diagnostics hnone hlaunch => ?_⟩
  · have hkept : (sampleTool idleCrew (sampleRig.assembling sampleTrial.files).arguments
        sampleRig.toolchain.limit disk).disk = disk := by
      rw [sampleTool, if_pos rfl]
      unfold Custom.program
      cases (sampleRig.assembling sampleTrial.files).target.bind disk.site? with
      | none => rfl
      | some place => exact if_pos rfl
    rcases launch_sampleMachineOf idleCrew
      (sampleRig.toolchain.assembleCommand sampleTrial.files.source sampleTrial.files.object) disk
      (by decide) with ⟨fault, hlaunch⟩ | ⟨outcome, rfl, hlaunch⟩ <;> rw [hlaunch]
    exact congrArg (fun disk : Disk => disk.content? _) hkept
  · have hslash : '/' ∈ sampleRig.toolchain.disassembler.toList := by decide
    have hends := (sampleTool_disassembles idleCrew disk).status
    rcases launch_sampleMachineOf idleCrew
      (sampleRig.toolchain.disassembleCommand sampleTrial.files.object output) disk hslash with
      ⟨fault, hanswer⟩ | ⟨outcome, rfl, hanswer⟩ <;> rw [hanswer] at hlaunch
    · contradiction
    · obtain ⟨hstatus, -⟩ := Finished.mk.inj (Except.ok.inj hlaunch)
      have hfailed : some status = some (.exited 1) := by
        rw [← hstatus]
        refine hends.trans ?_
        rw [show (sampleRig.disassembling sampleTrial.files).input = sampleTrial.files.object
          from rfl, hnone]
        rfl
      rw [Option.some.inj hfailed]
      rfl

variable {crew : Crew} {start assembled : Disk}

theorem sample_steady (crew : Crew) (launched : Disk) :
    (Plot.ofNew sampleTrial_new).Steady launched ((sampleMachineOf crew).launch
      (sampleRig.toolchain.assembleCommand sampleTrial.files.source sampleTrial.files.object)
      launched).2 :=
  Plot.steady_of_varies ((sample_confined_of crew (_, launched)).assembler rfl)

theorem sample_goes_on
    (hfit : (Plot.ofNew sampleTrial_new).Fit (sampleMachineOf crew) sampleRig crew assembled [])
    (hassemble : (sampleMachineOf crew).attempt
      (sampleRig.toolchain.assemble sampleTrial.files.source sampleTrial.files.object) start =
        (.ok (), assembled))
    (hobject : (Plot.ofNew sampleTrial_new).view assembled [] .object =
      .ok (some (.file [] false)))
    (hdeed :
      crew.disassembler (sampleRig.disassembling sampleTrial.files).arguments (some []) none =
        sampleCrew.disassembler (sampleRig.disassembling sampleTrial.files).arguments (some [])
          none) :
    ∃ built, (sampleMachineOf crew).attempt (sampleRig.toolchain.build sampleTrial.files) start =
        (.ok ⟨sampleTrial.files.image, 1⟩, built) ∧
      (Plot.ofNew sampleTrial_new).Alters [] assembled built ∧
      built.content? sampleTrial.files.object = some [] := by
  have hshelved : (Plot.ofNew sampleTrial_new).Shelved assembled [] := ⟨hfit.on, hfit.shelf⟩
  obtain ⟨listed, hdisassemble, hlisted, hview⟩ := hfit.disassemble hobject hdeed.symm
  obtain ⟨built, hextract, hbuilt, -⟩ := (hfit.vary hlisted).extract hview
  have hmakes := hshelved.ensures_disassemble fun launch _ => sample_confined_of crew launch
  rw [hdisassemble] at hmakes
  have hends : (sampleMachineOf crew).Ensures (fun _ => True) (Image.extract _ _) listed _ :=
    (hshelved.make hmakes trivial).ensures_extract
  have hmakes' := hends fun _ _ => trivial
  rw [hextract] at hmakes'
  have hkeeps := (hmakes.keeps [.object] trivial hfit.on (by decide)).trans
    (hmakes'.keeps [.object] trivial (hshelved.make hmakes trivial).on (by decide))
  refine ⟨built, ?_, hlisted.trans hbuilt, ?_⟩
  · unfold Toolchain.build
    rw [Machine.attempt_bind_ok hassemble]
    have hlast : (sampleMachineOf crew).attempt (do
        let instructions ← Image.extract sampleTrial.files.listing sampleTrial.files.image
        pure (⟨sampleTrial.files.image, instructions⟩ : Image)) listed =
          (.ok ⟨sampleTrial.files.image, 1⟩, built) := by
      refine Machine.attempt_bind_ok (hextract.trans ?_)
      simp only [sampleCrew, Instruction.ofListing, sample_listing]
      rfl
    exact (Machine.attempt_bind_ok hdisassemble).trans hlast
  · have hcontent : assembled.content? sampleTrial.files.object = some [] :=
      (hfit.on.content? .object).trans (by rw [hobject]; rfl)
    rw [← hcontent]
    unfold Disk.content?
    rw [show built.find? sampleTrial.files.object = assembled.find? sampleTrial.files.object from
      hkeeps _ (List.mem_cons_self)]

/-- The tools of the sample hand over a new object, and idle ones come to a failure. -/
theorem build_disassembles_new_object_sample :
    (∃ launched assembled opened,
      Handover (sampleMachineOf sampleCrew) sampleRig.toolchain sampleTrial.files sampleDisk
        launched assembled opened ∧ launched.content? sampleTrial.files.object = none) ∧
    ∃ failure, ((sampleMachineOf idleCrew).attempt
      (sampleRig.toolchain.build sampleTrial.files) sampleDisk).1 = .error failure := by
  have hnone : sampleDisk.content? sampleTrial.files.object = none :=
    (sampleDisk_on.content? .object).trans (by decide)
  obtain ⟨built, hbuild, -⟩ := sample_builds_on (sample_fit_of sampleCrew) rfl rfl
  exact ⟨(build_disassembles_new_object sampleTrial_new sampleDisk_undiverted
      (fun launched _ => sample_steady sampleCrew launched) hnone).1 _ (congrArg Prod.fst hbuild),
    (build_disassembles_new_object sampleTrial_new sampleDisk_undiverted
      (fun launched _ => sample_steady idleCrew launched) hnone).2 sample_idle⟩

/-- Once an image has been made, idle tools make it again: the object that they disassemble is the
old one, which the assembler has met and left as it was. -/
theorem build_disassembles_old_object : ∃ (built launched assembled opened : Disk),
    (∃ image, (sampleMachineOf sampleCrew).attempt
      (sampleRig.toolchain.build sampleTrial.files) sampleDisk = (.ok image, built)) ∧
    Idle (sampleMachineOf idleCrew) sampleRig.toolchain sampleTrial.files ∧
    ((sampleMachineOf idleCrew).attempt (sampleRig.toolchain.build sampleTrial.files) built).1 =
      .ok ⟨sampleTrial.files.image, 1⟩ ∧
    Handover (sampleMachineOf idleCrew) sampleRig.toolchain sampleTrial.files built launched
      assembled opened ∧
    launched.content? sampleTrial.files.object = some [] ∧
    opened.content? sampleTrial.files.object = some [] := by
  have hfit := sample_fit_of sampleCrew
  obtain ⟨first, hfirst, halters, hobject⟩ := hfit.assemble rfl
  obtain ⟨built, hbuild, halters', hcontent⟩ :=
    sample_goes_on (hfit.vary halters) hfirst (hobject [] rfl) rfl
  have hbuilt := halters.trans halters'
  have hidlefit := (sample_fit_of idleCrew).vary hbuilt
  obtain ⟨kept, hkept, halters'', -⟩ := hidlefit.assemble rfl
  obtain ⟨_, _, _, _, -, hlaunch, -, -, -, hmet⟩ :=
    (sampleDisk_undiverted.vary hbuilt).exists_assembling hkept
  have hobject' : kept.content? sampleTrial.files.object = some [] :=
    (sample_idle.content?_eq hlaunch).trans (hmet.trans hcontent)
  have hfit' := hidlefit.vary halters''
  obtain ⟨last, hlast, -, -⟩ :=
    sample_goes_on hfit' hkept (hfit'.on.view_of_content? hobject') rfl
  obtain ⟨launched, assembled, opened, hover⟩ :=
    (sampleDisk_undiverted.vary hbuilt).exists_handover
      (fun launched _ => sample_steady idleCrew launched) (congrArg Prod.fst hlast)
  obtain ⟨_, _, hlaunch', -⟩ := hover.assembles
  have hmet' := hover.met.trans hcontent
  exact ⟨built, launched, assembled, opened, ⟨_, hbuild⟩, sample_idle, congrArg Prod.fst hlast,
    hover, hmet', hover.handed.trans ((sample_idle.content?_eq hlaunch').trans hmet')⟩

end Sample

end Trial

end GoldenRun
