import GoldenRun.Proofs.Trial.Career
import GoldenRun.Proofs.Trial.Confinement

/-!
# What a setback leaves behind

Making an image fails at one of its steps. Each step changes no file but its own, and may have to
make the shelf of that file, so the files of the steps behind the one that fails are as they were,
and so is an older dump. The test has no image after that, and has not been simulated.
-/

namespace GoldenRun

namespace Disk

/-- What is found at some paths is still found there. -/
def Keeps (before : Disk) (paths : List Path) (after : Disk) : Prop :=
  ∀ path ∈ paths, after.find? path = before.find? path

theorem Keeps.trans {before after last : Disk} {paths : List Path} (h : before.Keeps paths after)
    (h' : after.Keeps paths last) : before.Keeps paths last :=
  fun path hpath => (h' path hpath).trans (h path hpath)

end Disk

namespace Machine

variable {machine : Machine} {expects : Launch × Disk → Prop} {disk : Disk} {tool : Tool}
  {command : Launch} {α : Type} {x : Attempt α} {post : Except Failure α → Disk → Prop}

theorem Ensures.attempt_eq (h : machine.Ensures expects x disk post) :
    machine.Ensures expects x disk fun result after =>
      machine.attempt x disk = (result, after) ∧ post result after :=
  fun hlaunches => ⟨rfl, h hlaunches⟩

theorem ensures_launchChecked {left : Disk → Prop}
    (h : expects (command, disk) → left (machine.launch command disk).2) :
    machine.Ensures expects (Attempt.launchChecked tool command) disk
      fun _ after => left after := by
  have hlaunch : machine.Ensures expects (Attempt.launch tool command) disk
      fun _ after => left after := by
    refine ensures_ask_bind fun hexpects => ?_
    have hleft := h (hexpects command rfl)
    refine ensures_granted_bind (fun _ _ => hleft) fun finished _ => ?_
    cases finished.status with
    | some status => exact ensures_pure hleft
    | none => exact ensures_fail hleft
  refine hlaunch.bind (fun _ _ hfailed => hfailed) fun finished after hended => ?_
  obtain ⟨status, diagnostics⟩ := finished
  by_cases hsuccess : status.isSuccess = true
  · simp only [hsuccess, if_true]
    exact ensures_pure hended
  · simp only [hsuccess]
    exact ensures_fail hended

end Machine

namespace Trial

/-- How making an image of given files fails, and what it leaves behind. -/
inductive BreaksOff (machine : Machine) (rig : Rig) (files : Files) (disk : Disk) :
    Failure → Disk → Prop
  | source : disk.isFile files.source = false →
      BreaksOff machine rig files disk (.cannotOpen .source files.source .notFound) disk
  | assembly {failure after} : disk.isFile files.source = true →
      machine.attempt (rig.toolchain.assemble files.source files.object) disk =
        (.error failure, after) →
      disk.Keeps [files.listing, files.image, files.result] after →
      BreaksOff machine rig files disk failure after
  | disassembly {assembled failure after} :
      machine.attempt (rig.toolchain.assemble files.source files.object) disk =
        (.ok (), assembled) →
      machine.attempt (rig.toolchain.disassemble files.object files.listing) assembled =
        (.error failure, after) →
      disk.Keeps [files.image, files.result] after →
      BreaksOff machine rig files disk failure after
  | extraction {assembled disassembled failure after} :
      machine.attempt (rig.toolchain.assemble files.source files.object) disk =
        (.ok (), assembled) →
      machine.attempt (rig.toolchain.disassemble files.object files.listing) assembled =
        (.ok (), disassembled) →
      machine.attempt (Image.extract files.listing files.image) disassembled =
        (.error failure, after) →
      disassembled.Keeps [files.object, files.listing, files.result] after →
      disk.Keeps [files.result] after →
      BreaksOff machine rig files disk failure after

namespace Plot

variable {p : Plot} {top place : Place} {part other : Part} {disk before after : Disk}
  {machine : Machine} {rig : Rig} {expects : Launch × Disk → Prop}

theorem Makes.find?_eq (h : p.Makes top part before after) (hpart : part.IsGenerated)
    (hon : p.On before top) (hne : other ≠ part) :
    after.find? (p.path other) = before.find? (p.path other) := by
  have hplace : after.at? (p.place top other) = before.at? (p.place top other) := by
    refine h.at?_eq (fun hsame => hne (place_inj hsame).2.2) ?_
    rintro ⟨-, hshelf⟩
    exact place_ne_shelfPlace hshelf
  have hshelf : after.at? (p.shelfPlace top other) = before.at? (p.shelfPlace top other) := by
    refine h.at?_eq (fun hsame => place_ne_shelfPlace hsame.symm) ?_
    rintro ⟨hapart, hsame⟩
    have hshelves : other.shelf = part.shelf := by
      simpa [shelfPlace] using hsame
    revert hne hapart hshelves
    cases part <;> cases other <;> simp [Part.shelf, Part.IsApart]
  exact hon.find?_congr (hon.vary (h.alters hpart)) hshelf hplace

theorem Makes.keeps (h : p.Makes top part before after) (parts : List Part)
    (hpart : part.IsGenerated) (hon : p.On before top) (hnot : part ∉ parts) :
    before.Keeps (parts.map p.path) after := by
  intro path hpath
  obtain ⟨other, hother, rfl⟩ := List.mem_map.mp hpath
  exact h.find?_eq hpart hon fun hsame => hnot (hsame ▸ hother)

theorem On.eq_place_of_create (hon : p.On disk top)
    (h : (machine.answer (.createFile (p.path part)) disk).1 = .ok place) :
    place = p.place top part := by
  have hpromise : p.Promises top True (.createFile (p.path part))
      (machine.answer (.createFile (p.path part)) disk).1 := hon.promises_createFile machine
  exact hpromise part place rfl h

/-- The root leads to the category of the test, and the shelf of the source is there. -/
structure Shelved (p : Plot) (disk : Disk) (top : Place) : Prop where
  on : p.On disk top
  shelf : disk.at? (p.shelfPlace top .source) = some .directory

theorem Shelved.make (h : p.Shelved before top) (hmakes : p.Makes top part before after)
    (hpart : part.IsGenerated) : p.Shelved after top :=
  ⟨h.on.vary (hmakes.alters hpart), (Disk.Varies.keepsWays hmakes).directory _ h.shelf⟩

theorem Shelved.ensures_prepareDirectory (h : p.Shelved disk top) (part : Part)
    (hpart : part.IsGenerated) (role : Role) :
    machine.Ensures expects (Attempt.prepareDirectory role (p.path part)) disk
      fun _ after => p.Makes top part disk after := by
  intro _
  have hmakes := h.on.makes_makeDirectories h.shelf hpart
  rw [← prepare_of_directory? (p.directory?_path part)] at hmakes
  rcases attempt_prepareDirectory machine role (p.path part) disk with
    ⟨made, hprepare, hattempt⟩ | ⟨directory, fault, made, hdirectory, hmake, hattempt⟩
  · rw [hprepare] at hmakes
    rw [hattempt]
    exact hmakes
  · rw [prepare_of_directory? hdirectory, hmake] at hmakes
    rw [hattempt]
    exact hmakes

theorem Shelved.ensures_assemble (h : p.Shelved disk top) :
    machine.Ensures (Confined machine rig p.files)
      (rig.toolchain.assemble p.files.source p.files.object) disk
      fun _ after => p.Makes top .object disk after := by
  refine Machine.ensures_ask_bind fun _ => ?_
  change machine.Ensures _ (if disk.isFile p.files.source = true then _ else _) disk _
  split_ifs
  · refine (h.ensures_prepareDirectory .object trivial .object).bind (fun _ _ hfailed => hfailed)
      fun _ made hmade => ?_
    refine (Machine.ensures_launchChecked fun hconfined => ?_).mono
      fun _ _ hended => hmade.trans hended
    exact (h.make hmade trivial).on.makes_of_site? (hconfined.assembler rfl)
  · exact Machine.ensures_fail (.refl p top .object disk)

theorem Shelved.ensures_disassemble (h : p.Shelved disk top) :
    machine.Ensures (Confined machine rig p.files)
      (rig.toolchain.disassemble p.files.object p.files.listing) disk
      fun _ after => p.Makes top .listing disk after := by
  refine (h.ensures_prepareDirectory .listing trivial .listing).bind (fun _ _ hfailed => hfailed)
    fun _ made hmade => ?_
  have hon := (h.make hmade trivial).on
  have hcreated := hmade.trans (makes_of_sets (hon.create machine .listing).2)
  refine Machine.ensures_ask_bind fun _ => ?_
  refine Machine.ensures_granted_bind (fun _ _ => hcreated) fun output houtput => ?_
  -- The tool prints to the file that has been opened, which is that of the listing.
  obtain rfl : output = p.place top .listing := hon.eq_place_of_create houtput
  refine (Machine.ensures_launchChecked fun hconfined => ?_).mono
    fun _ _ hended => hcreated.trans hended
  exact Disk.Varies.mono (hconfined.disassembler _ rfl) subset_rfl (Set.empty_subset _)

theorem Shelved.ensures_extract (h : p.Shelved disk top) :
    machine.Ensures expects (Image.extract p.files.listing p.files.image) disk
      fun _ after => p.Makes top .image disk after := by
  refine Machine.ensures_ask_bind fun _ => ?_
  refine Machine.ensures_granted_bind (fun _ _ => .refl p top .image disk) fun input _ => ?_
  refine (h.ensures_prepareDirectory .image trivial .image).bind (fun _ _ hfailed => hfailed)
    fun _ made hmade => ?_
  have hon := (h.make hmade trivial).on
  have hcreated := hmade.trans (makes_of_sets (hon.create machine .image).2)
  refine Machine.ensures_ask_bind fun _ => ?_
  refine Machine.ensures_granted_bind (fun _ _ => hcreated) fun output houtput => ?_
  obtain rfl : output = p.place top .image := hon.eq_place_of_create houtput
  refine Machine.ensures_ask_bind fun _ => Machine.ensures_ask_bind fun _ => ?_
  have hwritten := fun data => hcreated.trans (makes_of_sets (Disk.sets_store place_ne_nil data))
  split
  · exact Machine.ensures_fail (hwritten _)
  · split_ifs
    · exact Machine.ensures_fail (hwritten _)
    · refine Machine.ensures_granted_bind (fun _ herror => by contradiction) fun _ _ => ?_
      exact Machine.ensures_pure (hwritten _)

/-- A failure to make the image is one of a step, behind steps that have been taken. -/
theorem Shelved.ensures_build (h : p.Shelved disk top)
    (hsource : disk.isFile p.files.source = true) :
    machine.Ensures (Confined machine rig p.files) (rig.toolchain.build p.files) disk
      fun result after => ∀ failure, result = .error failure →
        BreaksOff machine rig p.files disk failure after := by
  refine h.ensures_assemble.attempt_eq.bind ?_ fun _ assembled ⟨hassemble, hobject⟩ => ?_
  · rintro failure after ⟨hassemble, hobject⟩ _ ⟨⟩
    exact .assembly hsource hassemble
      (hobject.keeps [.listing, .image, .result] trivial h.on (by decide))
  have hassembled := h.make hobject trivial
  refine hassembled.ensures_disassemble.attempt_eq.bind ?_
    fun _ disassembled ⟨hdisassemble, hlisting⟩ => ?_
  · rintro failure after ⟨hdisassemble, hlisting⟩ _ ⟨⟩
    have hfirst := hobject.keeps [.image, .result] trivial h.on (by decide)
    have hsecond := hlisting.keeps [.image, .result] trivial hassembled.on (by decide)
    exact .disassembly hassemble hdisassemble (hfirst.trans hsecond)
  have hdisassembled := hassembled.make hlisting trivial
  refine hdisassembled.ensures_extract.attempt_eq.bind ?_ fun _ _ _ => ?_
  · rintro failure after ⟨hextract, himage⟩ _ ⟨⟩
    have hfirst := hobject.keeps [.result] trivial h.on (by decide)
    have hsecond := hlisting.keeps [.result] trivial hassembled.on (by decide)
    have hthird := himage.keeps [.result] trivial hdisassembled.on (by decide)
    exact .extraction hassemble hdisassemble hextract
      (himage.keeps [.object, .listing, .result] trivial hdisassembled.on (by decide))
      ((hfirst.trans hsecond).trans hthird)
  · exact Machine.ensures_pure fun _ herror => by contradiction

end Plot

variable {machine : Machine} {rig : Rig} {files : Files} {trial start : Trial} {disk after : Disk}
  {failure : Failure} {category name : String}

/-- Whatever step fails, an older dump is still there. -/
theorem BreaksOff.keeps_result (h : BreaksOff machine rig files disk failure after) :
    disk.Keeps [files.result] after := by
  cases h with
  | source => exact fun _ _ => rfl
  | assembly _ _ hkept => exact fun path hpath => hkept path (by simp_all)
  | disassembly _ _ hkept => exact fun path hpath => hkept path (by simp_all)
  | extraction _ _ _ _ hkept => exact hkept

/-- Where there are no links and the tools write their outputs only, a failure to make the image
leaves the files of the later steps as they were. A run that fails like that comes to the same
failure and to a bad verdict: it does not launch the simulator and leaves an older dump where it is.
The test still has no image, so the next run makes it. -/
theorem build_setback (hnew : Trial.new rig category name = .ok start)
    (hfiles : trial.files = start.files)
    (hlinks : ∀ place target, disk.at? place ≠ some (.link target))
    (hconfined : ∀ launch ∈ machine.launches (rig.toolchain.build trial.files).job disk,
      Confined machine rig trial.files launch)
    (hbuild : machine.attempt (rig.toolchain.build trial.files) disk = (.error failure, after)) :
    BreaksOff machine rig trial.files disk failure after ∧
    disk.Keeps [trial.files.result] after ∧
    machine.run (trial.build rig) disk = ((.error failure, trial), after) ∧
    (trial.image = none → ∃ next,
      machine.run (trial.run rig) disk = ((.error failure, next), after) ∧
      next = { trial with verdict := .fail } ∧ next.image = none ∧
      next.requireImage rig = next.build rig ∧
      ∀ launch ∈ machine.launches (trial.run rig) disk, launch.1 ≠ trial.simulation rig) := by
  have hplot : trial.files = (Plot.ofNew hnew).files := hfiles.trans (Plot.of_new hnew).1
  have hbreaks : BreaksOff machine rig trial.files disk failure after := by
    cases hsource : disk.isFile trial.files.source with
    | false =>
      rw [build_of_not_isFile hsource] at hbuild
      obtain ⟨hfailure, rfl⟩ := Prod.mk.inj hbuild
      obtain rfl := Except.error.inj hfailure
      exact .source hsource
    | true =>
      rw [hplot] at hsource hconfined hbuild ⊢
      obtain ⟨top, -, hlinkless⟩ := Plot.exists_on_of_isFile hsource
      have hon := hlinkless fun below target => hlinks (top ++ below) target
      have hshelved : (Plot.ofNew hnew).Shelved disk top := ⟨hon, Plot.shelf_of_isFile hon hsource⟩
      have hends := hshelved.ensures_build hsource hconfined
      rw [hbuild] at hends
      exact hends failure rfl
  refine ⟨hbreaks, hbreaks.keeps_result, run_build_error hbuild, fun himage => ?_⟩
  have hrequire : trial.requireImage rig = trial.build rig := by
    rw [requireImage, himage]
  have hfailed : machine.run (trial.requireImage rig) disk = ((.error failure, trial), after) := by
    rw [hrequire, run_build_error hbuild]
  obtain ⟨hrun, hlaunches⟩ := run_of_error hfailed
  refine ⟨_, hrun, rfl, himage, ?_, ?_⟩
  · rw [requireImage, himage]
  · rw [hlaunches]
    exact not_launched_by_requireImage machine rig trial disk

/-- A disassembler that prints nothing fails the sample, which keeps no image. -/
theorem build_setback_sample : ∃ after next,
    (sampleMachineOf muteCrew).run (sampleTrial.run sampleRig) sampleDisk =
      ((.error (.noInstructions sampleTrial.files.listing), next), after) ∧
    next.verdict = .fail ∧ next.image = none ∧
    sampleDisk.Keeps [sampleTrial.files.result] after := by
  have hsource : sampleDisk.content? ((Plot.ofNew sampleTrial_new).path .source) = some [] :=
    (sampleDisk_on.content? .source).trans (by decide)
  have hdraft : draft sampleRig (Plot.ofNew sampleTrial_new).files muteCrew (some []) =
      .error (.noInstructions (Plot.ofNew sampleTrial_new).files.listing) := by
    rw [draft_some]
    rfl
  obtain ⟨after, hbuild, -, -⟩ := (sample_fit_of muteCrew).build fun _ _ => ⟨[], rfl⟩
  rw [hsource, hdraft] at hbuild
  obtain ⟨-, hkept, -, hrun⟩ := build_setback sampleTrial_new
    (show sampleTrial.files = sampleTrial.files from rfl)
    (fun place target => sampleDisk_linkless [] place target)
    (fun launch _ => sample_confined_of muteCrew launch) hbuild
  obtain ⟨next, hrun, rfl, himage, -, -⟩ := hrun rfl
  exact ⟨after, _, hrun, rfl, himage, hkept⟩

end Trial

end GoldenRun
