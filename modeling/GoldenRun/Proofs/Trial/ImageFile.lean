import GoldenRun.Proofs.Disk.Contents
import GoldenRun.Proofs.Job.Ensures
import GoldenRun.Proofs.Trial.Dump

/-!
# What becomes of the image

Nothing that a test does touches the content of its image but the last step of making it: there the
image is emptied before the listing is gone through, so it is whole if the step succeeds, and
spoiled if it fails on the listing. All other failures leave it as it was, however the tools behave,
as long as each of them writes its own output only, and as long as no link leads from one file of
the test to another.
-/

namespace GoldenRun.Trial

/-- A tool that is launched for a test writes no more than its own output: the object, what it
prints, or the dump. -/
structure Confined (machine : Machine) (rig : Rig) (files : Files) (launch : Launch × Disk) :
    Prop where
  assembler : launch.1 = rig.toolchain.assembleCommand files.source files.object →
    Disk.Varies {place | launch.2.site? files.object = some place} ∅ launch.2
      (machine.launch launch.1 launch.2).2
  disassembler : ∀ output, launch.1 = rig.toolchain.disassembleCommand files.object output →
    Disk.Varies {output} ∅ launch.2 (machine.launch launch.1 launch.2).2
  simulator : launch.1 = rig.simulator.command files.image files.result →
    Disk.Varies {place | launch.2.site? files.result = some place} ∅ launch.2
      (machine.launch launch.1 launch.2).2

section Confined

variable {machine : Machine} {rig : Rig} {disk : Disk}

theorem varies_of_goesBy {custom : Custom} {call : Call} (output : Option Place)
    (h : ∀ program, machine.findProgram disk call.program = .ok program →
      program.GoesBy custom call) :
    Disk.Varies {place | call.target.bind disk.site? = some place ∨ output = some place} ∅ disk
      (machine.launch (call.command output) disk).2 := by
  unfold Machine.launch
  cases Machine.wordFault? (call.command output) with
  | some fault => exact .refl disk
  | none =>
    cases hfind : machine.findProgram disk (call.command output).program with
    | error fault => exact .refl disk
    | ok program =>
      have hvaries := (h program hfind disk).varies
      cases output with
      | none => exact hvaries.mono (fun _ => Or.inl) subset_rfl
      | some place =>
        refine (hvaries.mono (fun _ => Or.inl) subset_rfl).trans (Set.disjoint_empty _)
          ((Disk.varies_store _ place _).mono ?_ subset_rfl)
        rintro _ rfl
        exact Or.inr rfl

/-- Tools that go by their customs wherever they are found are confined to their outputs. -/
theorem confined_of_goesBy (crew : Crew) {files : Files} (launch : Launch × Disk)
    (hassembler : ∀ program, machine.findProgram launch.2 rig.assembler = .ok program →
      program.GoesBy crew.assembler (rig.assembling files))
    (hdisassembler : ∀ program, machine.findProgram launch.2 rig.disassembler = .ok program →
      program.GoesBy crew.disassembler (rig.disassembling files))
    (hsimulator : ∀ program, machine.findProgram launch.2 rig.simulator.program = .ok program →
      program.GoesBy crew.simulator (rig.simulating files)) :
    Confined machine rig files launch := by
  obtain ⟨command, disk⟩ := launch
  refine ⟨fun hcommand => ?_, fun output hcommand => ?_, fun hcommand => ?_⟩
  · rw [show command = (rig.assembling files).command none from hcommand]
    refine (varies_of_goesBy none hassembler).mono (fun place hplace => ?_) subset_rfl
    exact hplace.resolve_right (by simp)
  · rw [show command = (rig.disassembling files).command (some output) from hcommand]
    refine (varies_of_goesBy (some output) hdisassembler).mono (fun place hplace => ?_) subset_rfl
    exact (Option.some.inj (hplace.resolve_left (by simp [Rig.disassembling]))).symm
  · rw [show command = (rig.simulating files).command none from hcommand]
    refine (varies_of_goesBy none hsimulator).mono (fun place hplace => ?_) subset_rfl
    exact hplace.resolve_right (by simp)

end Confined

theorem varies_prepare (disk : Disk) (path : Path) :
    Disk.Varies ∅ Set.univ disk (disk.prepare path).2 := by
  unfold Disk.prepare
  cases path.directory? with
  | none => exact .refl disk
  | some directory => exact Disk.varies_makeDirectories disk directory

/-- Whether a failure comes from going through the listing, when the image has been emptied. -/
def spoilsImage : Failure → Bool
  | .noInstructions _ => true
  | .cannotRead .listing .. => true
  | _ => false

namespace Plot

/-- No link bears the name of a file that the test makes. -/
def Undiverted (p : Plot) (disk : Disk) : Prop :=
  ∀ place target, disk.at? place = some (.link target) →
    ∀ part : Part, part.IsGenerated → place.getLast? ≠ some (p.leaf part)

/-- No link comes into being, and the image keeps its content if it has one. -/
structure Spares (p : Plot) (before after : Disk) : Prop where
  links : ∀ place target, after.at? place = some (.link target) →
    before.at? place = some (.link target)
  image : ∀ data, before.content? (p.path .image) = some data →
    after.content? (p.path .image) = some data

/-- The image is spared, and a failure is none that spoils it. -/
def Harmless {α : Type} (p : Plot) (before : Disk) (result : Except Failure α) (after : Disk) :
    Prop :=
  p.Spares before after ∧ ∀ failure, result = .error failure → spoilsImage failure = false

/-- What has become of the image by an attempt to make it. -/
inductive Remade (p : Plot) (before : Disk) : Except Failure Image → Disk → Prop
  | whole {instructions after} : p.Undiverted after → instructions ≠ [] →
      after.content? (p.path .image) = some (Image.text instructions) →
      Remade p before (.ok ⟨p.path .image, instructions.length⟩) after
  | spoiled {failure instructions after} : p.Undiverted after → spoilsImage failure = true →
      after.content? (p.path .image) = some (Image.text instructions) →
      (∀ listing, failure = .noInstructions listing → instructions = []) →
      Remade p before (.error failure) after
  | spared {failure after} : spoilsImage failure = false → p.Spares before after →
      Remade p before (.error failure) after

variable {p : Plot} {disk before after last made : Disk} {place : Place} {part : Part} {rig : Rig}
  {machine : Machine} {α : Type} {files directories : Set Place}

theorem Undiverted.spares (h : p.Undiverted before) (hspares : p.Spares before after) :
    p.Undiverted after :=
  fun place target hat => h place target (hspares.links place target hat)

theorem Undiverted.vary (h : p.Undiverted before)
    (hvaries : Disk.Varies files directories before after) : p.Undiverted after :=
  fun place target hat => h place target (hvaries.link hat)

theorem leaf_inj {part part' : Part} (hpart : part.IsGenerated) (hpart' : part'.IsGenerated)
    (h : p.leaf part = p.leaf part') : part = part' := by
  have hending := (String.append_right_inj _).mp h
  cases part <;> cases part' <;> first | rfl | contradiction

theorem Undiverted.of_walk (h : p.Undiverted disk) (hpart : part.IsGenerated) {follow : Bool}
    {found : Target} (hwalk : disk.walk follow Disk.linkLimit (disk.start (p.path part))
      (p.path part).steps = .ok found) :
    ∃ directory, found = .vacant directory (p.leaf part) ∨
      ∃ entry, found = .entry (directory ++ [p.leaf part]) entry := by
  have hsteps : (p.path part).steps =
      (p.root.steps ++ [p.category, "testResources", part.shelf]) ++ [p.leaf part] := by
    rw [p.steps_path part]
    simp
  rw [hsteps] at hwalk
  obtain ⟨left, directory, -, hlast⟩ := Disk.exists_leads_of_walk (by simp) hwalk
  have hlink : ∀ target, disk.at? (directory ++ [p.leaf part]) ≠ some (.link target) :=
    fun target hat => h _ target hat part hpart (by simp)
  rw [Disk.walk_name (p.leaf_isName part) hlink] at hlast
  split_ifs at hlast
  refine ⟨directory, ?_⟩
  cases hat : disk.at? (directory ++ [p.leaf part]) with
  | none =>
    rw [hat] at hlast
    exact Or.inl (Except.ok.inj hlast).symm
  | some entry =>
    rw [hat] at hlast
    exact Or.inr ⟨entry, (Except.ok.inj hlast).symm⟩

theorem Undiverted.site? (h : p.Undiverted disk) (part : Part) (hpart : part.IsGenerated)
    (hsite : disk.site? (p.path part) = some place) : place.getLast? = some (p.leaf part) := by
  unfold Disk.site? at hsite
  cases hresolve : disk.resolve true (p.path part) with
  | error fault => simp [hresolve] at hsite
  | ok found =>
    rw [hresolve] at hsite
    unfold Disk.resolve at hresolve
    rw [p.route_path part] at hresolve
    obtain ⟨directory, rfl | ⟨entry, rfl⟩⟩ := h.of_walk hpart (Disk.resolveAlong_eq_ok hresolve).2
    · obtain rfl := Option.some.inj hsite
      simp
    · obtain rfl := Option.some.inj hsite
      simp

theorem Undiverted.named? (h : p.Undiverted disk) (part : Part) (hpart : part.IsGenerated)
    (hnamed : disk.named? (p.path part) = some place) : place.getLast? = some (p.leaf part) := by
  obtain ⟨found, hresolve, -⟩ := Disk.named?_eq_some_iff.mp hnamed
  obtain ⟨directory, hvacant | ⟨entry, hentry⟩⟩ :=
    h.of_walk hpart (Disk.resolveAlong_eq_ok hresolve).2
  · contradiction
  · obtain ⟨rfl, -⟩ : place = directory ++ [p.leaf part] ∧ found = entry := by simpa using hentry
    simp

theorem Spares.refl (p : Plot) (disk : Disk) : p.Spares disk disk :=
  ⟨fun _ _ hat => hat, fun _ hcontent => hcontent⟩

theorem Spares.trans (h : p.Spares before after) (h' : p.Spares after last) :
    p.Spares before last :=
  ⟨fun place target hat => h.links place target (h'.links place target hat),
    fun data hcontent => h'.image data (h.image data hcontent)⟩

theorem Undiverted.spares_of_varies (h : p.Undiverted before)
    (hvaries : Disk.Varies files directories before after)
    (hfiles : ∀ place ∈ files, place.getLast? ≠ some (p.leaf .image)) : p.Spares before after := by
  refine ⟨fun place target hat => hvaries.link hat, fun data hcontent => ?_⟩
  refine hvaries.content? hcontent fun place hplace hsite => ?_
  exact hfiles place hplace (h.site? .image trivial hsite)

/-- A change to another file of the test spares the image. -/
theorem Undiverted.spares_of_leaf (h : p.Undiverted before) (part : Part) (hpart : part.IsGenerated)
    (hne : part ≠ .image) (hvaries : Disk.Varies files directories before after)
    (hfiles : ∀ place ∈ files, place.getLast? = some (p.leaf part)) : p.Spares before after := by
  refine h.spares_of_varies hvaries fun place hplace himage => ?_
  rw [hfiles place hplace] at himage
  exact hne (leaf_inj hpart trivial (Option.some.inj himage))

theorem Undiverted.spares_of_site (h : p.Undiverted before) (part : Part) (hpart : part.IsGenerated)
    (hne : part ≠ .image)
    (hvaries : Disk.Varies {place | before.site? (p.path part) = some place} ∅ before after) :
    p.Spares before after :=
  h.spares_of_leaf part hpart hne hvaries fun _ hsite => h.site? part hpart hsite

theorem Undiverted.spares_prepare (h : p.Undiverted disk) (path : Path) :
    p.Spares disk (disk.prepare path).2 :=
  h.spares_of_varies (varies_prepare disk path) fun _ hplace => hplace.elim

variable {expects : Launch × Disk → Prop}

theorem harmless_ok {a : α} (h : p.Spares before after) : p.Harmless before (.ok a) after :=
  ⟨h, fun _ herror => by contradiction⟩

theorem harmless_error {failure : Failure} (h : p.Spares before after)
    (hfailure : spoilsImage failure = false) :
    p.Harmless (α := α) before (.error failure) after :=
  ⟨h, fun _ herror => Except.error.inj herror ▸ hfailure⟩

theorem Harmless.trans {result : Except Failure α} (h : p.Spares before after)
    (h' : p.Harmless after result last) : p.Harmless before result last :=
  ⟨h.trans h'.1, h'.2⟩

theorem Harmless.error {β : Type} {failure : Failure}
    (h : p.Harmless (α := α) before (.error failure) after) :
    p.Harmless (α := β) before (.error failure) after :=
  harmless_error h.1 (h.2 failure rfl)

theorem Harmless.remade {failure : Failure}
    (h : p.Harmless (α := α) before (.error failure) after) :
    p.Remade before (.error failure) after :=
  .spared (h.2 failure rfl) h.1

theorem Remade.trans {result : Except Failure Image} (h : p.Spares before after)
    (h' : p.Remade after result last) : p.Remade before result last := by
  cases h' with
  | whole hundiverted hne hcontent => exact .whole hundiverted hne hcontent
  | spoiled hundiverted hspoils hcontent hnone => exact .spoiled hundiverted hspoils hcontent hnone
  | spared hfailure hspares => exact .spared hfailure (h.trans hspares)

theorem Remade.undiverted {result : Except Failure Image} (h : p.Remade before result after)
    (hundiverted : p.Undiverted before) : p.Undiverted after := by
  cases h with
  | whole hafter => exact hafter
  | spoiled hafter => exact hafter
  | spared _ hspares => exact hundiverted.spares hspares

theorem Remade.content?_of_noInstructions {listing : Path}
    (h : p.Remade before (.error (.noInstructions listing)) after) :
    after.content? (p.path .image) = some [] := by
  cases h with
  | spoiled _ _ hcontent hnone =>
    rw [hnone listing rfl] at hcontent
    exact hcontent
  | spared hspares => contradiction

theorem Undiverted.ensures_prepareDirectory (h : p.Undiverted disk) (role : Role) (path : Path) :
    machine.Ensures expects (Attempt.prepareDirectory role path) disk (p.Harmless disk) := by
  intro _
  have hspares := h.spares_prepare path
  rcases attempt_prepareDirectory machine role path disk with
    ⟨made, hprepare, hattempt⟩ | ⟨directory, fault, made, hdirectory, hmake, hattempt⟩
  · rw [hprepare] at hspares
    rw [hattempt]
    exact harmless_ok hspares
  · rw [prepare_of_directory? hdirectory, hmake] at hspares
    rw [hattempt]
    exact harmless_error hspares rfl

theorem ensures_launch {tool : Tool} {command : Launch}
    (h : expects (command, disk) → p.Spares disk (machine.launch command disk).2) :
    machine.Ensures expects (Attempt.launch tool command) disk (p.Harmless disk) := by
  refine Machine.ensures_ask_bind fun hexpects => ?_
  have hspares := h (hexpects command rfl)
  refine Machine.ensures_granted_bind (fun fault _ => harmless_error hspares rfl)
    fun finished _ => ?_
  cases finished.status with
  | some status => exact Machine.ensures_pure (harmless_ok hspares)
  | none => exact Machine.ensures_fail (harmless_error hspares rfl)

theorem ensures_launchChecked {tool : Tool} {command : Launch}
    (h : expects (command, disk) → p.Spares disk (machine.launch command disk).2) :
    machine.Ensures expects (Attempt.launchChecked tool command) disk (p.Harmless disk) := by
  refine (ensures_launch h).bind (fun _ _ hfailed => hfailed.error) fun finished after hended => ?_
  obtain ⟨status, diagnostics⟩ := finished
  by_cases hsuccess : status.isSuccess = true
  · simp only [hsuccess, if_true]
    exact Machine.ensures_pure (harmless_ok hended.1)
  · simp only [hsuccess]
    exact Machine.ensures_fail (harmless_error hended.1 rfl)

theorem answer_createFile (machine : Machine) (disk : Disk) (path : Path) :
    (∃ fault, machine.answer (.createFile path) disk = (.error fault, disk)) ∨
    ∃ place made, disk.createFile path = .ok (place, made) ∧
      machine.answer (.createFile path) disk = (.ok place, made) := by
  cases hcreate : disk.createFile path with
  | error fault => exact Or.inl ⟨fault, by simp [Machine.answer, hcreate]⟩
  | ok opened => exact Or.inr ⟨opened.1, opened.2, rfl, by simp [Machine.answer, hcreate]⟩

theorem Undiverted.ensures_assemble (h : p.Undiverted disk) :
    machine.Ensures (Confined machine rig p.files)
      (rig.toolchain.assemble p.files.source p.files.object) disk (p.Harmless disk) := by
  refine Machine.ensures_ask_bind fun _ => ?_
  change machine.Ensures _ (if disk.isFile p.files.source = true then _ else _) disk _
  split_ifs
  · refine (h.ensures_prepareDirectory .object p.files.object).bind
      (fun _ _ hfailed => hfailed.error) fun _ made hmade => ?_
    refine (ensures_launchChecked fun hconfined => ?_).mono fun _ _ hended => hended.trans hmade.1
    exact (h.spares hmade.1).spares_of_site .object trivial (by decide)
      (hconfined.assembler rfl)
  · exact Machine.ensures_fail (harmless_error (.refl p disk) rfl)

theorem Undiverted.ensures_disassemble (h : p.Undiverted disk) :
    machine.Ensures (Confined machine rig p.files)
      (rig.toolchain.disassemble p.files.object p.files.listing) disk (p.Harmless disk) := by
  refine (h.ensures_prepareDirectory .listing p.files.listing).bind
    (fun _ _ hfailed => hfailed.error) fun _ made hmade => ?_
  have hundiverted := h.spares hmade.1
  refine Machine.ensures_ask_bind fun _ => ?_
  rcases answer_createFile machine made p.files.listing with
    ⟨fault, hanswer⟩ | ⟨place, opened, hcreate, hanswer⟩ <;> rw [hanswer]
  · refine Machine.ensures_granted_bind (fun _ _ => harmless_error hmade.1 rfl) ?_
    intro place hok
    contradiction
  · obtain ⟨hsite, hvaries, -⟩ := Disk.createFile_ok hcreate
    have hleaf : place.getLast? = some (p.leaf .listing) :=
      hundiverted.site? .listing trivial hsite
    have hopened := hundiverted.spares_of_leaf .listing trivial (by decide) hvaries
      fun other hother => Set.mem_singleton_iff.mp hother ▸ hleaf
    refine Machine.ensures_granted_bind (fun _ herror => by contradiction) ?_
    rintro _ ⟨⟩
    refine (ensures_launchChecked fun hconfined => ?_).mono
      fun _ _ hended => hended.trans (hmade.1.trans hopened)
    exact (hundiverted.spares hopened).spares_of_leaf .listing trivial (by decide)
      (hconfined.disassembler place rfl) fun other hother => Set.mem_singleton_iff.mp hother ▸ hleaf

/-- Going through the listing makes the image or spoils it, unless it cannot begin. -/
theorem Undiverted.ensures_extract (h : p.Undiverted disk) :
    machine.Ensures expects (Image.extract p.files.listing p.files.image) disk
      fun result => p.Remade disk (result.map fun count => ⟨p.path .image, count⟩) := by
  refine Machine.ensures_ask_bind fun _ => ?_
  refine Machine.ensures_granted_bind (fun _ _ => .spared rfl (.refl p disk)) fun input _ => ?_
  refine (h.ensures_prepareDirectory .image p.files.image).bind
    (fun _ _ hfailed => hfailed.remade) fun _ made hmade => ?_
  refine Machine.ensures_ask_bind fun _ => ?_
  rcases answer_createFile machine made p.files.image with
    ⟨fault, hanswer⟩ | ⟨place, opened, hcreate, hanswer⟩ <;> rw [hanswer]
  · refine Machine.ensures_granted_bind (fun _ _ => .spared rfl hmade.1) ?_
    intro place hok
    contradiction
  · obtain ⟨-, hvaries, -⟩ := Disk.createFile_ok hcreate
    refine Machine.ensures_granted_bind (fun _ herror => by contradiction) ?_
    rintro _ ⟨⟩
    refine Machine.ensures_ask_bind fun _ => ?_
    obtain ⟨instructions, fault, hread⟩ : ∃ instructions fault,
        (machine.answer (.read input) opened).1.instructions = (instructions, fault) := ⟨_, _, rfl⟩
    rw [hread]
    refine Machine.ensures_ask_bind fun _ => ?_
    have hstored := Disk.varies_store opened place (Image.text instructions)
    have hwhole := Disk.content?_store hcreate (Image.text instructions)
    have hundiverted := ((h.spares hmade.1).vary hvaries).vary hstored
    cases fault with
    | some fault =>
      exact Machine.ensures_fail
        (Remade.spoiled hundiverted rfl hwhole fun _ heq => by contradiction)
    | none =>
      by_cases hnone : instructions = []
      · rw [if_pos hnone]
        exact Machine.ensures_fail (Remade.spoiled hundiverted rfl hwhole fun _ _ => hnone)
      · rw [if_neg hnone]
        refine Machine.ensures_granted_bind (fun _ herror => by contradiction) fun _ _ => ?_
        exact Machine.ensures_pure (Remade.whole hundiverted hnone hwhole)

/-- An attempt to make the image makes it, spoils it or spares it, and its failure tells which. -/
theorem Undiverted.ensures_build (h : p.Undiverted disk) :
    machine.Ensures (Confined machine rig p.files) (rig.toolchain.build p.files) disk
      (p.Remade disk) := by
  refine h.ensures_assemble.bind (fun _ _ hfailed => hfailed.remade) fun _ first hfirst => ?_
  refine (h.spares hfirst.1).ensures_disassemble.bind
    (fun _ _ hfailed => (hfailed.trans hfirst.1).remade) fun _ second hsecond => ?_
  have hspares := hfirst.1.trans hsecond.1
  refine (h.spares hspares).ensures_extract.bind (fun _ _ hfailed => hfailed.trans hspares)
    fun count last hmade => ?_
  exact Machine.ensures_pure (hmade.trans hspares)

theorem Undiverted.ensures_clear (h : p.Undiverted disk) :
    machine.Ensures expects (Simulator.clear p.files.result) disk (p.Harmless disk) := by
  refine (h.ensures_prepareDirectory .actual p.files.result).bind
    (fun _ _ hfailed => hfailed.error) fun _ made hmade => ?_
  have hundiverted := h.spares hmade.1
  have hremoved : p.Spares made (machine.answer (.removeFile p.files.result) made).2 := by
    have hleaf : ∀ place, made.named? p.files.result = some place →
        place.getLast? = some (p.leaf .result) :=
      fun place hnamed => hundiverted.named? .result trivial hnamed
    refine hundiverted.spares_of_leaf .result trivial (by decide)
      (Disk.varies_removeFile machine made (p.endsInSlash_path .result) ?_) hleaf
    intro place target hnamed hat
    exact hundiverted place target hat .result trivial (hleaf place hnamed)
  refine Machine.ensures_ask_bind fun _ => ?_
  split
  · exact Machine.ensures_pure (harmless_ok (hmade.1.trans hremoved))
  · exact Machine.ensures_pure (harmless_ok (hmade.1.trans hremoved))
  · exact Machine.ensures_fail (harmless_error (hmade.1.trans hremoved) rfl)

theorem ensures_ofFiles (p : Plot) (rule : LengthRule) (actual expected : Path) (disk : Disk) :
    machine.Ensures expects (Comparison.ofFiles rule actual expected) disk
      fun _ after => p.Spares disk after := by
  refine Machine.ensures_ask_bind fun _ =>
    Machine.ensures_granted_bind (fun _ _ => .refl p disk) fun dump _ =>
    Machine.ensures_ask_bind fun _ =>
    Machine.ensures_granted_bind (fun _ _ => .refl p disk) fun golden _ =>
    Machine.ensures_ask_bind fun _ => Machine.ensures_ask_bind fun _ => ?_
  split
  · exact Machine.ensures_pure (.refl p disk)
  · exact Machine.ensures_fail (.refl p disk)
  · exact Machine.ensures_fail (.refl p disk)

theorem Undiverted.ensures_simulate (h : p.Undiverted disk) :
    machine.Ensures (Confined machine rig p.files) (simulate rig p.files) disk
      fun _ after => p.Spares disk after := by
  have hinvoke : machine.Ensures (Confined machine rig p.files)
      (rig.simulator.invoke p.files.image p.files.result) disk (p.Harmless disk) := by
    refine h.ensures_clear.bind (fun _ _ hfailed => hfailed) fun _ cleared hcleared => ?_
    refine (ensures_launch fun hconfined => ?_).bind
      (fun _ _ hfailed => (hfailed.trans hcleared.1).error) fun _ after hended => ?_
    · exact (h.spares hcleared.1).spares_of_site .result trivial (by decide)
        (hconfined.simulator rfl)
    · exact Machine.ensures_pure (harmless_ok (hcleared.1.trans hended.1))
  refine hinvoke.bind (fun _ _ hfailed => hfailed.1) fun _ after hended => ?_
  exact (ensures_ofFiles p _ _ _ after).mono fun _ _ hjudged => hended.1.trans hjudged

end Plot

end GoldenRun.Trial
