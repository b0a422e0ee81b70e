import GoldenRun.Proofs.Trial.Steps

/-!
# Runs from beginning to end

A run of a test comes to the result of the pipeline, for all tools that keep to their files and
whatever has been left in the files that the run makes.
-/

namespace GoldenRun

/-- The assembler writes its object whenever it succeeds where the object can be written. -/
def Crew.Delivers (crew : Crew) (call : Call) : Prop :=
  ∀ input, (crew.assembler call.arguments input none).status.isSuccess = true →
    ∃ data, (crew.assembler call.arguments input none).left = .holding data

namespace Trial.Plot

/-- The tools of a test can be started, and go by what they are known to do. Neither depends on the
files that the test makes. -/
structure Staffed (p : Plot) (machine : Machine) (rig : Rig) (crew : Crew) (disk : Disk)
    (top : Place) : Prop where
  assembles : machine.Employs (filesOf top {p}) (shelvesOf top {p}) disk crew.assembler
    (rig.assembling p.files)
  disassembles : machine.Employs (filesOf top {p}) (shelvesOf top {p}) disk crew.disassembler
    (rig.disassembling p.files)
  simulates : machine.Employs (filesOf top {p}) (shelvesOf top {p}) disk crew.simulator
    (rig.simulating p.files)

/-- Everything is there for a run: the source, the directories of the files to be made, and the
tools. -/
structure Fit (p : Plot) (machine : Machine) (rig : Rig) (crew : Crew) (disk : Disk)
    (top : Place) : Prop extends p.Staffed machine rig crew disk top where
  on : p.On disk top
  source : disk.isFile (p.path .source) = true
  ready : ∀ part, part.IsGenerated → p.Ready disk top part

variable {p : Plot} {machine : Machine} {rig : Rig} {crew : Crew} {disk before after : Disk}
  {top : Place}

namespace Fit

theorem vary (h : p.Fit machine rig crew before top) (halters : p.Alters top before after) :
    p.Fit machine rig crew after top where
  on := h.on.vary halters
  source := (isFile_source_vary h.on.arrives h.on.linkless halters).trans h.source
  ready part hpart := (h.ready part hpart).vary halters
  assembles := h.assembles.vary disjoint_files_shelves halters
  disassembles := h.disassembles.vary disjoint_files_shelves halters
  simulates := h.simulates.vary disjoint_files_shelves halters

theorem shelf (h : p.Fit machine rig crew disk top) :
    disk.at? (p.shelfPlace top .source) = some .directory :=
  shelf_of_isFile h.on h.source

theorem assemble (h : p.Fit machine rig crew disk top) {deed : Deed}
    (hdeed : deed = crew.assembler (rig.assembling p.files).arguments
      (disk.content? (p.path .source)) none) :
    ∃ after, machine.attempt (rig.toolchain.assemble p.files.source p.files.object) disk =
        ((deed.checked .assembler).map fun _ => (), after) ∧
      p.Alters top disk after ∧
      ∀ data, deed.left = .holding data →
        p.view after top .object = .ok (some (.file data false)) := by
  have hsource : machine.answer (.isFile p.files.source) disk = (true, disk) :=
    congrArg (·, disk) h.source
  obtain ⟨made, hprepare, hmade, hshelf, -⟩ :=
    (h.ready .object trivial).prepare h.on (Or.inr h.shelf) machine .object
  have hready := (h.ready .object trivial).vary hmade
  have hemploys := (h.vary hmade).assembles
  have hinput : made.content? (rig.assembling p.files).input = disk.content? (p.path .source) := by
    rw [p.assembling_input, (h.on.vary hmade).content?, h.on.content?,
      view_vary (by simp [Part.IsGenerated]) hmade]
  have hobstacle : made.obstacle? (rig.assembling p.files).target = none := by
    rw [p.assembling_target]
    exact (h.on.vary hmade).obstacle?_eq_none (hready.view hshelf) (loose_plain.mpr hready.loose)
  have hanswer := hemploys.answer none
  have hsets : Disk.Sets (p.place top .object) _ made _ :=
    hemploys.sets (h.on.vary hmade) (p.assembling_target rig)
  rw [hinput, hobstacle, ← hdeed] at hanswer hsets
  refine ⟨_, ?_, hmade.trans (alters_of_sets hsets trivial), fun data hleft => ?_⟩
  · unfold Toolchain.assemble
    rw [Machine.attempt_ask_bind, hsource]
    simp only [if_true]
    rw [p.files_object, Machine.attempt_bind_ok hprepare, ← p.files_object, rig.assembleCommand_eq]
    exact Machine.attempt_launchChecked .assembler hanswer
  · rw [view_sets (hready.view hshelf) hsets, hready.view hshelf, hleft]
    exact congrArg Except.ok (Deposit.apply_holding (loose_plain.mpr hready.loose) data)

theorem disassemble (h : p.Fit machine rig crew disk top) {object : Bytes}
    (hobject : p.view disk top .object = .ok (some (.file object false))) {deed : Deed}
    (hdeed : deed = crew.disassembler (rig.disassembling p.files).arguments (some object) none) :
    ∃ after, machine.attempt (rig.toolchain.disassemble p.files.object p.files.listing) disk =
        ((deed.checked .disassembler).map fun _ => (), after) ∧
      p.Alters top disk after ∧
      p.view after top .listing = .ok (some (.file deed.output false)) := by
  obtain ⟨made, hprepare, hmade, hshelf, hplaces⟩ :=
    (h.ready .listing trivial).prepare h.on (Or.inr h.shelf) machine .listing
  obtain ⟨opened, hcreate, hopened⟩ :=
    ((h.ready .listing trivial).vary hmade).create (h.on.vary hmade) hshelf machine
  have hfit := (h.vary hmade).vary (alters_of_sets hopened trivial)
  have hlisting : p.view opened top .listing = .ok (some (.file [] false)) :=
    view_sets (((h.ready .listing trivial).vary hmade).view hshelf) hopened
  have hinput : opened.content? (rig.disassembling p.files).input = some object := by
    have hmadeObject := view_keep hmade (by rw [hplaces]) hobject
    rw [p.disassembling_input, hfit.on.content?,
      view_sets_other hopened trivial hmadeObject (by decide)]
    rfl
  have hobstacle : opened.obstacle? (rig.disassembling p.files).target = none := rfl
  have hanswer := hfit.disassembles.answer (some (p.place top .listing))
  have hprints : Disk.Sets (p.place top .listing) _ opened _ :=
    hfit.disassembles.prints (p.disassembling_target rig) place_ne_nil
  rw [hinput, hobstacle, ← hdeed] at hanswer hprints
  rw [at?_of_view hlisting] at hprints
  refine ⟨_, ?_, (hmade.trans (alters_of_sets hopened trivial)).trans
    (alters_of_sets hprints trivial), view_sets hlisting hprints⟩
  unfold Toolchain.disassemble
  rw [p.files_listing, Machine.attempt_bind_ok hprepare, Machine.attempt_ask_bind, hcreate,
    Machine.attempt_bind_ok (Machine.attempt_granted_ok _ _), rig.disassembleCommand_eq]
  exact Machine.attempt_launchChecked .disassembler hanswer

theorem extract (h : p.Fit machine rig crew disk top) {content : Bytes}
    (hcontent : p.view disk top .listing = .ok (some (.file content false))) :
    ∃ after, machine.attempt (Image.extract p.files.listing p.files.image) disk =
        ((Instruction.ofListing p.files.listing content).map List.length, after) ∧
      p.Alters top disk after ∧
      ∀ instructions, Instruction.ofListing p.files.listing content = .ok instructions →
        p.view after top .image = .ok (some (.file (Image.text instructions) false)) := by
  obtain ⟨made, hprepare, hmade, hshelf, hplaces⟩ :=
    (h.ready .image trivial).prepare h.on (Or.inl trivial) machine .image
  obtain ⟨opened, hcreate, hopened⟩ :=
    ((h.ready .image trivial).vary hmade).create (h.on.vary hmade) hshelf machine
  have himage : p.view opened top .image = .ok (some (.file [] false)) :=
    view_sets (((h.ready .image trivial).vary hmade).view hshelf) hopened
  have hlisting : p.view opened top .listing = .ok (some (.file content false)) :=
    view_sets_other hopened trivial (view_keep hmade (by rw [hplaces]) hcontent) (by decide)
  have hopen : machine.answer (.openFile (p.path .listing)) disk =
      (.ok (p.place top .listing), disk) := by
    refine Prod.ext ?_ rfl
    exact (h.on.openFile .listing).trans (by rw [hcontent]; rfl)
  have hread : machine.answer (.read (p.place top .listing)) opened = (⟨content, none⟩, opened) :=
    Prod.ext (stream_of_view hlisting) rfl
  have hstored : ∀ data, Disk.Sets (p.place top .image) (some (.file data false)) opened
      (opened.store (p.place top .image) data) := by
    intro data
    have hsets : Disk.Sets (p.place top .image) _ opened _ := Disk.sets_store place_ne_nil data
    rw [at?_of_view himage] at hsets
    exact hsets
  obtain ⟨found, fault, hfound⟩ : ∃ found fault,
      Stream.instructions ⟨content, none⟩ = (found, fault) := ⟨_, _, rfl⟩
  have hinstructions := Stream.instructions_of_ofListing? content
  rw [hfound] at hinstructions
  refine ⟨opened.store (p.place top .image) (Image.text found), ?_,
    (hmade.trans (alters_of_sets hopened trivial)).trans (alters_of_sets (hstored _) trivial), ?_⟩
  · unfold Image.extract
    rw [p.files_listing, p.files_image, Machine.attempt_ask_bind, hopen,
      Machine.attempt_bind_ok (Machine.attempt_granted_ok _ _), Machine.attempt_bind_ok hprepare,
      Machine.attempt_ask_bind, hcreate, Machine.attempt_bind_ok (Machine.attempt_granted_ok _ _),
      Machine.attempt_ask_bind, hread, hfound]
    simp only
    rw [Machine.attempt_ask_bind]
    unfold Instruction.ofListing
    cases hof : Instruction.ofListing? content with
    | none =>
      rw [hof] at hinstructions
      obtain rfl : fault = some .notText := hinstructions
      rfl
    | some instructions =>
      rw [hof] at hinstructions
      obtain ⟨rfl, rfl⟩ := Prod.mk.inj hinstructions
      cases found <;> rfl
  · intro instructions hok
    have hsame : found = instructions := by
      unfold Instruction.ofListing at hok
      cases hof : Instruction.ofListing? content with
      | none => simp [hof] at hok
      | some listed =>
        rw [hof] at hinstructions hok
        obtain ⟨rfl, -⟩ := Prod.mk.inj hinstructions
        cases found with
        | nil => contradiction
        | cons first rest => exact Except.ok.inj hok
    rw [view_sets himage (hstored _), hsame]

theorem build (h : p.Fit machine rig crew disk top)
    (hdelivers : crew.Delivers (rig.assembling p.files)) :
    ∃ after, machine.attempt (rig.toolchain.build p.files) disk =
        ((draft rig p.files crew (disk.content? (p.path .source))).map
          fun instructions => ⟨p.files.image, instructions.length⟩, after) ∧
      p.Alters top disk after ∧
      ∀ instructions, draft rig p.files crew (disk.content? (p.path .source)) = .ok instructions →
        p.view after top .image = .ok (some (.file (Image.text instructions) false)) := by
  obtain ⟨source, hsource⟩ : ∃ source, disk.content? (p.path .source) = some source := by
    have hfile := h.source
    rw [h.on.isFile] at hfile
    rw [h.on.content?]
    unfold Sighting.isFile at hfile
    split at hfile
    · next data executable hview => exact ⟨data, by rw [hview]; rfl⟩
    · contradiction
  obtain ⟨assembled, hassembled⟩ : ∃ deed, deed = crew.assembler (rig.assembling p.files).arguments
    (disk.content? (p.path .source)) none := ⟨_, rfl⟩
  obtain ⟨first, hassemble, hfirst, hobject⟩ := h.assemble hassembled
  rw [hsource] at hassembled ⊢
  unfold Toolchain.build
  rw [draft_some, ← hassembled]
  cases hchecked : assembled.checked .assembler with
  | error failure =>
    rw [hchecked] at hassemble
    exact ⟨first, Machine.attempt_bind_error hassemble, hfirst, fun _ hok => by contradiction⟩
  | ok done =>
    obtain ⟨hsuccess, rfl⟩ := Deed.checked_ok hchecked
    obtain ⟨object, hleft⟩ := hdelivers (some source) (hassembled ▸ hsuccess)
    rw [← hassembled] at hleft
    obtain ⟨disassembled, hdisassembled⟩ : ∃ deed, deed =
      crew.disassembler (rig.disassembling p.files).arguments (some object) none := ⟨_, rfl⟩
    obtain ⟨second, hdisassemble, hsecond, hlisting⟩ :=
      (h.vary hfirst).disassemble (hobject object hleft) hdisassembled
    rw [hchecked] at hassemble
    rw [Machine.attempt_bind_ok hassemble]
    simp only [Except.bind, hleft, Deposit.data?, ← hdisassembled]
    cases hchecked' : disassembled.checked .disassembler with
    | error failure =>
      rw [hchecked'] at hdisassemble
      exact ⟨second, Machine.attempt_bind_error hdisassemble, hfirst.trans hsecond,
        fun _ hok => by contradiction⟩
    | ok done' =>
      obtain ⟨-, rfl⟩ := Deed.checked_ok hchecked'
      rw [hchecked'] at hdisassemble
      obtain ⟨last, hextract, hlast, himage⟩ :=
        ((h.vary hfirst).vary hsecond).extract hlisting
      refine ⟨last, ?_, (hfirst.trans hsecond).trans hlast, himage⟩
      rw [Machine.attempt_bind_ok hdisassemble]
      cases hlisted : Instruction.ofListing p.files.listing done'.output with
      | error failure =>
        rw [hlisted] at hextract
        simp only [hlisted]
        exact Machine.attempt_bind_error hextract
      | ok instructions =>
        rw [hlisted] at hextract
        simp only [hlisted]
        exact Machine.attempt_bind_ok hextract

theorem clear (h : p.Fit machine rig crew disk top) {text : Bytes}
    (himage : p.view disk top .image = .ok (some (.file text false))) :
    ∃ after, machine.attempt (Simulator.clear p.files.result) disk = (.ok (), after) ∧
      p.Alters top disk after ∧ p.view after top .result = .ok none ∧
      p.view after top .image = .ok (some (.file text false)) := by
  obtain ⟨made, hprepare, hmade, hshelf, hplaces⟩ :=
    (h.ready .result trivial).prepare h.on (Or.inl trivial) machine .actual
  have hready := (h.ready .result trivial).vary hmade
  obtain ⟨hanswer, hsets⟩ := hready.remove (h.on.vary hmade) hshelf machine
  refine ⟨_, ?_, hmade.trans (alters_of_sets hsets trivial),
    view_sets (hready.view hshelf) hsets,
    view_sets_other hsets trivial (view_keep hmade (by rw [hplaces]) himage) (by decide)⟩
  unfold Simulator.clear
  rw [p.files_result, Machine.attempt_bind_ok hprepare, Machine.attempt_ask_bind]
  rcases hanswer with hremoved | hmissing
  · rw [hremoved]
    rfl
  · rw [hmissing]
    rfl

theorem invoke (h : p.Fit machine rig crew disk top) {text : Bytes}
    (himage : p.view disk top .image = .ok (some (.file text false))) {deed : Deed}
    (hdeed : deed = crew.simulator (rig.simulating p.files).arguments (some text) none) :
    ∃ after, machine.attempt (rig.simulator.invoke p.files.image p.files.result) disk =
        (.ok (), after) ∧
      p.Alters top disk after ∧
      p.view after top .result =
        .ok (deed.left.data?.map fun data => .file data false) := by
  obtain ⟨cleared, hclear, hcleared, hnone, hkept⟩ := h.clear himage
  have hfit := h.vary hcleared
  have hinput : cleared.content? (rig.simulating p.files).input = some text := by
    rw [p.simulating_input, hfit.on.content?, hkept]
    rfl
  have hobstacle : cleared.obstacle? (rig.simulating p.files).target = none := by
    rw [p.simulating_target]
    exact hfit.on.obstacle?_eq_none hnone trivial
  have hanswer := hfit.simulates.answer none
  have hsets : Disk.Sets (p.place top .result) _ cleared _ :=
    hfit.simulates.sets hfit.on (p.simulating_target rig)
  rw [hinput, hobstacle, ← hdeed] at hanswer hsets
  refine ⟨_, ?_, hcleared.trans (alters_of_sets hsets trivial), ?_⟩
  · unfold Simulator.invoke
    rw [Machine.attempt_bind_ok hclear, rig.simulateCommand_eq,
      Machine.attempt_bind_ok (Machine.attempt_launch .simulator hanswer)]
    rfl
  · rw [view_sets hnone hsets, hnone, at?_of_view hnone, ← Deposit.apply_none]
    rfl

end Fit

theorem On.ofFiles (h : p.On disk top) (machine : Machine) (rule : LengthRule) {dump : Option Bytes}
    (hdump : p.view disk top .result = .ok (dump.map fun data => .file data false))
    (hgolden : disk.isDirectory (p.path .expected) = false) :
    machine.attempt (Comparison.ofFiles rule p.files.result p.files.expected) disk =
      (judge rule p.files dump (disk.read (p.path .expected)), disk) := by
  have hopen : machine.answer (.openFile (p.path .result)) disk =
      ((p.view disk top .result).opened (p.place top .result), disk) :=
    Prod.ext (h.openFile .result) rfl
  unfold Comparison.ofFiles
  rw [p.files_result, Machine.attempt_ask_bind, hopen, hdump]
  cases dump with
  | none => exact Machine.attempt_bind_error (Machine.attempt_granted_error _ _)
  | some dump =>
    simp only [Option.map_some, Sighting.opened]
    rw [Machine.attempt_bind_ok (Machine.attempt_granted_ok _ _), p.files_expected,
      Machine.attempt_ask_bind]
    simp only [Machine.answer]
    rcases h.read_cases hgolden with ⟨fault, hfault, hread⟩ | ⟨golden, hview, hread⟩
    · rw [hfault, hread]
      exact Machine.attempt_bind_error (Machine.attempt_granted_error _ _)
    · have hopened := h.openFile .expected
      rw [hview] at hopened
      rw [hopened, hread]
      simp only [Sighting.opened]
      rw [Machine.attempt_bind_ok (Machine.attempt_granted_ok _ _), Machine.attempt_ask_bind,
        Machine.attempt_ask_bind]
      simp only [Machine.answer, stream_of_view hview, stream_of_view hdump,
        Comparison.ofStreams_eq_ofContents]
      rfl

theorem Fit.simulate (h : p.Fit machine rig crew disk top) {text : Bytes}
    (himage : p.view disk top .image = .ok (some (.file text false)))
    (hgolden : disk.isDirectory (p.path .expected) = false) :
    (machine.attempt (Trial.simulate rig p.files) disk).1 =
      judge rig.settings.lengthRule p.files
        (crew.simulator (rig.simulating p.files).arguments (some text) none).left.data?
        (disk.read (p.path .expected)) := by
  obtain ⟨after, hinvoke, halters, hdump⟩ := h.invoke himage rfl
  have hexpected : ¬Part.IsGenerated .expected := by simp [Part.IsGenerated]
  have hgolden' := (h.on.isDirectory_vary hexpected halters).trans hgolden
  unfold Trial.simulate
  rw [Machine.attempt_bind_ok hinvoke,
    (h.on.vary halters).ofFiles machine rig.settings.lengthRule hdump hgolden',
    h.on.read_vary hexpected halters]

end Trial.Plot

namespace Trial

/-- A test that has not been run makes its image, and judges its dump if there is an image. -/
theorem run_fresh (machine : Machine) (rig : Rig) {trial : Trial} (himage : trial.image = none)
    (disk : Disk) :
    (machine.run (trial.run rig) disk).1.1 =
        (match machine.attempt (rig.toolchain.build trial.files) disk with
        | (.error failure, _) => .error failure
        | (.ok _, after) => (machine.attempt (simulate rig trial.files) after).1) ∧
      (machine.run (trial.run rig) disk).1.2.verdict =
        verdictOf (machine.run (trial.run rig) disk).1.1 := by
  unfold run requireImage build
  rw [himage]
  simp only [Job.bind_eq, Machine.run_bind]
  cases hbuild : machine.attempt (rig.toolchain.build trial.files) disk with
  | mk result after =>
    unfold Machine.attempt at hbuild
    rw [hbuild]
    cases result with
    | error failure => exact ⟨rfl, rfl⟩
    | ok image =>
      simp only [Job.pure_eq, Machine.run_done, Machine.run_bind]
      exact ⟨rfl, trivial⟩

theorem build_of_not_isFile {machine : Machine} {rig : Rig} {files : Files} {disk : Disk}
    (h : disk.isFile files.source = false) :
    machine.attempt (rig.toolchain.build files) disk =
      (.error (.cannotOpen .source files.source .notFound), disk) := by
  have hanswer : machine.answer (.isFile files.source) disk = (false, disk) :=
    congrArg (·, disk) h
  refine Machine.attempt_bind_error ?_
  unfold Toolchain.assemble
  rw [Machine.attempt_ask_bind, hanswer]
  rfl

theorem content?_of_not_isFile {disk : Disk} {path : Path} (h : disk.isFile path = false) :
    disk.content? path = none := by
  unfold Disk.isFile at h
  unfold Disk.content?
  cases hfind : disk.find? path with
  | none => rfl
  | some found =>
    obtain ⟨place, entry⟩ := found
    rw [hfind] at h
    cases entry with
    | file data executable => contradiction
    | directory => rfl
    | link target => rfl

section Sample

/-- A corpus with a single test, of which an old listing is left, beside three tools. -/
def sampleDisk : Disk where
  home := []
  entries :=
    [(["as"], .file [0] true), (["od"], .file [1] true), (["sim"], .file [2] true),
      (["c"], .directory), (["c", "testResources"], .directory),
      (["c", "testResources", "assembly"], .directory),
      (["c", "testResources", "assembly", "t.s"], .file [] false),
      (["c", "testResources", "assembly", "t.dis"], .file [7] false),
      (["c", "testResources", "expected"], .directory),
      (["c", "testResources", "expected", "t.txt"], .file [0x37] false)]
  nodup := by decide

def sampleRig : Rig where
  settings := { root := "", simulator := { path := some "/sim" } }
  assembler := "/as"
  disassembler := "/od"

/-- Tools that make one instruction and one line of a dump of any source. The assembler fails where
its object cannot be written, and the simulator always does. -/
def sampleCrew : Crew where
  assembler _ _ obstacle :=
    if obstacle = none then ⟨.exited 0, [], [], .holding []⟩ else ⟨.exited 1, [], [], .kept⟩
  disassembler _ _ _ := ⟨.exited 0, Utf8.encode "0: 00000013".toList, [], .kept⟩
  simulator _ _ _ := ⟨.exited 1, [], [], .holding [0x37]⟩

def sampleTrial : Trial :=
  ⟨"c", "t", .locate "" "c" "t", none, .unset⟩

def sampleMachine : Machine where
  environment _ := none
  interpret data :=
    match data with
    | [0] => .ok (sampleCrew.assembler.program (sampleRig.assembling sampleTrial.files))
    | [1] => .ok (sampleCrew.disassembler.program (sampleRig.disassembling sampleTrial.files))
    | _ => .ok (sampleCrew.simulator.program (sampleRig.simulating sampleTrial.files))

theorem sampleTrial_new : Trial.new sampleRig "c" "t" = .ok sampleTrial := rfl

theorem sampleDisk_linkless (top : Place) : sampleDisk.Linkless top :=
  Disk.linkless_of_entries (by simp [sampleDisk])

theorem sampleDisk_arrives : sampleDisk.Arrives sampleRig.settings.root [] :=
  ⟨Disk.linkLimit, .here⟩

theorem sampleDisk_on : (Plot.ofNew sampleTrial_new).On sampleDisk [] :=
  ⟨sampleDisk_arrives, rfl, rfl, by decide, sampleDisk_linkless []⟩

theorem sampleDisk_receives (part : Part) (hpart : part.IsGenerated) :
    sampleDisk.Receives ((Plot.ofNew sampleTrial_new).path part) := by
  cases part with
  | source => exact hpart.elim
  | expected => exact hpart.elim
  | object =>
    exact (Plot.ready_iff_receives sampleDisk_on (Or.inr rfl)).mp
      ⟨by decide, by decide, by decide, Or.inr rfl, trivial⟩
  | listing =>
    exact (Plot.ready_iff_receives sampleDisk_on (Or.inr rfl)).mp
      ⟨by decide, by decide, by decide, Or.inr rfl, trivial⟩
  | image =>
    have hapart : Part.IsApart .image := trivial
    exact (Plot.ready_iff_receives sampleDisk_on (Or.inl hapart)).mp
      ⟨by decide, by decide, by decide, Or.inl rfl, trivial⟩
  | result =>
    have hapart : Part.IsApart .result := trivial
    exact (Plot.ready_iff_receives sampleDisk_on (Or.inl hapart)).mp
      ⟨by decide, by decide, by decide, Or.inl rfl, trivial⟩

/-- Whatever programs are in the files of the tools, as long as they go by what is known of them. -/
theorem sample_staffed_of {machine : Machine} {crew : Crew}
    {assembler disassembler simulator : Program}
    (hassembler : machine.interpret [0] = .ok assembler)
    (hassembles : assembler.GoesBy crew.assembler (sampleRig.assembling sampleTrial.files))
    (hdisassembler : machine.interpret [1] = .ok disassembler)
    (hdisassembles :
      disassembler.GoesBy crew.disassembler (sampleRig.disassembling sampleTrial.files))
    (hsimulator : machine.interpret [2] = .ok simulator)
    (hsimulates : simulator.GoesBy crew.simulator (sampleRig.simulating sampleTrial.files)) :
    (Plot.ofNew sampleTrial_new).Staffed machine sampleRig crew sampleDisk [] := by
  have houtside : ∀ tool : String, [tool] ∉ filesOf [] {Plot.ofNew sampleTrial_new} ∧
      [tool] ∉ shelvesOf [] {Plot.ofNew sampleTrial_new} :=
    fun tool => Plot.resources_not_mem [] _ [tool] (by simp)
  have has : sampleDisk.find? "/as" = some (["as"], .file [0] true) := by cbv
  have hod : sampleDisk.find? "/od" = some (["od"], .file [1] true) := by cbv
  have hsim : sampleDisk.find? "/sim" = some (["sim"], .file [2] true) := by cbv
  refine ⟨⟨by decide, ?_⟩, ⟨by decide, ?_⟩, ⟨by decide, ?_⟩⟩
  · exact ⟨_, .of_find? (by decide) has (houtside "as").1 (houtside "as").2 hassembler hassembles⟩
  · exact ⟨_, .of_find? (by decide) hod (houtside "od").1 (houtside "od").2 hdisassembler
      hdisassembles⟩
  · exact ⟨_, .of_find? (by decide) hsim (houtside "sim").1 (houtside "sim").2 hsimulator
      hsimulates⟩

theorem sample_staffed :
    (Plot.ofNew sampleTrial_new).Staffed sampleMachine sampleRig sampleCrew sampleDisk [] :=
  sample_staffed_of rfl (Custom.program_goesBy _ _) rfl (Custom.program_goesBy _ _) rfl
    (Custom.program_goesBy _ _)

theorem sample_listing : Instruction.ofListing? (Utf8.encode "0: 00000013".toList) =
    some [⟨['0'], 0x13⟩] := by
  cbv

theorem sample_judged : Comparison.ofContents .lenient [0x37] [0x37] = ⟨true, 1, none, none⟩ := by
  cbv

theorem sample_pipeline : pipeline sampleRig sampleTrial.files sampleCrew (some []) (.ok [0x37]) =
    .ok ⟨true, 1, none, none⟩ := by
  unfold pipeline
  rw [draft_some]
  simp only [sampleCrew, Deed.checked, ExitStatus.isSuccess, Except.bind, Instruction.ofListing,
    sample_listing, if_true, bind, Deposit.data?, judge]
  exact congrArg Except.ok sample_judged

end Sample

end Trial

end GoldenRun
