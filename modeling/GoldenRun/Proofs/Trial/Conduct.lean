import GoldenRun.Proofs.Job.Contract
import GoldenRun.Proofs.Trial.Pipeline

/-!
# What a test asks for

A test asks for its own files only. It touches the image and the dump when it knows that their
shelves are there, because it has made them, and it asks for nothing but its source if that is no
regular file.
-/

namespace GoldenRun.Trial

/-- What can be done with a test before it is given up. -/
inductive Action
  | build
  | run
  deriving DecidableEq, Repr

inductive Reply
  | image (result : Except Failure Image)
  | comparison (result : Except Failure Comparison)

def perform (rig : Rig) (trial : Trial) : Action → Job (Reply × Trial)
  | .build => do
    let (result, after) ← trial.build rig
    pure (.image result, after)
  | .run => do
    let (result, after) ← trial.run rig
    pure (.comparison result, after)

def performAll (rig : Rig) (trial : Trial) : List Action → Job (List Reply × Trial)
  | [] => pure ([], trial)
  | action :: rest => do
    let (reply, after) ← trial.perform rig action
    let (replies, last) ← after.performAll rig rest
    pure (reply :: replies, last)

/-- Everything that is done with a test until it is given up. -/
def live (rig : Rig) (trial : Trial) (actions : List Action) : Job (List Reply × Trial) := do
  let (replies, last) ← trial.performAll rig actions
  last.discard rig
  pure (replies, last)

namespace Plot

variable (p : Plot) (rig : Rig) (top : Place) (sourced : Prop)

/-- Whether a file may be touched, given the directories that are known to be there. -/
def Reaches (known : Set Path) (part : Part) : Prop :=
  part.IsApart → p.shelfPath part ∈ known

/-- The requests that a test may make. -/
def Allows (known : Set Path) : Request → Prop
  | .isFile path => path = p.path .source
  | .makeDirectories path => sourced ∧ ∃ part, part.IsGenerated ∧ path = p.shelfPath part
  | .openFile path => sourced ∧ ∃ part, p.Reaches known part ∧ path = p.path part
  | .createFile path | .removeFile path =>
    sourced ∧ ∃ part, part.IsGenerated ∧ p.Reaches known part ∧ path = p.path part
  | .read place => sourced ∧ ∃ part, place = p.place top part
  | .write place _ => sourced ∧
    ∃ part, part.IsGenerated ∧ p.Reaches known part ∧ place = p.place top part
  | .launch command => sourced ∧ (command = (rig.assembling p.files).command none ∨
    command = (rig.disassembling p.files).command (some (p.place top .listing)) ∨
    (command = (rig.simulating p.files).command none ∧ p.Reaches known .image ∧
      p.Reaches known .result))

/-- What a test relies on in the answers. -/
def Promises : (r : Request) → r.Answer → Prop
  | .isFile _, answer => answer = true → sourced
  | .openFile path, answer =>
    ∀ part place, path = p.path part → answer = .ok place → place = p.place top part
  | .createFile path, answer =>
    ∀ part place, path = p.path part → answer = .ok place → place = p.place top part
  | _, _ => True

/-- The directories that are known to be there after an answer. -/
def learn (known : Set Path) : (r : Request) → r.Answer → Set Path
  | .makeDirectories path, .ok () => insert path known
  | _, _ => known

theorem le_learn (known : Set Path) (r : Request) (answer : r.Answer) :
    known ≤ learn known r answer := by
  unfold learn
  split
  · exact Set.subset_insert _ _
  · exact le_rfl

def contract : Contract (Set Path) where
  allows := p.Allows rig top sourced
  promises _ := p.Promises top sourced
  learn := learn
  le_learn := le_learn

variable {p rig top sourced} {known : Set Path} {part : Part}

theorem reaches_of_not_isApart (h : ¬part.IsApart) : p.Reaches known part :=
  fun hapart => absurd hapart h

theorem reaches_of_mem (h : p.shelfPath part ∈ known) : p.Reaches known part :=
  fun _ => h

theorem keeps_prepareDirectory (hsourced : sourced) (part : Part) (hpart : part.IsGenerated)
    (role : Role) :
    (Attempt.prepareDirectory role (p.path part)).Keeps (p.contract rig top sourced)
      (fun later _ => p.shelfPath part ∈ later) known := by
  unfold Attempt.prepareDirectory
  rw [p.directory?_path part]
  refine Attempt.keeps_ask_bind ⟨hsourced, part, hpart, rfl⟩ ?_
  intro answer _
  apply Attempt.keeps_granted
  intro a hok
  subst hok
  exact Set.mem_insert _ _

theorem keeps_launch {command : Launch}
    (hallows : (p.contract rig top sourced).allows known (.launch command)) (tool : Tool) :
    (Attempt.launch tool command).Keeps (p.contract rig top sourced) (fun _ _ => True) known := by
  apply Attempt.keeps_ask_bind hallows
  intro answer _
  apply Attempt.keeps_granted_bind
  intro finished _
  cases finished.status with
  | some status => exact Attempt.keeps_pure trivial
  | none => exact Attempt.keeps_fail _

theorem keeps_launchChecked {command : Launch}
    (hallows : (p.contract rig top sourced).allows known (.launch command)) (tool : Tool) :
    (Attempt.launchChecked tool command).Keeps (p.contract rig top sourced) (fun _ _ => True)
      known := by
  apply Attempt.keeps_bind (keeps_launch hallows tool)
  intro later finished _ _
  obtain ⟨status, diagnostics⟩ := finished
  by_cases hsuccess : status.isSuccess = true
  · simp only [hsuccess, if_true]
    exact Attempt.keeps_pure trivial
  · simp only [hsuccess]
    exact Attempt.keeps_fail _

theorem keeps_assemble :
    (rig.toolchain.assemble p.files.source p.files.object).Keeps (p.contract rig top sourced)
      (fun _ _ => sourced) known := by
  apply Attempt.keeps_ask_bind rfl
  intro answer hpromise
  cases answer with
  | false => exact Attempt.keeps_fail _
  | true =>
    have hsourced : sourced := hpromise rfl
    apply Attempt.keeps_bind (keeps_prepareDirectory hsourced .object trivial _)
    intro later _ _ _
    refine Attempt.keeps_mono (keeps_launchChecked ⟨hsourced, Or.inl rfl⟩ _) fun _ _ _ _ => hsourced

theorem keeps_disassemble (hsourced : sourced) :
    (rig.toolchain.disassemble p.files.object p.files.listing).Keeps (p.contract rig top sourced)
      (fun _ _ => True) known := by
  have hlisting : ∀ known, p.Reaches known .listing :=
    fun _ => reaches_of_not_isApart (by simp [Part.IsApart])
  apply Attempt.keeps_bind (keeps_prepareDirectory hsourced .listing trivial _)
  intro made _ _ _
  refine Attempt.keeps_ask_bind ⟨hsourced, .listing, trivial, hlisting made, rfl⟩ ?_
  intro answer hpromise
  apply Attempt.keeps_granted_bind
  intro place hok
  obtain rfl := hpromise .listing place rfl hok
  exact keeps_launchChecked ⟨hsourced, Or.inr (Or.inl rfl)⟩ _

theorem keeps_extract (hsourced : sourced) :
    (Image.extract p.files.listing p.files.image).Keeps (p.contract rig top sourced)
      (fun later _ => p.shelfPath .image ∈ later) known := by
  have hlisting : p.Reaches known .listing := reaches_of_not_isApart (by simp [Part.IsApart])
  refine Attempt.keeps_ask_bind ⟨hsourced, .listing, hlisting, rfl⟩ ?_
  intro answer hpromise
  apply Attempt.keeps_granted_bind
  intro input hinput
  apply Attempt.keeps_bind (keeps_prepareDirectory hsourced .image trivial _)
  intro made _ _ himage
  refine Attempt.keeps_ask_bind ⟨hsourced, .image, trivial, reaches_of_mem himage, rfl⟩ ?_
  intro answer' hpromise'
  apply Attempt.keeps_granted_bind
  intro output houtput
  refine Attempt.keeps_ask_bind ⟨hsourced, .listing, hpromise .listing input rfl hinput⟩ ?_
  intro stream _
  obtain ⟨instructions, fault⟩ := stream.instructions
  refine Attempt.keeps_ask_bind ⟨hsourced, .image, trivial, reaches_of_mem himage,
    hpromise' .image output rfl houtput⟩ ?_
  intro written _
  cases fault with
  | some fault => exact Attempt.keeps_fail _
  | none =>
    by_cases hnil : instructions = []
    · simp only [hnil, if_true]
      exact Attempt.keeps_fail _
    · simp only [hnil]
      exact Attempt.keeps_granted_bind fun _ _ => Attempt.keeps_pure himage

theorem keeps_build :
    (rig.toolchain.build p.files).Keeps (p.contract rig top sourced)
      (fun later _ => sourced ∧ p.shelfPath .image ∈ later) known := by
  apply Attempt.keeps_bind keeps_assemble
  intro assembled _ _ hsourced
  apply Attempt.keeps_bind (keeps_disassemble hsourced)
  intro disassembled _ _ _
  apply Attempt.keeps_bind (keeps_extract hsourced)
  intro extracted _ _ himage
  exact Attempt.keeps_pure ⟨hsourced, himage⟩

theorem keeps_clear (hsourced : sourced) :
    (Simulator.clear p.files.result).Keeps (p.contract rig top sourced)
      (fun later _ => p.shelfPath .result ∈ later) known := by
  apply Attempt.keeps_bind (keeps_prepareDirectory hsourced .result trivial _)
  intro made _ _ hresult
  refine Attempt.keeps_ask_bind ⟨hsourced, .result, trivial, reaches_of_mem hresult, rfl⟩ ?_
  intro answer _
  split
  · exact Attempt.keeps_pure hresult
  · exact Attempt.keeps_pure hresult
  · exact Attempt.keeps_fail _

theorem keeps_invoke (hsourced : sourced) (himage : p.shelfPath .image ∈ known) :
    (rig.simulator.invoke p.files.image p.files.result).Keeps (p.contract rig top sourced)
      (fun later _ => p.shelfPath .result ∈ later) known := by
  apply Attempt.keeps_bind (keeps_clear hsourced)
  intro cleared _ hle hresult
  apply Attempt.keeps_bind (keeps_launch ⟨hsourced, Or.inr (Or.inr
    ⟨rfl, reaches_of_mem (hle himage), reaches_of_mem hresult⟩)⟩ _)
  intro later _ hle' _
  exact Attempt.keeps_pure (hle' hresult)

theorem keeps_ofFiles (hsourced : sourced) (hresult : p.shelfPath .result ∈ known)
    (rule : LengthRule) :
    (Comparison.ofFiles rule p.files.result p.files.expected).Keeps (p.contract rig top sourced)
      (fun later _ => p.shelfPath .result ∈ later) known := by
  have hexpected : p.Reaches known .expected := reaches_of_not_isApart (by simp [Part.IsApart])
  refine Attempt.keeps_ask_bind ⟨hsourced, .result, reaches_of_mem hresult, rfl⟩ ?_
  intro answer hpromise
  apply Attempt.keeps_granted_bind
  intro dump hdump
  refine Attempt.keeps_ask_bind ⟨hsourced, .expected, hexpected, rfl⟩ ?_
  intro answer' hpromise'
  apply Attempt.keeps_granted_bind
  intro golden hgolden
  refine Attempt.keeps_ask_bind ⟨hsourced, .expected, hpromise' .expected golden rfl hgolden⟩ ?_
  intro goldenStream _
  refine Attempt.keeps_ask_bind ⟨hsourced, .result, hpromise .result dump rfl hdump⟩ ?_
  intro dumpStream _
  split
  · exact Attempt.keeps_pure hresult
  · exact Attempt.keeps_fail _
  · exact Attempt.keeps_fail _

theorem keeps_simulate (hsourced : sourced) (himage : p.shelfPath .image ∈ known) :
    (simulate rig p.files).Keeps (p.contract rig top sourced)
      (fun later _ => p.shelfPath .result ∈ later) known :=
  Attempt.keeps_bind (keeps_invoke hsourced himage)
    fun _ _ _ hresult => keeps_ofFiles hsourced hresult _

/-- A record of the test can be gone by: an image or a pass comes from a regular source, and the
shelves that were made for it are known. -/
structure Stands (p : Plot) (sourced : Prop) (known : Set Path) (trial : Trial) : Prop where
  files : trial.files = p.files
  image : trial.image ≠ none → sourced ∧ p.shelfPath .image ∈ known
  pass : trial.passed = true →
    sourced ∧ p.shelfPath .image ∈ known ∧ p.shelfPath .result ∈ known

variable {trial : Trial}

theorem Stands.mono {later : Set Path} (h : p.Stands sourced known trial) (hle : known ≤ later) :
    p.Stands sourced later trial :=
  ⟨h.files, fun himage => ⟨(h.image himage).1, hle (h.image himage).2⟩,
    fun hpass => ⟨(h.pass hpass).1, hle (h.pass hpass).2.1, hle (h.pass hpass).2.2⟩⟩

theorem keeps_trial_build (h : p.Stands sourced known trial) :
    (trial.build rig).Keeps (p.contract rig top sourced)
      (fun later r => p.Stands sourced later r.2 ∧
        ∀ image, r.1 = .ok image → r.2.image ≠ none) known := by
  have hbuild : (rig.toolchain.build trial.files).Keeps (p.contract rig top sourced)
      (fun later _ => sourced ∧ p.shelfPath .image ∈ later) known := by
    rw [h.files]
    exact keeps_build
  apply Job.Keeps.bind hbuild
  intro later result hle hfits
  cases result with
  | ok image =>
    obtain ⟨hsourced, himage⟩ := hfits image rfl
    refine .done ⟨⟨h.files, fun _ => ⟨hsourced, himage⟩, fun hpass => ?_⟩, ?_⟩
    · exact (h.mono hle).pass hpass
    · intro image _
      simp
  | error failure => exact .done ⟨h.mono hle, fun image hok => by contradiction⟩

theorem keeps_requireImage (h : p.Stands sourced known trial) :
    (trial.requireImage rig).Keeps (p.contract rig top sourced)
      (fun later r => p.Stands sourced later r.2 ∧
        ∀ image, r.1 = .ok image → r.2.image ≠ none) known := by
  unfold requireImage
  cases himage : trial.image with
  | none => exact keeps_trial_build h
  | some image => exact .done ⟨h, fun _ _ => by simp [himage]⟩

theorem keeps_run (h : p.Stands sourced known trial) :
    (trial.run rig).Keeps (p.contract rig top sourced)
      (fun later r => p.Stands sourced later r.2) known := by
  unfold run
  rw [Job.bind_eq]
  apply Job.Keeps.bind (keeps_requireImage h)
  intro later r hle hr
  obtain ⟨result, trial⟩ := r
  obtain ⟨hstands, himage⟩ := hr
  cases result with
  | error failure =>
    refine .done ⟨hstands.files, hstands.image, ?_⟩
    intro hpass
    simp [passed] at hpass
  | ok image =>
    obtain ⟨hsourced, hshelf⟩ := hstands.image (himage image rfl)
    have hsimulate : (simulate rig trial.files).Keeps (p.contract rig top sourced)
        (fun later _ => p.shelfPath .result ∈ later) later := by
      rw [hstands.files]
      exact keeps_simulate hsourced hshelf
    apply Job.Keeps.bind hsimulate
    intro last result hle' hfits
    refine .done ⟨hstands.files, (hstands.mono hle').image, ?_⟩
    intro hpass
    cases result with
    | ok answer => exact ⟨hsourced, hle' hshelf, hfits answer rfl⟩
    | error failure => simp [passed, verdictOf] at hpass

theorem keeps_perform (h : p.Stands sourced known trial) (action : Action) :
    (trial.perform rig action).Keeps (p.contract rig top sourced)
      (fun later r => p.Stands sourced later r.2) known := by
  cases action with
  | build => exact Job.Keeps.bind (keeps_trial_build h) fun _ _ _ hr => .done hr.1
  | run => exact Job.Keeps.bind (keeps_run h) fun _ _ _ hr => .done hr

theorem keeps_performAll (h : p.Stands sourced known trial) (actions : List Action) :
    (trial.performAll rig actions).Keeps (p.contract rig top sourced)
      (fun later r => p.Stands sourced later r.2) known := by
  induction actions generalizing known trial with
  | nil => exact .done h
  | cons action rest ih =>
    apply Job.Keeps.bind (keeps_perform h action)
    intro _ _ _ hr
    exact Job.Keeps.bind (ih hr) fun _ _ _ hr' => .done hr'

theorem keeps_removeAll {paths : List Path} (h : ∀ path ∈ paths,
      (p.contract rig top sourced).allows known (.removeFile path)) :
    (removeAll paths).Keeps (p.contract rig top sourced) (fun _ _ => True) known := by
  induction paths with
  | nil => exact .done trivial
  | cons path rest ih =>
    refine .ask (h path (by simp)) ?_
    intro _ _
    exact ih fun other hother => h other (by simp [hother])

theorem keeps_discard (h : p.Stands sourced known trial) :
    (trial.discard rig).Keeps (p.contract rig top sourced) (fun _ _ => True) known := by
  unfold discard
  split_ifs with hpass
  · obtain ⟨hsourced, himage, hresult⟩ := h.pass hpass.1
    refine keeps_removeAll fun path hpath => ⟨hsourced, ?_⟩
    simp only [h.files, Files.generated, List.mem_cons, List.not_mem_nil, or_false] at hpath
    rcases hpath with rfl | rfl | rfl | rfl
    · exact ⟨.object, trivial, reaches_of_not_isApart (by simp [Part.IsApart]), rfl⟩
    · exact ⟨.listing, trivial, reaches_of_not_isApart (by simp [Part.IsApart]), rfl⟩
    · exact ⟨.image, trivial, reaches_of_mem himage, rfl⟩
    · exact ⟨.result, trivial, reaches_of_mem hresult, rfl⟩
  · exact .done trivial

/-- Whatever is done with a test, it asks for nothing but what its contract allows. -/
theorem keeps_live (h : p.Stands sourced known trial) (actions : List Action) :
    (trial.live rig actions).Keeps (p.contract rig top sourced) (fun _ _ => True) known := by
  apply Job.Keeps.bind (keeps_performAll h actions)
  intro later r _ hr
  exact Job.Keeps.bind (keeps_discard hr) fun _ _ _ _ => .done trivial

end Plot

end GoldenRun.Trial
