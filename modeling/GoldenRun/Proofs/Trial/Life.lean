import GoldenRun.Proofs.Disk.Removal
import GoldenRun.Proofs.Job.Course
import GoldenRun.Proofs.Trial.Run

/-!
# The life of a trial

A trial is made, works in any order and as often as it is asked to, and is given up. Whatever its
requests are answered, the last run alone decides the verdict, and making the image has no part in
it. A trial that is given up with a good verdict takes its files with it unless they are to be kept;
one that is given up with another verdict leaves everything as it is.
-/

namespace GoldenRun.Trial

/-- What a trial has come to by one operation. -/
inductive Event
  | built (result : Except Failure Image)
  | ran (result : Except Failure Comparison)
  | checked (result : Except Failure Bool)

def Event.passed? : Event → Option Bool
  | built _ => none
  | ran (.ok answer) => some answer.passed
  | checked (.ok passed) => some passed
  | ran (.error _) | checked (.error _) => some false

/-- The verdict after some operations, by the last of them that was a run. -/
def verdictAfter (events : List Event) : Verdict :=
  match (events.filterMap Event.passed?).getLast? with
  | none => .unset
  | some true => .pass
  | some false => .fail

/-- Operations one after the other, with any answers to their requests, have come to some events
and have brought a trial from its start to what it is. -/
inductive Reached (rig : Rig) (start : Trial) : List Event → Trial → Prop
  | start : Reached rig start [] start
  | built {events trial requests result next} : Reached rig start events trial →
      (trial.build rig).Course requests (result, next) →
      Reached rig start (events ++ [.built result]) next
  | ran {events trial requests result next} : Reached rig start events trial →
      (trial.run rig).Course requests (result, next) →
      Reached rig start (events ++ [.ran result]) next
  | checked {events trial requests result next} : Reached rig start events trial →
      (trial.check rig).Course requests (result, next) →
      Reached rig start (events ++ [.checked result]) next

/-- Whether the files of a trial go when it is given up. -/
def TakesFiles (rig : Rig) (trial : Trial) : Prop :=
  trial.verdict = .pass ∧ rig.settings.keepArtifacts = false

variable {rig : Rig} {category name : String} {start trial next : Trial} {events : List Event}
  {requests : List Request}

theorem of_build {result : Except Failure Image}
    (h : (trial.build rig).Course requests (result, next)) :
    next.files = trial.files ∧ next.verdict = trial.verdict := by
  unfold build at h
  rw [Job.bind_eq, Job.Course.bind_iff] at h
  obtain ⟨_, _, made, -, -, h⟩ := h
  cases made with
  | ok image =>
    obtain ⟨-, heq⟩ := Job.Course.done_iff.mp h
    obtain ⟨-, rfl⟩ := Prod.mk.inj heq
    exact ⟨rfl, rfl⟩
  | error failure =>
    obtain ⟨-, heq⟩ := Job.Course.done_iff.mp h
    obtain ⟨-, rfl⟩ := Prod.mk.inj heq
    exact ⟨rfl, rfl⟩

theorem of_requireImage {result : Except Failure Image}
    (h : (trial.requireImage rig).Course requests (result, next)) :
    next.files = trial.files := by
  unfold requireImage at h
  split at h
  · obtain ⟨-, heq⟩ := Job.Course.done_iff.mp h
    obtain ⟨-, rfl⟩ := Prod.mk.inj heq
    rfl
  · exact (of_build h).1

theorem of_run {result : Except Failure Comparison}
    (h : (trial.run rig).Course requests (result, next)) :
    next.files = trial.files ∧ next.verdict = verdictOf result := by
  unfold run at h
  rw [Job.bind_eq, Job.Course.bind_iff] at h
  obtain ⟨_, _, ⟨required, between⟩, -, hrequire, h⟩ := h
  have hfiles := of_requireImage hrequire
  cases required with
  | error failure =>
    obtain ⟨-, heq⟩ := Job.Course.done_iff.mp h
    obtain ⟨rfl, rfl⟩ := Prod.mk.inj heq
    exact ⟨hfiles, rfl⟩
  | ok image =>
    obtain ⟨_, _, made, -, -, h⟩ := Job.Course.bind_iff.mp h
    obtain ⟨-, heq⟩ := Job.Course.done_iff.mp h
    obtain ⟨rfl, rfl⟩ := Prod.mk.inj heq
    exact ⟨hfiles, rfl⟩

theorem of_check {result : Except Failure Bool}
    (h : (trial.check rig).Course requests (result, next)) :
    ∃ answer, result = answer.map Comparison.passed ∧
      next.files = trial.files ∧ next.verdict = verdictOf answer := by
  unfold check at h
  rw [Job.bind_eq, Job.Course.bind_iff] at h
  obtain ⟨_, _, ⟨answer, between⟩, -, hrun, h⟩ := h
  obtain ⟨-, heq⟩ := Job.Course.done_iff.mp h
  obtain ⟨rfl, rfl⟩ := Prod.mk.inj heq
  exact ⟨answer, rfl, of_run hrun⟩

theorem Reached.files (h : Reached rig start events trial) : trial.files = start.files := by
  induction h with
  | start => rfl
  | built _ hbuild ih => exact (of_build hbuild).1.trans ih
  | ran _ hrun ih => exact (of_run hrun).1.trans ih
  | checked _ hcheck ih =>
    obtain ⟨answer, -, hfiles, -⟩ := of_check hcheck
    exact hfiles.trans ih

theorem verdictAfter_append_of_none {event : Event} (h : event.passed? = none) :
    verdictAfter (events ++ [event]) = verdictAfter events := by
  simp [verdictAfter, List.filterMap_append, h]

theorem verdictAfter_append_of_some {event : Event} {verdict : Verdict}
    (h : event.passed?.map (if · then .pass else .fail) = some verdict) :
    verdictAfter (events ++ [event]) = verdict := by
  cases hpassed : event.passed? with
  | none => simp [hpassed] at h
  | some passed =>
    rw [hpassed] at h
    obtain rfl := Option.some.inj h
    cases passed <;> simp [verdictAfter, List.filterMap_append, hpassed]

theorem verdictAfter_ran (result : Except Failure Comparison) :
    verdictAfter (events ++ [.ran result]) = verdictOf result := by
  cases result <;> exact verdictAfter_append_of_some rfl

theorem verdictAfter_checked (answer : Except Failure Comparison) :
    verdictAfter (events ++ [.checked (answer.map Comparison.passed)]) = verdictOf answer := by
  cases answer <;> exact verdictAfter_append_of_some rfl

/-- The verdict is that of the last run. -/
theorem Reached.verdict (h : Reached rig start events trial) (hstart : start.verdict = .unset) :
    trial.verdict = verdictAfter events := by
  induction h with
  | start => exact hstart
  | built _ hbuild ih => rw [(of_build hbuild).2, ih, verdictAfter_append_of_none rfl]
  | ran _ hrun _ => rw [(of_run hrun).2, verdictAfter_ran]
  | checked _ hcheck _ =>
    obtain ⟨answer, rfl, -, hverdict⟩ := of_check hcheck
    rw [hverdict, verdictAfter_checked]

/-- Each path is asked to be removed, whatever became of the ones before it. -/
theorem course_removeAll {paths : List Path} (h : (removeAll paths).Course requests ()) :
    requests = paths.map .removeFile := by
  induction paths generalizing requests with
  | nil => exact (Job.Course.done_iff.mp h).1
  | cons path rest ih =>
    obtain _ | ⟨answer, h⟩ := h
    rw [List.map_cons, ih h]

theorem cleared_removeAll (machine : Machine) {paths : List Path}
    (hslash : ∀ path ∈ paths, path.endsInSlash = false) (disk : Disk) :
    Disk.Cleared paths disk (machine.run (removeAll paths) disk).2 := by
  induction paths generalizing disk with
  | nil => exact Disk.cleared_nil disk
  | cons path rest ih =>
    have hfirst := Disk.cleared_removeFile machine disk (hslash path (by simp))
    exact hfirst.append (ih (fun other hother => hslash other (by simp [hother])) _)

theorem endsInSlash_of_generated (p : Plot) {path : Path} (h : path ∈ p.files.generated) :
    path.endsInSlash = false := by
  simp only [Files.generated, List.mem_cons, List.not_mem_nil, or_false] at h
  rcases h with rfl | rfl | rfl | rfl
  · exact p.endsInSlash_path .object
  · exact p.endsInSlash_path .listing
  · exact p.endsInSlash_path .image
  · exact p.endsInSlash_path .result

/-- The verdict of an accepted test is that of its last run, and making the image has no part in it.
When the test is given up with the verdict that it has passed, and its files are not to be kept, the
files and links that are named by the paths of the four files are removed and nothing else changes;
each of them is tried, whatever became of the others. Otherwise nothing is asked for. -/
theorem verdict_and_discard (hnew : Trial.new rig category name = .ok start)
    (h : Reached rig start events trial) :
    trial.verdict = verdictAfter events ∧
    (∀ requests result next, (trial.build rig).Course requests (result, next) →
      next.verdict = trial.verdict) ∧
    (TakesFiles rig trial →
      (∀ requests, (trial.discard rig).Course requests () →
        requests = trial.files.generated.map .removeFile) ∧
      ∀ (machine : Machine) (disk : Disk),
        Disk.Cleared trial.files.generated disk (machine.run (trial.discard rig) disk).2) ∧
    (¬TakesFiles rig trial →
      (∀ requests, (trial.discard rig).Course requests () → requests = []) ∧
      ∀ (machine : Machine) (disk : Disk), (machine.run (trial.discard rig) disk).2 = disk) := by
  obtain ⟨hfiles, -, hunset⟩ := Plot.of_new hnew
  have hplot : trial.files = (Plot.ofNew hnew).files := h.files.trans hfiles
  have hpassed : trial.passed = true ∧ rig.settings.keepArtifacts = false ↔
      TakesFiles rig trial := by
    simp [Trial.passed, TakesFiles]
  refine ⟨h.verdict hunset, fun _ _ _ hbuild => (of_build hbuild).2, fun htakes => ?_,
    fun hleaves => ?_⟩
  · have hdiscard : trial.discard rig = removeAll trial.files.generated :=
      if_pos (hpassed.mpr htakes)
    rw [hdiscard]
    refine ⟨fun _ => course_removeAll, fun machine => cleared_removeAll machine ?_⟩
    intro path hpath
    exact endsInSlash_of_generated (Plot.ofNew hnew) (hplot ▸ hpath)
  · have hdiscard : trial.discard rig = .done () := if_neg (hpassed.not.mpr hleaves)
    rw [hdiscard]
    exact ⟨fun _ hcourse => (Job.Course.done_iff.mp hcourse).1, fun _ _ => rfl⟩

section Sample

theorem sampleDisk_ready (part : Part) (hpart : part.IsGenerated) :
    (Plot.ofNew sampleTrial_new).Ready sampleDisk [] part := by
  have hapart : part.IsApart ∨
      sampleDisk.at? ((Plot.ofNew sampleTrial_new).shelfPlace [] part) = some .directory := by
    cases part with
    | source => exact hpart.elim
    | expected => exact hpart.elim
    | object => exact Or.inr rfl
    | listing => exact Or.inr rfl
    | image => exact Or.inl trivial
    | result => exact Or.inl trivial
  exact (Plot.ready_iff_receives sampleDisk_on hapart).mpr (sampleDisk_receives part hpart)

theorem sample_fit_of_staffed {machine : Machine} {rig : Rig} {crew : Crew}
    (h : (Plot.ofNew sampleTrial_new).Staffed machine rig crew sampleDisk []) :
    (Plot.ofNew sampleTrial_new).Fit machine rig crew sampleDisk [] :=
  { h with
    on := sampleDisk_on
    source := (sampleDisk_on.isFile .source).trans (by decide)
    ready := sampleDisk_ready }

theorem sample_fit :
    (Plot.ofNew sampleTrial_new).Fit sampleMachine sampleRig sampleCrew sampleDisk [] :=
  sample_fit_of_staffed sample_staffed

/-- The tools of the sample make an image, on whatever machine and for whatever simulator. -/
theorem sample_builds_on {machine : Machine} {crew : Crew}
    (hfit : (Plot.ofNew sampleTrial_new).Fit machine sampleRig crew sampleDisk [])
    (hassembler : crew.assembler = sampleCrew.assembler)
    (hdisassembler : crew.disassembler = sampleCrew.disassembler) :
    ∃ built, machine.attempt (sampleRig.toolchain.build sampleTrial.files) sampleDisk =
      (.ok ⟨sampleTrial.files.image, 1⟩, built) ∧
    (Plot.ofNew sampleTrial_new).Alters [] sampleDisk built ∧
    (Plot.ofNew sampleTrial_new).view built [] .image =
      .ok (some (.file (Image.text [⟨['0'], 0x13⟩]) false)) := by
  have hsource : sampleDisk.content? ((Plot.ofNew sampleTrial_new).path .source) = some [] :=
    (sampleDisk_on.content? .source).trans (by decide)
  have hdraft : draft sampleRig (Plot.ofNew sampleTrial_new).files crew (some []) =
      .ok [⟨['0'], 0x13⟩] := by
    rw [draft_some, hassembler, hdisassembler]
    simp only [sampleCrew, Deed.checked, ExitStatus.isSuccess, Except.bind, Instruction.ofListing,
      sample_listing, if_true, Deposit.data?]
  have hdelivers : crew.Delivers (sampleRig.assembling (Plot.ofNew sampleTrial_new).files) :=
    fun _ _ => ⟨[], by rw [hassembler]; rfl⟩
  obtain ⟨built, hbuild, halters, himage⟩ := hfit.build hdelivers
  rw [hsource, hdraft] at hbuild himage
  exact ⟨built, hbuild, halters, himage _ rfl⟩

theorem sample_builds : ∃ built,
    sampleMachine.attempt (sampleRig.toolchain.build sampleTrial.files) sampleDisk =
      (.ok ⟨sampleTrial.files.image, 1⟩, built) ∧
    (Plot.ofNew sampleTrial_new).Alters [] sampleDisk built ∧
    (Plot.ofNew sampleTrial_new).view built [] .image =
      .ok (some (.file (Image.text [⟨['0'], 0x13⟩]) false)) :=
  sample_builds_on sample_fit rfl rfl

/-- The dump of the sample is judged by the rule of the settings, whoever makes it. -/
theorem sample_simulates_on {machine : Machine} {rig : Rig} {crew : Crew} {built : Disk}
    {dump : Bytes} (hfit : (Plot.ofNew sampleTrial_new).Fit machine rig crew sampleDisk [])
    (hdump : ∀ arguments input, (crew.simulator arguments input none).left = .holding dump)
    (halters : (Plot.ofNew sampleTrial_new).Alters [] sampleDisk built)
    (himage : (Plot.ofNew sampleTrial_new).view built [] .image =
      .ok (some (.file (Image.text [⟨['0'], 0x13⟩]) false))) :
    (machine.attempt (simulate rig sampleTrial.files) built).1 =
      .ok (.ofContents rig.settings.lengthRule [0x37] dump) := by
  have hexpected : ¬Part.IsGenerated .expected := by simp [Part.IsGenerated]
  have hview : (Plot.ofNew sampleTrial_new).view sampleDisk [] .expected =
      .ok (some (.file [0x37] false)) := by decide
  have hgolden : built.isDirectory ((Plot.ofNew sampleTrial_new).path .expected) = false :=
    (sampleDisk_on.isDirectory_vary hexpected halters).trans
      ((sampleDisk_on.isDirectory .expected).trans (by decide))
  have hsimulate := (hfit.vary halters).simulate himage hgolden
  rw [sampleDisk_on.read_vary hexpected halters, sampleDisk_on.read_of_view hview, hdump]
    at hsimulate
  exact hsimulate

theorem sample_passes : (sampleMachine.run (sampleTrial.run sampleRig) sampleDisk).1.1 =
    .ok ⟨true, 1, none, none⟩ := by
  obtain ⟨built, hbuild, halters, himage⟩ := sample_builds
  rw [(run_fresh sampleMachine sampleRig rfl sampleDisk).1, hbuild]
  exact (sample_simulates_on sample_fit (fun _ _ => rfl) halters himage).trans
    (congrArg Except.ok sample_judged)

/-- A test that has passed takes its files along. -/
theorem verdict_and_discard_sample : ∃ trial : Trial, trial.verdict = .pass ∧
    ∀ (machine : Machine) (disk : Disk),
      Disk.Cleared trial.files.generated disk (machine.run (trial.discard sampleRig) disk).2 := by
  obtain ⟨requests, hrun⟩ :=
    Job.Course.of_run sampleMachine (sampleTrial.run sampleRig) sampleDisk
  obtain ⟨hverdict, -, htakes, -⟩ := verdict_and_discard sampleTrial_new (.ran .start hrun)
  rw [sample_passes] at hverdict
  exact ⟨_, hverdict, (htakes ⟨hverdict, rfl⟩).2⟩

end Sample

end GoldenRun.Trial
