import GoldenRun.Proofs.Disk.Vacancy
import GoldenRun.Proofs.Machine.Twins
import GoldenRun.Proofs.Trial.Launching
import GoldenRun.Proofs.Trial.Life

/-!
# The dump that is judged

Whatever is left of earlier runs, the simulator is launched where nothing is at the path of its
dump, and an answer is about the dump that it has made there. If the place cannot be cleared, the
simulator is not launched; if it makes no dump, there is none to be judged. How the simulator ends,
and what it prints, plays no part.
-/

namespace GoldenRun

namespace Trial

def simulation (rig : Rig) (trial : Trial) : Launch :=
  rig.simulator.command trial.files.image trial.files.result

/-- Why the place of a dump cannot be cleared: its directory cannot be made, or what is there cannot
be removed. -/
inductive Obstructed (disk : Disk) (result : Path) : Path → Fault → Prop
  | directory {directory fault} : result.directory? = some directory →
      (disk.makeDirectories directory).1 = .error fault → Obstructed disk result directory fault
  | file {fault} : (disk.prepare result).1 = .ok () →
      (disk.prepare result).2.removeFile result = .error fault → fault ≠ .missing →
      Obstructed disk result result fault

/-- A run of a test judges no dump but the one that is made by it. -/
structure JudgesNewDump (machine : Machine) (rig : Rig) (trial : Trial) (disk : Disk) : Prop where
  /-- The simulator is launched where there is no dump. -/
  fresh : ∀ launched, (trial.simulation rig, launched) ∈ machine.launches (trial.run rig) disk →
    launched.Free trial.files.result
  /-- An answer is about the dump that has come into being by the only launch of the simulator. -/
  judged : ∀ answer, (machine.run (trial.run rig) disk).1.1 = .ok answer →
    ∃ launched place data executable golden,
      (machine.launches (trial.run rig) disk).filter (·.1 = trial.simulation rig) =
        [(trial.simulation rig, launched)] ∧
      launched.Free trial.files.result ∧ launched.at? place = none ∧
      (machine.launch (trial.simulation rig) launched).2 =
        (machine.run (trial.run rig) disk).2 ∧
      (machine.run (trial.run rig) disk).2.openFile trial.files.result = .ok place ∧
      (machine.run (trial.run rig) disk).2.at? place = some (.file data executable) ∧
      (machine.run (trial.run rig) disk).2.openFile trial.files.expected = .ok golden ∧
      Comparison.ofStreams rig.settings.lengthRule
        ((machine.run (trial.run rig) disk).2.stream golden) ⟨data, none⟩ = .ok answer
  /-- Where the place of the dump cannot be cleared, the simulator is not launched. -/
  obstructed : ∀ image next ready path fault,
    machine.run (trial.requireImage rig) disk = ((.ok image, next), ready) →
    Obstructed ready trial.files.result path fault →
    (machine.run (trial.run rig) disk).1.1 = .error (.cannotWrite .actual path fault) ∧
      (machine.run (trial.run rig) disk).1.2.verdict = .fail ∧
      ∀ launch ∈ machine.launches (trial.run rig) disk, launch.1 ≠ trial.simulation rig
  /-- A simulator that ends without a dump leaves nothing to be judged. -/
  absent : ∀ launched finished after,
    (trial.simulation rig, launched) ∈ machine.launches (trial.run rig) disk →
    machine.launch (trial.simulation rig) launched = (.ok finished, after) →
    finished.status ≠ none →
    (∀ place, launched.site? trial.files.result = some place → after.at? place = none) →
    (machine.run (trial.run rig) disk).1.1 =
        .error (.cannotOpen .actual trial.files.result .missing) ∧
      (machine.run (trial.run rig) disk).1.2.verdict = .fail

variable {machine machine' : Machine} {rig : Rig} {trial start : Trial} {disk : Disk}
  {category name : String} {events : List Event} {result actual expected : Path}

theorem prepare_of_directory? {directory path : Path} (h : path.directory? = some directory)
    (disk : Disk) : disk.prepare path = disk.makeDirectories directory := by
  rw [Disk.prepare, h]

theorem attempt_prepareDirectory (machine : Machine) (role : Role) (path : Path) (disk : Disk) :
    (∃ made, disk.prepare path = (.ok (), made) ∧
      machine.attempt (Attempt.prepareDirectory role path) disk = (.ok (), made)) ∨
    ∃ directory fault made, path.directory? = some directory ∧
      disk.makeDirectories directory = (.error fault, made) ∧
      machine.attempt (Attempt.prepareDirectory role path) disk =
        (.error (.cannotWrite role directory fault), made) := by
  cases hdirectory : path.directory? with
  | none =>
    refine Or.inl ⟨disk, by rw [Disk.prepare, hdirectory], ?_⟩
    unfold Attempt.prepareDirectory
    rw [hdirectory]
    rfl
  | some directory =>
    have hattempt : machine.attempt (Attempt.prepareDirectory role path) disk =
        machine.attempt (Attempt.granted (disk.makeDirectories directory).1
          (.cannotWrite role directory)) (disk.makeDirectories directory).2 := by
      unfold Attempt.prepareDirectory
      rw [hdirectory]
      exact Machine.attempt_ask_bind _ _
    rcases hmake : disk.makeDirectories directory with ⟨fault | done, made⟩ <;>
      rw [hmake] at hattempt
    · exact Or.inr ⟨directory, fault, made, rfl, hmake, hattempt⟩
    · exact Or.inl ⟨made, (prepare_of_directory? hdirectory disk).trans hmake, hattempt⟩

theorem attempt_clear (machine : Machine) (hslash : result.endsInSlash = false) (disk : Disk) :
    (∃ cleared, machine.attempt (Simulator.clear result) disk = (.ok (), cleared) ∧
      cleared.Free result ∧ ∀ path fault, ¬Obstructed disk result path fault) ∨
    ∃ path fault made, machine.attempt (Simulator.clear result) disk =
        (.error (.cannotWrite .actual path fault), made) ∧
      ∀ path' fault', Obstructed disk result path' fault' → path' = path ∧ fault' = fault := by
  unfold Simulator.clear
  rcases attempt_prepareDirectory machine .actual result disk with
    ⟨made, hprepare, hattempt⟩ | ⟨directory, fault, made, hdirectory, hmake, hattempt⟩
  · have hmade : ∀ directory, result.directory? = some directory →
        ∀ fault, (disk.makeDirectories directory).1 ≠ .error fault := by
      intro directory hdirectory fault hfault
      have hok := congrArg Prod.fst hprepare
      rw [prepare_of_directory? hdirectory] at hok
      exact absurd (hfault.symm.trans hok) (by simp)
    rw [Machine.attempt_bind_ok hattempt, Machine.attempt_ask_bind]
    rcases Disk.free_of_answer machine made hslash with
      ⟨fault, hmissing, hremove⟩ | ⟨hanswer, hfree⟩
    · have hanswer : machine.answer (.removeFile result) made = (.error fault, made) := by
        simp [Machine.answer, hremove]
      rw [hanswer]
      refine Or.inr ⟨result, fault, made, ?_, ?_⟩
      · cases fault with
        | missing => exact absurd rfl hmissing
        | _ => rfl
      · rintro _ fault' (⟨hdirectory, hfault⟩ | ⟨-, hfault, -⟩)
        · exact absurd hfault (hmade _ hdirectory _)
        · rw [hprepare, hremove] at hfault
          exact ⟨rfl, (Except.error.inj hfault).symm⟩
    · refine Or.inl ⟨_, ?_, hfree, ?_⟩
      · rcases hanswer with hanswer | hanswer <;> rw [hanswer] <;> rfl
      · rintro path fault (⟨hdirectory, hfault⟩ | ⟨-, hfault, hmissing⟩)
        · exact hmade _ hdirectory _ hfault
        · rw [hprepare] at hfault
          have hrefused : (machine.answer (.removeFile result) made).1 = .error fault := by
            simp only [Machine.answer, hfault]
          rcases hanswer with hanswer | hanswer <;> rw [hrefused] at hanswer
          · contradiction
          · exact hmissing (Except.error.inj hanswer)
  · refine Or.inr ⟨directory, fault, made, Machine.attempt_bind_error hattempt, ?_⟩
    rintro _ fault' (⟨hother, hfault⟩ | ⟨hok, -, -⟩)
    · obtain rfl := Option.some.inj (hother.symm.trans hdirectory)
      rw [hmake] at hfault
      exact ⟨rfl, (Except.error.inj hfault).symm⟩
    · rw [prepare_of_directory? hdirectory, hmake] at hok
      contradiction

theorem attempt_ofFiles_missing (machine : Machine) (rule : LengthRule) (expected : Path)
    {fault : Fault} (h : disk.openFile actual = .error fault) :
    machine.attempt (Comparison.ofFiles rule actual expected) disk =
      (.error (.cannotOpen .actual actual fault), disk) := by
  have hanswer : machine.answer (.openFile actual) disk = (.error fault, disk) :=
    congrArg (·, disk) h
  unfold Comparison.ofFiles
  rw [Machine.attempt_ask_bind, hanswer]
  exact Machine.attempt_bind_error (Machine.attempt_granted_error _ _)

theorem attempt_ofFiles_ok {rule : LengthRule} {answer : Comparison} {after : Disk}
    (h : machine.attempt (Comparison.ofFiles rule actual expected) disk = (.ok answer, after)) :
    after = disk ∧ ∃ dump golden, disk.openFile actual = .ok dump ∧
      disk.openFile expected = .ok golden ∧
      Comparison.ofStreams rule (disk.stream golden) (disk.stream dump) = .ok answer := by
  cases hdump : disk.openFile actual with
  | error fault =>
    rw [attempt_ofFiles_missing machine rule expected hdump] at h
    simp at h
  | ok dump =>
    have hactual : machine.answer (.openFile actual) disk = (.ok dump, disk) :=
      congrArg (·, disk) hdump
    unfold Comparison.ofFiles at h
    rw [Machine.attempt_ask_bind, hactual, Machine.attempt_bind_ok (Machine.attempt_granted_ok _ _),
      Machine.attempt_ask_bind] at h
    cases hgolden : disk.openFile expected with
    | error fault =>
      have hexpected : machine.answer (.openFile expected) disk = (.error fault, disk) :=
        congrArg (·, disk) hgolden
      rw [hexpected, Machine.attempt_bind_error (Machine.attempt_granted_error _ _)] at h
      simp at h
    | ok golden =>
      have hexpected : machine.answer (.openFile expected) disk = (.ok golden, disk) :=
        congrArg (·, disk) hgolden
      rw [hexpected, Machine.attempt_bind_ok (Machine.attempt_granted_ok _ _),
        Machine.attempt_ask_bind, Machine.attempt_ask_bind] at h
      simp only [Machine.answer] at h
      refine ⟨?_, dump, golden, rfl, rfl, ?_⟩
      · split at h
        · exact (congrArg Prod.snd h).symm
        · simp at h
        · simp at h
      · split at h
        · next judged =>
          obtain rfl := Except.ok.inj (congrArg Prod.fst h)
          exact judged
        · simp at h
        · simp at h

/-- A run does not launch the simulator, because it fails before, or launches it once, where nothing
is at the path of the dump. -/
theorem run_cases (machine : Machine) (rig : Rig) {trial : Trial} (disk : Disk)
    (hslash : trial.files.result.endsInSlash = false) :
    (∃ failure, (machine.run (trial.run rig) disk).1.1 = .error failure ∧
      (∀ launch ∈ machine.launches (trial.run rig) disk, launch.1 ≠ trial.simulation rig) ∧
      ∀ image next ready path fault,
        machine.run (trial.requireImage rig) disk = ((.ok image, next), ready) →
        Obstructed ready trial.files.result path fault →
        failure = .cannotWrite .actual path fault) ∨
    ∃ image next ready cleared,
      machine.run (trial.requireImage rig) disk = ((.ok image, next), ready) ∧
      machine.attempt (Simulator.clear trial.files.result) ready = (.ok (), cleared) ∧
      cleared.Free trial.files.result ∧
      (∀ path fault, ¬Obstructed ready trial.files.result path fault) ∧
      ((machine.run (trial.run rig) disk).1.1, (machine.run (trial.run rig) disk).2) =
        machine.attempt (simulate rig trial.files) ready ∧
      machine.launches (trial.run rig) disk = machine.launches (trial.requireImage rig) disk ++
        [(trial.simulation rig, cleared)] := by
  have hbefore := not_launched_by_requireImage machine rig trial disk
  obtain ⟨requests, hcourse⟩ := Job.Course.of_run machine (trial.requireImage rig) disk
  rcases hrequire : machine.run (trial.requireImage rig) disk with ⟨⟨failure | image, next⟩, ready⟩
  · obtain ⟨hrun, hlaunches⟩ := run_of_error hrequire
    refine Or.inl ⟨failure, by rw [hrun], hlaunches ▸ hbefore, ?_⟩
    intro image next' ready' path fault hok
    simp at hok
  · obtain ⟨hrun, hlaunches⟩ := run_of_image hrequire
    rw [hrequire] at hcourse
    rw [of_requireImage hcourse] at hrun hlaunches
    rcases attempt_clear machine hslash ready with
      ⟨cleared, hclear, hfree, hnot⟩ | ⟨path, fault, made, hclear, hcause⟩
    · rw [launches_simulate hclear] at hlaunches
      exact Or.inr ⟨image, next, ready, cleared, rfl, hclear, hfree, hnot, by rw [hrun], hlaunches⟩
    · obtain ⟨hsimulate, hnone⟩ := simulate_of_error rig hclear
      rw [hsimulate] at hrun
      rw [hnone, List.append_nil] at hlaunches
      refine Or.inl ⟨_, by rw [hrun], hlaunches ▸ hbefore, ?_⟩
      intro image' next' ready' path' fault' hok hobstructed
      obtain ⟨-, rfl⟩ := Prod.mk.inj hok
      obtain ⟨rfl, rfl⟩ := hcause path' fault' hobstructed
      rfl

theorem attempt_congr {α : Type} {x : Attempt α} {fits : Unit → α → Prop}
    (h : x.Keeps (launching fun _ => False) fits ()) (machine machine' : Machine) (disk : Disk) :
    machine'.attempt x disk = machine.attempt x disk :=
  Machine.run_congr fun launch hmem => (h.launches machine disk launch hmem).elim

theorem twins_simulate
    (h : machine.Twins (trial.simulation rig)
      (machine.launches (simulate rig trial.files).job disk) machine') :
    machine'.attempt (simulate rig trial.files) disk =
      machine.attempt (simulate rig trial.files) disk := by
  have hsame := attempt_congr (Simulator.launching_clear trial.files.result) machine machine' disk
  rcases hclear : machine.attempt (Simulator.clear trial.files.result) disk with
    ⟨failure | ended, cleared⟩ <;> rw [hclear] at hsame
  · rw [(simulate_of_error rig hsame).1, (simulate_of_error rig hclear).1]
  · have hjudge := attempt_congr (Comparison.launching_ofFiles rig.settings.lengthRule
      trial.files.result trial.files.expected) machine machine'
    rw [launches_simulate hclear] at h
    rw [simulate_of_clear hsame, simulate_of_clear hclear]
    rcases h.launch rfl List.mem_cons_self with hlaunch | ⟨_, _, _, _, after, hlaunch, hlaunch'⟩
    · unfold simulation at hlaunch
      rw [hlaunch]
      rcases machine.launch (rig.simulator.command trial.files.image trial.files.result) cleared
        with ⟨fault | ⟨_ | status, diagnostics⟩, after⟩
      · rfl
      · rfl
      · exact hjudge after
    · unfold simulation at hlaunch hlaunch'
      rw [hlaunch, hlaunch']
      exact hjudge after

/-- Twins come to the same result, the same record of the test and the same files. -/
theorem twins_run (h : machine.Twins (trial.simulation rig)
      (machine.launches (trial.run rig) disk) machine') :
    machine'.run (trial.run rig) disk = machine.run (trial.run rig) disk := by
  have hbefore := not_launched_by_requireImage machine rig trial disk
  have hrequires : (∀ launch ∈ machine.launches (trial.requireImage rig) disk,
      launch ∈ machine.launches (trial.run rig) disk) →
      machine'.run (trial.requireImage rig) disk = machine.run (trial.requireImage rig) disk :=
    fun hpart => Machine.run_congr fun launch hmem =>
      h.others launch (hpart launch hmem) (hbefore launch hmem)
  obtain ⟨requests, hcourse⟩ := Job.Course.of_run machine (trial.requireImage rig) disk
  rcases hrequire : machine.run (trial.requireImage rig) disk with
    ⟨⟨failure | image, next⟩, ready⟩
  · obtain ⟨hrun, hlaunches⟩ := run_of_error hrequire
    have hsame := (hrequires fun _ hmem => hlaunches ▸ hmem).trans hrequire
    rw [hrun, (run_of_error hsame).1]
  · obtain ⟨hrun, hlaunches⟩ := run_of_image hrequire
    have hsame := (hrequires fun _ hmem => hlaunches ▸ List.mem_append_left _ hmem).trans hrequire
    rw [hrequire] at hcourse
    rw [of_requireImage hcourse] at hrun hlaunches
    rw [hlaunches] at h
    rw [hrun, (run_of_image hsame).1, of_requireImage hcourse,
      twins_simulate (h.mono fun _ => List.mem_append_right _)]

theorem mem_launches_run {launch : Launch × Disk}
    (h : launch ∈ machine.launches (trial.run rig) disk) :
    launch ∈ machine.launches (trial.requireImage rig) disk ∨ launch.1 = trial.simulation rig := by
  obtain ⟨requests, hcourse⟩ := Job.Course.of_run machine (trial.requireImage rig) disk
  rcases hrequire : machine.run (trial.requireImage rig) disk with
    ⟨⟨failure | image, next⟩, ready⟩
  · rw [(run_of_error hrequire).2] at h
    exact Or.inl h
  · rw [hrequire] at hcourse
    rw [(run_of_image hrequire).2, of_requireImage hcourse] at h
    rcases List.mem_append.mp h with hbefore | hlast
    · exact Or.inl hbefore
    · exact Or.inr (of_mem_launches_simulate hlast).1

/-- A simulator that comes to its end could have ended in any other way. -/
theorem twins_simulation (status : ExitStatus) (output diagnostics : Bytes)
    (hends : ∀ launched, (trial.simulation rig, launched) ∈ machine.launches (trial.run rig) disk →
      ∀ program, machine.findProgram launched rig.simulator.program = .ok program →
        (program (trial.simulation rig).arguments rig.simulator.limit launched).status ≠ none) :
    machine.Twins (trial.simulation rig) (machine.launches (trial.run rig) disk)
      (machine.ending (trial.simulation rig).arguments status output diagnostics) := by
  refine Machine.twins_ending (fun launch hmem hne => ?_) hends
  rcases mem_launches_run hmem with hbefore | hsimulates
  · exact ((launching_requireImage rig trial).launches machine disk launch hbefore).arguments_ne
      rig.simulator
  · exact absurd hsimulates hne

theorem verdict_of_run (machine : Machine) (rig : Rig) (trial : Trial) (disk : Disk) :
    (machine.run (trial.run rig) disk).1.2.verdict =
      verdictOf (machine.run (trial.run rig) disk).1.1 := by
  obtain ⟨requests, hcourse⟩ := Job.Course.of_run machine (trial.run rig) disk
  exact (of_run hcourse).2

theorem stream_of_file {place : Place} {data : Bytes} {executable : Bool}
    (h : disk.at? place = some (.file data executable)) : disk.stream place = ⟨data, none⟩ := by
  rw [Disk.stream, h]

theorem judged_of_free {before after : Disk} {rule : LengthRule} {answer : Comparison} {last : Disk}
    (hfree : before.Free actual) (hroute : actual.route = actual.steps)
    (hvaries : Disk.Varies {place | before.site? actual = some place} ∅ before after)
    (h : machine.attempt (Comparison.ofFiles rule actual expected) after = (.ok answer, last)) :
    last = after ∧ ∃ place data executable golden, before.at? place = none ∧
      after.openFile actual = .ok place ∧ after.at? place = some (.file data executable) ∧
      after.openFile expected = .ok golden ∧
      Comparison.ofStreams rule (after.stream golden) ⟨data, none⟩ = .ok answer := by
  obtain ⟨hlast, dump, golden, hdump, hgolden, hanswer⟩ := attempt_ofFiles_ok h
  rcases hfree.vary hroute hvaries with
    ⟨hstill, -⟩ | ⟨place, data, executable, -, hnone, hopen, hfile⟩
  · rw [hstill.openFile hroute] at hdump
    contradiction
  · obtain rfl := Except.ok.inj (hdump.symm.trans hopen)
    rw [stream_of_file hfile] at hanswer
    exact ⟨hlast, dump, data, executable, golden, hnone, hopen, hfile, hgolden, hanswer⟩

theorem openFile_of_nothing {before after : Disk} (hfree : before.Free actual)
    (hroute : actual.route = actual.steps)
    (hvaries : Disk.Varies {place | before.site? actual = some place} ∅ before after)
    (hnothing : ∀ place, before.site? actual = some place → after.at? place = none) :
    after.openFile actual = .error .missing := by
  rcases hfree.vary hroute hvaries with
    ⟨hstill, -⟩ | ⟨place, data, executable, hsite, -, -, hfile⟩
  · exact hstill.openFile hroute
  · rw [hnothing place hsite] at hfile
    contradiction

section Launches

variable {cleared launched : Disk}

theorem eq_of_mem_launches
    (h : machine.launches (trial.run rig) disk = machine.launches (trial.requireImage rig) disk ++
      [(trial.simulation rig, cleared)])
    (hmem : (trial.simulation rig, launched) ∈ machine.launches (trial.run rig) disk) :
    launched = cleared := by
  rw [h] at hmem
  rcases List.mem_append.mp hmem with hbefore | hlast
  · exact absurd rfl (not_launched_by_requireImage machine rig trial disk _ hbefore)
  · exact congrArg Prod.snd (List.mem_singleton.mp hlast)

theorem filter_launches
    (h : machine.launches (trial.run rig) disk = machine.launches (trial.requireImage rig) disk ++
      [(trial.simulation rig, cleared)]) :
    (machine.launches (trial.run rig) disk).filter (·.1 = trial.simulation rig) =
      [(trial.simulation rig, cleared)] := by
  rw [h, List.filter_append, List.filter_eq_nil_iff.mpr]
  · simp
  · intro launch hmem
    rw [decide_eq_true_eq]
    exact not_launched_by_requireImage machine rig trial disk launch hmem

end Launches

theorem judgesNewDump_of_error {failure : Failure}
    (hfailure : (machine.run (trial.run rig) disk).1.1 = .error failure)
    (hnever : ∀ launch ∈ machine.launches (trial.run rig) disk, launch.1 ≠ trial.simulation rig)
    (hcause : ∀ image next ready path fault,
      machine.run (trial.requireImage rig) disk = ((.ok image, next), ready) →
      Obstructed ready trial.files.result path fault →
      failure = .cannotWrite .actual path fault) :
    JudgesNewDump machine rig trial disk := by
  have hverdict := verdict_of_run machine rig trial disk
  rw [hfailure] at hverdict
  refine ⟨fun launched hmem => absurd rfl (hnever _ hmem), fun answer hok => ?_,
    fun image next ready path fault hrequire hobstructed => ?_,
    fun launched _ _ hmem => absurd rfl (hnever _ hmem)⟩
  · rw [hfailure] at hok
    contradiction
  · rw [hfailure]
    exact ⟨congrArg _ (hcause image next ready path fault hrequire hobstructed), hverdict, hnever⟩

theorem judgesNewDump (hslash : trial.files.result.endsInSlash = false)
    (hroute : trial.files.result.route = trial.files.result.steps)
    (hconfined : ∀ launched,
      (trial.simulation rig, launched) ∈ machine.launches (trial.run rig) disk →
      Disk.Varies {place | launched.site? trial.files.result = some place} ∅ launched
        (machine.launch (trial.simulation rig) launched).2) :
    JudgesNewDump machine rig trial disk := by
  rcases run_cases machine rig disk hslash with ⟨failure, hfailure, hnever, hcause⟩ |
    ⟨image, next, ready, cleared, hrequire, hclear, hfree, hnot, hrun, hlaunches⟩
  · exact judgesNewDump_of_error hfailure hnever hcause
  · have hvaries := hconfined cleared (by rw [hlaunches]; simp)
    rw [simulate_of_clear hclear] at hrun
    refine ⟨fun launched hmem => eq_of_mem_launches hlaunches hmem ▸ hfree, fun answer hok => ?_,
      fun image' next' ready' path fault hrequire' hobstructed => ?_,
      fun launched finished after hmem hlaunch hends hnothing => ?_⟩
    · rw [hok] at hrun
      unfold simulation at hvaries
      rcases hlaunch : machine.launch (rig.simulator.command trial.files.image trial.files.result)
        cleared with ⟨fault | ⟨_ | status, diagnostics⟩, after⟩ <;> rw [hlaunch] at hrun hvaries
      · simp at hrun
      · simp at hrun
      · obtain ⟨hlast, place, data, executable, golden, hnone, hopen, hfile, hgolden, hanswer⟩ :=
          judged_of_free hfree hroute hvaries hrun.symm
        rw [hlast]
        exact ⟨cleared, place, data, executable, golden, filter_launches hlaunches, hfree, hnone,
          congrArg Prod.snd hlaunch, hopen, hfile, hgolden, hanswer⟩
    · obtain ⟨-, rfl⟩ := Prod.mk.inj (hrequire.symm.trans hrequire')
      exact absurd hobstructed (hnot path fault)
    · obtain rfl := eq_of_mem_launches hlaunches hmem
      obtain ⟨status, hstatus⟩ := Option.ne_none_iff_exists'.mp hends
      obtain ⟨_, diagnostics⟩ := finished
      obtain rfl := hstatus
      unfold simulation at hlaunch hvaries
      rw [hlaunch] at hrun hvaries
      have hresult := congrArg Prod.fst (hrun.trans (attempt_ofFiles_missing machine
        rig.settings.lengthRule trial.files.expected
        (openFile_of_nothing hfree hroute hvaries hnothing)))
      have hverdict := verdict_of_run machine rig trial disk
      rw [hresult] at hverdict
      exact ⟨hresult, hverdict⟩

/-- Whatever has been done with an accepted test and whatever is in the file system, a run judges no
dump but the one that the simulator makes in it, as long as the simulator writes nothing else; and
simulators with the same effect on files come to the same, however they end. -/
theorem run_judges_new_dump (machine : Machine) (hnew : Trial.new rig category name = .ok start)
    (h : Reached rig start events trial) (disk : Disk)
    (hconfined : ∀ launched,
      (trial.simulation rig, launched) ∈ machine.launches (trial.run rig) disk →
      Disk.Varies {place | launched.site? trial.files.result = some place} ∅ launched
        (machine.launch (trial.simulation rig) launched).2) :
    JudgesNewDump machine rig trial disk ∧
      ∀ machine', machine.Twins (trial.simulation rig)
          (machine.launches (trial.run rig) disk) machine' →
        machine'.run (trial.run rig) disk = machine.run (trial.run rig) disk := by
  have hresult : trial.files.result = (Plot.ofNew hnew).path .result := by
    rw [h.files, (Plot.of_new hnew).1]
    rfl
  refine ⟨judgesNewDump ?_ ?_ hconfined, fun machine' htwins => twins_run htwins⟩
  · rw [hresult]
    exact (Plot.ofNew hnew).endsInSlash_path .result
  · rw [hresult]
    exact (Plot.ofNew hnew).route_path .result

theorem sample_launched {launched : Disk} (hmem : (sampleTrial.simulation sampleRig, launched) ∈
      sampleMachine.launches (sampleTrial.run sampleRig) sampleDisk) :
    (Plot.ofNew sampleTrial_new).Fit sampleMachine sampleRig sampleCrew launched [] ∧
      (Plot.ofNew sampleTrial_new).view launched [] .result = .ok none := by
  obtain ⟨built, hbuild, halters, himage⟩ := sample_builds
  have hrequire : sampleMachine.run (sampleTrial.requireImage sampleRig) sampleDisk =
      ((.ok ⟨sampleTrial.files.image, 1⟩,
        { sampleTrial with image := some ⟨sampleTrial.files.image, 1⟩ }), built) := by
    change sampleMachine.run (sampleTrial.build sampleRig) sampleDisk = _
    unfold Trial.build
    unfold Machine.attempt at hbuild
    rw [Job.bind_eq, Machine.run_bind, hbuild]
    rfl
  obtain ⟨cleared, hclear, hcleared, hview, -⟩ := (sample_fit.vary halters).clear himage
  have honce : sampleMachine.launches (simulate sampleRig sampleTrial.files).job built =
      [(sampleTrial.simulation sampleRig, cleared)] := launches_simulate hclear
  obtain rfl := eq_of_mem_launches ((run_of_image hrequire).2.trans (congrArg _ honce)) hmem
  exact ⟨(sample_fit.vary halters).vary hcleared, hview⟩

theorem sample_confined : ∀ launched,
    (sampleTrial.simulation sampleRig, launched) ∈
      sampleMachine.launches (sampleTrial.run sampleRig) sampleDisk →
    Disk.Varies {place | launched.site? sampleTrial.files.result = some place} ∅ launched
      (sampleMachine.launch (sampleTrial.simulation sampleRig) launched).2 := by
  intro launched hmem
  obtain ⟨hfit, hview⟩ := sample_launched hmem
  have hsite : launched.site? sampleTrial.files.result =
      some ((Plot.ofNew sampleTrial_new).place [] .result) :=
    (hfit.on.site? .result).trans (by rw [hview]; rfl)
  have hsets := hfit.simulates.sets hfit.on ((Plot.ofNew sampleTrial_new).simulating_target _)
  exact hsets.within hsite

theorem sample_fails {launched : Disk} (hmem : (sampleTrial.simulation sampleRig, launched) ∈
      sampleMachine.launches (sampleTrial.run sampleRig) sampleDisk) :
    (∀ program, sampleMachine.findProgram launched sampleRig.simulator.program = .ok program →
      (program (sampleTrial.simulation sampleRig).arguments sampleRig.simulator.limit
        launched).status ≠ none) ∧
      (sampleMachine.launch (sampleTrial.simulation sampleRig) launched).1 =
        .ok ⟨some (.exited 1), []⟩ := by
  have hemploys := (sample_launched hmem).1.simulates
  refine ⟨fun program hfind => ?_, hemploys.answer none⟩
  obtain ⟨-, found, hserves⟩ := hemploys
  obtain rfl : found = program :=
    Except.ok.inj ((hserves.finds launched (.refl _)).symm.trans hfind)
  exact ne_of_eq_of_ne (hserves.obeys found rfl launched).status (Option.some_ne_none _)

/-- The dump of the sample is made where there was none, and the run comes to the same with a
simulator that prints something and is killed. -/
theorem run_judges_new_dump_sample :
    ∃ (machine' : Machine) (launched after : Disk) (place : Place) (data : Bytes)
      (executable : Bool),
    launched.Free sampleTrial.files.result ∧ launched.at? place = none ∧
    (sampleMachine.run (sampleTrial.run sampleRig) sampleDisk).2.at? place =
      some (.file data executable) ∧
    sampleMachine.launch (sampleTrial.simulation sampleRig) launched =
      (.ok ⟨some (.exited 1), []⟩, after) ∧
    machine'.launch (sampleTrial.simulation sampleRig) launched =
      (.ok ⟨some (.killed 11 false), [0x21]⟩, after) ∧
    machine'.run (sampleTrial.run sampleRig) sampleDisk =
      sampleMachine.run (sampleTrial.run sampleRig) sampleDisk := by
  obtain ⟨hjudges, htwins⟩ :=
    run_judges_new_dump sampleMachine sampleTrial_new .start sampleDisk sample_confined
  obtain ⟨launched, place, data, executable, _, honly, hfree, hnone, -, -, hfile, -⟩ :=
    hjudges.judged _ sample_passes
  have hmem : (sampleTrial.simulation sampleRig, launched) ∈
      sampleMachine.launches (sampleTrial.run sampleRig) sampleDisk :=
    List.mem_of_mem_filter (honly ▸ List.mem_singleton_self _)
  have hlaunch : sampleMachine.launch (sampleTrial.simulation sampleRig) launched =
      (.ok ⟨some (.exited 1), []⟩, _) := Prod.ext (sample_fails hmem).2 rfl
  exact ⟨_, launched, _, place, data, executable, hfree, hnone, hfile, hlaunch,
    Machine.launch_ending rfl hlaunch, htwins _
      (twins_simulation (.killed 11 false) [0x3F] [0x21] fun _ hmem => (sample_fails hmem).1)⟩

end Trial

end GoldenRun
