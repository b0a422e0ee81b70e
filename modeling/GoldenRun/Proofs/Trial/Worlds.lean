import GoldenRun.Proofs.Disk.Ways
import GoldenRun.Proofs.Trial.Dump

/-!
# One simulation in two worlds

The simulation of an image looks at the place of its dump, at the golden result and, by the
simulator, at the image. In two worlds that agree there it comes to the same and changes both file
systems in step, whatever else they hold.
-/

namespace GoldenRun

/-- How a simulator ends, if it does so in time, and what becomes of its dump, by the content of its
image and the fault that it meets if it writes its dump. -/
abbrev Habit := Option Bytes → Option Fault → Option ExitStatus × Deposit

/-- A program goes by a habit when it is launched to simulate an image: the content of the image
decides how it ends and what it leaves for a dump if it can write one, and it writes nothing
else. -/
structure Program.Follows (program : Program) (habit : Habit) (simulator : Simulator)
    (image result : Path) : Prop where
  ends : ∀ disk, (program (simulator.arguments image result) simulator.limit disk).status =
    (habit (disk.content? image) (disk.obstacle? (some result))).1
  confined : ∀ disk, Disk.Varies {place | disk.site? result = some place} ∅ disk
    (program (simulator.arguments image result) simulator.limit disk).disk
  leaves : ∀ disk place, disk.site? result = some place →
    ((program (simulator.arguments image result) simulator.limit disk).disk.at? place).map
        Entry.plain =
      ((habit (disk.content? image) (disk.obstacle? (some result))).2.apply
        (disk.at? place)).map Entry.plain

namespace Machine

/-- An attempt comes to the same on two machines, and changes their file systems in step. -/
structure Concurs {α : Type} (machine machine' : Machine) (x : Attempt α) (disk other : Disk) :
    Prop where
  result : (machine'.attempt x other).1 = (machine.attempt x disk).1
  inStep : Disk.InStep disk other (machine.attempt x disk).2 (machine'.attempt x other).2

variable {α β : Type} {machine machine' : Machine} {disk other : Disk} {f : α → Attempt β}

theorem concurs_pure (a : α) : machine.Concurs machine' (pure a) disk other :=
  ⟨rfl, .refl disk other⟩

theorem concurs_fail (failure : Failure) :
    machine.Concurs machine' (Attempt.fail failure : Attempt α) disk other :=
  ⟨rfl, .refl disk other⟩

/-- The parts of an attempt concur one after the other. -/
theorem Concurs.bind {x : Attempt α} (h : machine.Concurs machine' x disk other)
    (hf : ∀ a, machine.Concurs machine' (f a) (machine.attempt x disk).2
      (machine'.attempt x other).2) :
    machine.Concurs machine' (x >>= f) disk other := by
  obtain ⟨hresult, hstep⟩ := h
  rcases hx : machine.attempt x disk with ⟨failure | a, made⟩ <;>
    rcases hx' : machine'.attempt x other with ⟨result, made'⟩ <;>
    rw [hx, hx'] at hresult hstep hf
  · obtain rfl : result = .error failure := hresult
    exact ⟨by rw [attempt_bind_error hx, attempt_bind_error hx'],
      by rw [attempt_bind_error hx, attempt_bind_error hx']; exact hstep⟩
  · obtain rfl : result = .ok a := hresult
    refine ⟨?_, ?_⟩
    · rw [attempt_bind_ok hx, attempt_bind_ok hx']
      exact (hf a).result
    · rw [attempt_bind_ok hx, attempt_bind_ok hx']
      exact hstep.trans (hf a).inStep

theorem concurs_ask_bind {r : Request} {f : r.Answer → Attempt β}
    (hanswer : (machine'.answer r other).1 = (machine.answer r disk).1)
    (hstep : Disk.InStep disk other (machine.answer r disk).2 (machine'.answer r other).2)
    (hf : machine.Concurs machine' (f (machine.answer r disk).1) (machine.answer r disk).2
      (machine'.answer r other).2) :
    machine.Concurs machine' (Attempt.ask r >>= f) disk other := by
  refine ⟨?_, ?_⟩
  · rw [attempt_ask_bind, attempt_ask_bind, hanswer]
    exact hf.result
  · rw [attempt_ask_bind, attempt_ask_bind, hanswer]
    exact hstep.trans hf.inStep

theorem concurs_granted_bind {answer : Except Fault α} {refused : Fault → Failure}
    (hf : ∀ a, answer = .ok a → machine.Concurs machine' (f a) disk other) :
    machine.Concurs machine' (Attempt.granted answer refused >>= f) disk other := by
  cases answer with
  | ok a => exact hf a rfl
  | error fault => exact concurs_fail (refused fault)

theorem concurs_granted (answer : Except Fault α) (refused : Fault → Failure) :
    machine.Concurs machine' (Attempt.granted answer refused) disk other := by
  cases answer with
  | ok a => exact concurs_pure a
  | error fault => exact concurs_fail (refused fault)

end Machine

namespace Trial

/-- The places that a run looks at by itself: those of the directories above its dump, of the dump
and of the golden result. -/
def Files.ways (files : Files) (disk : Disk) : Set Place :=
  {place | (∃ directory, files.result.directory? = some directory ∧
      ∃ path ∈ Disk.lineage directory, place ∈ disk.way true path) ∨
    place ∈ disk.way false files.result ∨ place ∈ disk.way true files.expected}

/-- Two file systems look alike to a run but for its image. -/
def Alike (files : Files) (disk other : Disk) : Prop :=
  Disk.AgreeOn (files.ways disk) disk other

/-- In two worlds a simulator is launched on the same image. It can be started in both or in none,
and goes by the same habit. -/
structure SameSimulation (rig : Rig) (files : Files) (machine machine' : Machine)
    (launched launched' : Disk) : Prop where
  image : launched'.content? files.image = launched.content? files.image
  simulator : (∃ fault, machine.findProgram launched rig.simulator.program = .error fault ∧
      machine'.findProgram launched' rig.simulator.program = .error fault) ∨
    ∃ program program' habit, machine.findProgram launched rig.simulator.program = .ok program ∧
      machine'.findProgram launched' rig.simulator.program = .ok program' ∧
      program.Follows habit rig.simulator files.image files.result ∧
      program'.Follows habit rig.simulator files.image files.result

variable {rig : Rig} {files : Files} {machine machine' : Machine} {disk other : Disk}
  {places : Set Place} {result : Path}

theorem concurs_prepareDirectory (h : disk.AgreeOn places other) (role : Role) {path : Path}
    (hways : ∀ directory, path.directory? = some directory →
      ∀ above ∈ Disk.lineage directory, disk.way true above ⊆ places) :
    machine.Concurs machine' (Attempt.prepareDirectory role path) disk other := by
  unfold Attempt.prepareDirectory
  cases hdirectory : path.directory? with
  | none => exact Machine.concurs_pure ()
  | some directory =>
    obtain ⟨hsame, hstep⟩ := h.makeLineage (hways directory hdirectory)
    exact Machine.concurs_ask_bind hsame hstep (Machine.concurs_granted _ _)

theorem concurs_removeFile (h : disk.AgreeOn places other) (hway : disk.way false result ⊆ places) :
    (machine'.answer (.removeFile result) other).1 = (machine.answer (.removeFile result) disk).1 ∧
      Disk.InStep disk other (machine.answer (.removeFile result) disk).2
        (machine'.answer (.removeFile result) other).2 := by
  unfold Machine.answer
  rcases h.removeFile hway with
    ⟨fault, hremove, hremove'⟩ | ⟨rest, rest', hremove, hremove', hstep⟩ <;>
    simp only [hremove, hremove']
  · exact ⟨trivial, .refl disk other⟩
  · exact ⟨trivial, hstep⟩

theorem concurs_clear (h : disk.AgreeOn places other)
    (hways : ∀ directory, result.directory? = some directory →
      ∀ above ∈ Disk.lineage directory, disk.way true above ⊆ places)
    (hway : disk.way false result ⊆ places) :
    machine.Concurs machine' (Simulator.clear result) disk other := by
  have hprepare : machine.Concurs machine' (Attempt.prepareDirectory .actual result) disk other :=
    concurs_prepareDirectory h .actual hways
  refine hprepare.bind fun _ => ?_
  obtain ⟨hanswer, hstep⟩ := concurs_removeFile (hprepare.inStep.agreeOn h)
    (hprepare.inStep.way_subset.trans hway)
  refine Machine.concurs_ask_bind hanswer hstep ?_
  split
  · exact Machine.concurs_pure ()
  · exact Machine.concurs_pure ()
  · exact Machine.concurs_fail _

theorem concurs_ofFiles {rule : LengthRule} {actual expected : Path}
    (hdump : other.openFile actual = disk.openFile actual)
    (hread : ∀ place, disk.openFile actual = .ok place → other.stream place = disk.stream place)
    (hgolden : other.openFile expected = disk.openFile expected)
    (hexpected : ∀ place, disk.openFile expected = .ok place →
      other.stream place = disk.stream place) :
    machine.Concurs machine' (Comparison.ofFiles rule actual expected) disk other := by
  refine Machine.concurs_ask_bind hdump (.refl _ _)
    (Machine.concurs_granted_bind fun dump hok => ?_)
  refine Machine.concurs_ask_bind hgolden (.refl _ _)
    (Machine.concurs_granted_bind fun golden hok' => ?_)
  refine Machine.concurs_ask_bind (hexpected golden hok') (.refl _ _)
    (Machine.concurs_ask_bind (hread dump hok) (.refl _ _) ?_)
  split
  · exact Machine.concurs_pure _
  · exact Machine.concurs_fail _
  · exact Machine.concurs_fail _

/-- Where nothing is at a path, nothing is there in a file system that agrees, and a file would come
into being at the same place. -/
theorem free_agree (h : disk.AgreeOn places other) (hway : disk.way false result ⊆ places)
    (hroute : result.route = result.steps) (hfree : disk.Free result) :
    other.Free result ∧ other.site? result = disk.site? result ∧
      other.obstacle? (some result) = disk.obstacle? (some result) := by
  have hend : SameEnd (disk.resolveAlong false result result.steps)
      (other.resolveAlong false result result.steps) :=
    h.resolveAlong fun seen hseen => hway (hseen.mem_way false)
  have hsame : other.resolveAlong false result result.steps =
      disk.resolveAlong false result result.steps := by
    rcases hfree with hmissing | ⟨directory, name, hvacant⟩
    · rw [hmissing] at hend ⊢
      generalize other.resolveAlong false result result.steps = found at hend
      cases hend
      rfl
    · rw [hvacant] at hend ⊢
      generalize other.resolveAlong false result result.steps = found at hend
      cases hend
      rfl
  have hfree' : other.Free result := by
    unfold Disk.Free
    rw [hsame]
    exact hfree
  refine ⟨hfree', ?_, ?_⟩
  · unfold Disk.site?
    rw [hfree'.resolve_eq hroute, hfree.resolve_eq hroute, hsame]
  · simp only [Disk.obstacle?, Disk.createFile, hfree'.resolve_eq hroute,
      hfree.resolve_eq hroute, hsame]
    rcases hfree with hmissing | ⟨directory, name, hvacant⟩
    · rw [hmissing]
    · rw [hvacant]
      split_ifs <;> rfl

/-- Two launches leave the same dump and nothing else. -/
structure SameDump (result : Path) (launched launched' after after' : Disk) : Prop where
  free : launched.Free result
  free' : launched'.Free result
  site : launched'.site? result = launched.site? result
  varies : Disk.Varies {place | launched.site? result = some place} ∅ launched after
  varies' : Disk.Varies {place | launched'.site? result = some place} ∅ launched' after'
  dump : ∀ place, launched.site? result = some place →
    (after'.at? place).map Entry.plain = (after.at? place).map Entry.plain

variable {launched launched' after after' : Disk}

theorem SameDump.inStep (h : SameDump result launched launched' after after') :
    Disk.InStep launched launched' after after' := by
  refine ⟨h.varies.home, h.varies'.home, fun place => ?_, fun place target => h.varies.link⟩
  by_cases hplace : launched.site? result = some place
  · exact Or.inr (h.dump place hplace)
  · refine Or.inl ⟨h.varies.at?_eq hplace (Set.notMem_empty place),
      h.varies'.at?_eq (fun hplace' => hplace ?_) (Set.notMem_empty place)⟩
    exact h.site.symm.trans hplace'

theorem SameDump.opened (h : SameDump result launched launched' after after')
    (hroute : result.route = result.steps) :
    after'.openFile result = after.openFile result ∧
      ∀ place, after.openFile result = .ok place → after'.stream place = after.stream place := by
  rcases h.free.vary hroute h.varies with
    ⟨hstill, hnone⟩ | ⟨place, data, executable, hsite, -, hopen, hfile⟩
  · have hnone' : after'.Free result := by
      rcases h.free'.vary hroute h.varies' with
        ⟨hstill', -⟩ | ⟨place, data, executable, hsite', -, -, hfile'⟩
      · exact hstill'
      · have hsite := h.site.symm.trans hsite'
        have hsame := h.dump place hsite
        rw [hfile', hnone place hsite] at hsame
        contradiction
    rw [hnone'.openFile hroute, hstill.openFile hroute]
    exact ⟨rfl, fun place hok => by contradiction⟩
  · have hopen' : after'.openFile result = .ok place := by
      obtain ⟨executable', hfile'⟩ := exists_file_of_plain (h.dump place hsite) hfile
      rcases h.free'.vary hroute h.varies' with
        ⟨-, hnone'⟩ | ⟨place', _, _, hsite', -, hopen', -⟩
      · rw [hnone' place (h.site.trans hsite)] at hfile'
        contradiction
      · obtain rfl := Option.some.inj ((h.site.trans hsite).symm.trans hsite')
        exact hopen'
    rw [hopen, hopen']
    refine ⟨rfl, fun other hok => ?_⟩
    obtain rfl := Except.ok.inj hok
    exact Disk.stream_of_plain (h.dump place hsite)

/-- A simulator is refused in both of two worlds, or ends alike and leaves the same dump. -/
theorem launch_agree (hroute : files.result.route = files.result.steps)
    (hagree : launched.AgreeOn places launched') (hway : launched.way false files.result ⊆ places)
    (hfree : launched.Free files.result)
    (h : SameSimulation rig files machine machine' launched launched') :
    (∃ fault,
      machine.launch (rig.simulator.command files.image files.result) launched =
        (.error fault, launched) ∧
      machine'.launch (rig.simulator.command files.image files.result) launched' =
        (.error fault, launched')) ∨
    ∃ status diagnostics diagnostics' after after',
      machine.launch (rig.simulator.command files.image files.result) launched =
        (.ok ⟨status, diagnostics⟩, after) ∧
      machine'.launch (rig.simulator.command files.image files.result) launched' =
        (.ok ⟨status, diagnostics'⟩, after') ∧
      SameDump files.result launched launched' after after' := by
  obtain ⟨hfree', hsite, hobstacle⟩ := free_agree hagree hway hroute hfree
  unfold Machine.launch
  cases Machine.wordFault? (rig.simulator.command files.image files.result) with
  | some fault => exact Or.inl ⟨fault, rfl, rfl⟩
  | none =>
    rcases h.simulator with ⟨fault, hfind, hfind'⟩ |
      ⟨program, program', habit, hfind, hfind', hfollows, hfollows'⟩
    · exact Or.inl ⟨fault, by simp only [Simulator.command, hfind],
        by simp only [Simulator.command, hfind']⟩
    · simp only [Simulator.command, hfind, hfind', hfollows.ends, hfollows'.ends, h.image,
        hobstacle]
      refine Or.inr ⟨_, _, _, _, _, rfl, rfl, hfree, hfree', hsite, hfollows.confined launched,
        hfollows'.confined launched', fun place hplace => ?_⟩
      have hplace' := hsite.trans hplace
      rw [hfollows'.leaves launched' place hplace', hfollows.leaves launched place hplace, h.image,
        hobstacle, hfree.at?_of_site? hroute hplace, hfree'.at?_of_site? hroute hplace']

/-- The simulation of an image comes to the same in worlds that agree. -/
theorem concurs_simulate (hslash : files.result.endsInSlash = false)
    (hroute : files.result.route = files.result.steps) (hagree : disk.AgreeOn places other)
    (hways : files.ways disk ⊆ places)
    (hsim : ∀ launched launched',
      (rig.simulator.command files.image files.result, launched) ∈
        machine.launches (simulate rig files).job disk →
      (rig.simulator.command files.image files.result, launched') ∈
        machine'.launches (simulate rig files).job other →
      SameSimulation rig files machine machine' launched launched') :
    machine.Concurs machine' (simulate rig files) disk other := by
  have hresult : disk.way false files.result ⊆ places :=
    fun place hplace => hways (Or.inr (Or.inl hplace))
  have hexpected : disk.way true files.expected ⊆ places :=
    fun place hplace => hways (Or.inr (Or.inr hplace))
  have hclears : machine.Concurs machine' (Simulator.clear files.result) disk other :=
    concurs_clear hagree (fun directory hdirectory path hpath place hplace =>
      hways (Or.inl ⟨directory, hdirectory, path, hpath, hplace⟩)) hresult
  obtain ⟨hsame, hstep⟩ := hclears
  rcases hclear' : machine'.attempt (Simulator.clear files.result) other with ⟨result', cleared'⟩
  rcases attempt_clear machine hslash disk with
    ⟨cleared, hclear, hfree, -⟩ | ⟨path, fault, made, hclear, -⟩ <;>
    rw [hclear, hclear'] at hsame hstep
  · obtain rfl : result' = .ok () := hsame
    have hagree' := hstep.agreeOn hagree
    have hsimulates := hsim cleared cleared' (by rw [launches_simulate hclear]; simp)
      (by rw [launches_simulate hclear']; simp)
    rcases launch_agree hroute hagree' (hstep.way_subset.trans hresult) hfree hsimulates with
      ⟨fault, hlaunch, hlaunch'⟩ |
      ⟨status, diagnostics, diagnostics', after, after', hlaunch, hlaunch', hdump⟩
    · refine ⟨?_, ?_⟩ <;>
        rw [simulate_of_clear hclear, simulate_of_clear hclear', hlaunch, hlaunch']
      exact hstep
    · have hstep' := hstep.trans hdump.inStep
      obtain ⟨hopen, hread⟩ := hdump.opened hroute
      have hways' : after.way true files.expected ⊆ places := hstep'.way_subset.trans hexpected
      have hagree'' := hstep'.agreeOn hagree
      have hjudge : machine.Concurs machine'
          (Comparison.ofFiles rig.settings.lengthRule files.result files.expected) after after' :=
        concurs_ofFiles hopen hread (hagree''.openFile hways') fun _ => hagree''.stream hways'
      cases status with
      | none =>
        refine ⟨?_, ?_⟩ <;>
          rw [simulate_of_clear hclear, simulate_of_clear hclear', hlaunch, hlaunch']
        exact hstep'
      | some status =>
        refine ⟨?_, ?_⟩ <;>
          rw [simulate_of_clear hclear, simulate_of_clear hclear', hlaunch, hlaunch']
        · exact hjudge.result
        · exact hstep'.trans hjudge.inStep
  · obtain rfl : result' = .error (.cannotWrite .actual path fault) := hsame
    refine ⟨?_, ?_⟩ <;>
      rw [(simulate_of_error rig hclear).1, (simulate_of_error rig hclear').1]
    exact hstep

theorem Alike.inStep (h : Alike files disk other) (hstep : Disk.InStep disk other after after') :
    Alike files after after' := by
  refine (hstep.agreeOn h).mono ?_
  rintro place (⟨directory, hdirectory, path, hpath, hplace⟩ | hplace | hplace)
  · exact Or.inl ⟨directory, hdirectory, path, hpath, hstep.way_subset hplace⟩
  · exact Or.inr (Or.inl (hstep.way_subset hplace))
  · exact Or.inr (Or.inr (hstep.way_subset hplace))

theorem alike_of_varies {changed directories : Set Place}
    (h : Disk.Varies changed directories disk other)
    (hoff : ∀ place ∈ files.ways disk, place ∉ changed ∧ place ∉ directories) :
    Alike files disk other :=
  ⟨h.home, fun place hplace => by rw [h.at?_eq (hoff place hplace).1 (hoff place hplace).2]⟩

/-- A tool that goes by a custom simulates by habit. -/
theorem follows_of_goesBy {program : Program} {custom : Custom}
    (h : program.GoesBy custom (rig.simulating files)) :
    ∃ habit, program.Follows habit rig.simulator files.image files.result :=
  ⟨fun input obstacle => (some (custom (rig.simulating files).arguments input obstacle).status,
      (custom (rig.simulating files).arguments input obstacle).left),
    fun disk => (h disk).status, fun disk => (h disk).varies, fun disk => (h disk).written⟩

end Trial

end GoldenRun
