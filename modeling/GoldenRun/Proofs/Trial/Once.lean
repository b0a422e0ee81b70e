import GoldenRun.Proofs.Job.Dialogue
import GoldenRun.Proofs.Trial.Career

/-!
# The image is made once

A trial makes its image and runs, in any order and as often as one likes, and its requests may be
answered in any way. Until an attempt to make the image has succeeded, every operation makes one
from the beginning. From then on a run makes none, whatever fails: it launches the simulator and no
other tool.
-/

namespace GoldenRun.Trial

/-- An operation, with what it comes to. -/
def Operation.perform (rig : Rig) (trial : Trial) : Operation → Job (Event × Trial)
  | build => do
    let (result, next) ← trial.build rig
    pure (.built result, next)
  | run => do
    let (result, next) ← trial.run rig
    pure (.ran result, next)
  | check => do
    let (result, next) ← trial.check rig
    pure (.checked result, next)

/-- Operations one after the other, each with all that it has asked for and was answered, have
brought a trial from its start to what it is. -/
inductive Worked (rig : Rig) (start : Trial) : List (List Exchange) → Trial → Prop
  | start : Worked rig start [] start
  | performed {history trial exchanges event next} (operation : Operation) :
      Worked rig start history trial →
      (operation.perform rig trial).Dialogue exchanges (event, next) →
      Worked rig start (history ++ [exchanges]) next

/-- A dialogue begins with an attempt to make the image, which has come to a result. -/
def Attempts (rig : Rig) (files : Files) (exchanges : List Exchange)
    (result : Except Failure Image) : Prop :=
  ∃ head, head <+: exchanges ∧ (rig.toolchain.build files).job.Dialogue head result

/-- One of some operations has attempted to make the image, and has succeeded. -/
def HasMade (rig : Rig) (files : Files) (history : List (List Exchange)) : Prop :=
  ∃ exchanges ∈ history, ∃ image, Attempts rig files exchanges (.ok image)

/-- What a trial does about its image next, given what has been done before. -/
structure MakesOnce (rig : Rig) (trial : Trial) (history : List (List Exchange)) : Prop where
  /-- Once the image has been made, a run launches the simulator and nothing else. -/
  reuses : HasMade rig trial.files history → ∀ operation : Operation, operation ≠ .build →
    ∀ exchanges outcome, (operation.perform rig trial).Dialogue exchanges outcome →
      ∀ command ∈ launchedIn exchanges,
        command = trial.simulation rig ∧ ¬rig.toolchain.Uses trial.files command
  /-- An image that is asked for, or that is still to be made, is made from the beginning. -/
  attempts : ∀ operation : Operation, operation = .build ∨ ¬HasMade rig trial.files history →
    ∀ exchanges outcome, (operation.perform rig trial).Dialogue exchanges outcome →
      ∃ result, Attempts rig trial.files exchanges result

variable {rig : Rig} {start trial next : Trial} {history : List (List Exchange)} {files : Files}
  {exchanges : List Exchange} {operation : Operation} {event : Event}

theorem Attempts.unique {result result' : Except Failure Image}
    (h : Attempts rig files exchanges result) (h' : Attempts rig files exchanges result') :
    result = result' := by
  obtain ⟨head, hbegins, hmade⟩ := h
  obtain ⟨head', hbegins', hmade'⟩ := h'
  rcases List.prefix_or_prefix_of_prefix hbegins hbegins' with hle | hle
  · exact hmade.eq_of_prefix hmade' hle
  · exact (hmade'.eq_of_prefix hmade hle).symm

theorem Attempts.append {result : Except Failure Image} (h : Attempts rig files exchanges result)
    (rest : List Exchange) : Attempts rig files (exchanges ++ rest) result := by
  obtain ⟨head, hbegins, hmade⟩ := h
  exact ⟨head, hbegins.trans (List.prefix_append exchanges rest), hmade⟩

/-- What a dialogue comes to in which the image is attempted. -/
structure Tries (rig : Rig) (trial : Trial) (exchanges : List Exchange) (next : Trial) : Prop where
  files : next.files = trial.files
  attempts : ∃ result, Attempts rig trial.files exchanges result ∧
    (next.image = none ↔ trial.image = none ∧ ∀ image, result ≠ .ok image)

theorem tries_of_build {result : Except Failure Image}
    (h : (trial.build rig).Dialogue exchanges (result, next)) : Tries rig trial exchanges next := by
  unfold build at h
  rw [Job.bind_eq, Job.Dialogue.bind_iff] at h
  obtain ⟨first, second, made, rfl, hmade, hlast⟩ := h
  have hattempts : Attempts rig trial.files (first ++ second) made :=
    ⟨first, List.prefix_append first second, hmade⟩
  cases made with
  | ok image =>
    obtain ⟨-, hnext⟩ := Job.Dialogue.done_iff.mp hlast
    obtain ⟨-, rfl⟩ := Prod.mk.inj hnext
    exact ⟨rfl, _, hattempts, by simp⟩
  | error failure =>
    obtain ⟨-, hnext⟩ := Job.Dialogue.done_iff.mp hlast
    obtain ⟨-, rfl⟩ := Prod.mk.inj hnext
    exact ⟨rfl, _, hattempts, by simp⟩

theorem Tries.append (h : Tries rig trial exchanges next) (rest : List Exchange)
    (verdict : Verdict) :
    Tries rig trial (exchanges ++ rest) { next with verdict := verdict } := by
  obtain ⟨result, hattempts, himage⟩ := h.attempts
  exact ⟨h.files, result, hattempts.append rest, himage⟩

/-- A run makes an image if there is none on record, and simulates the one that is. -/
theorem run_dialogue {result : Except Failure Comparison}
    (h : (trial.run rig).Dialogue exchanges (result, next)) :
    trial.image = none ∧ Tries rig trial exchanges next ∨
    trial.image ≠ none ∧ next = { trial with verdict := verdictOf result } ∧
      (simulate rig trial.files).job.Dialogue exchanges result := by
  unfold run at h
  rw [Job.bind_eq, Job.Dialogue.bind_iff] at h
  obtain ⟨first, second, ⟨required, between⟩, rfl, hrequire, h⟩ := h
  unfold requireImage at hrequire
  rcases Option.eq_none_or_eq_some trial.image with himage | ⟨image, himage⟩ <;>
    rw [himage] at hrequire
  · have htries := tries_of_build hrequire
    refine Or.inl ⟨himage, ?_⟩
    cases required with
    | error failure =>
      obtain ⟨-, hnext⟩ := Job.Dialogue.done_iff.mp h
      obtain ⟨-, rfl⟩ := Prod.mk.inj hnext
      exact htries.append second .fail
    | ok image =>
      obtain ⟨judged, -, hlast⟩ := h.of_bind_done
        (fun judged => (judged, { between with verdict := verdictOf judged })) fun _ => rfl
      obtain ⟨-, rfl⟩ := Prod.mk.inj hlast
      exact htries.append second (verdictOf judged)
  · obtain ⟨rfl, hsame⟩ := Job.Dialogue.done_iff.mp hrequire
    obtain ⟨rfl, rfl⟩ := Prod.mk.inj hsame
    obtain ⟨judged, hsimulated, hlast⟩ := h.of_bind_done
      (fun judged => (judged, { between with verdict := verdictOf judged })) fun _ => rfl
    obtain ⟨rfl, rfl⟩ := Prod.mk.inj hlast
    exact Or.inr ⟨by simp [himage], rfl, hsimulated⟩

theorem Operation.perform_dialogue
    (h : (operation.perform rig trial).Dialogue exchanges (event, next)) :
    (operation = .build ∨ trial.image = none) ∧ Tries rig trial exchanges next ∨
    operation ≠ .build ∧ trial.image ≠ none ∧ next.image = trial.image ∧
      next.files = trial.files ∧
      ∃ result, (simulate rig trial.files).job.Dialogue exchanges result := by
  have hrun : ∀ {exchanges result next}, (trial.run rig).Dialogue exchanges (result, next) →
      trial.image = none ∧ Tries rig trial exchanges next ∨
      trial.image ≠ none ∧ next.image = trial.image ∧ next.files = trial.files ∧
        ∃ result, (simulate rig trial.files).job.Dialogue exchanges result := by
    intro exchanges result next h
    rcases run_dialogue h with htries | ⟨hrecord, rfl, hsimulated⟩
    · exact Or.inl htries
    · exact Or.inr ⟨hrecord, rfl, rfl, _, hsimulated⟩
  cases operation with
  | build =>
    obtain ⟨⟨result, built⟩, hbuild, hlast⟩ :=
      h.of_bind_done (fun (result, next) => (Event.built result, next)) fun _ => rfl
    obtain ⟨-, rfl⟩ := Prod.mk.inj hlast
    exact Or.inl ⟨Or.inl rfl, tries_of_build hbuild⟩
  | run =>
    obtain ⟨⟨result, judged⟩, hran, hlast⟩ :=
      h.of_bind_done (fun (result, next) => (Event.ran result, next)) fun _ => rfl
    obtain ⟨-, rfl⟩ := Prod.mk.inj hlast
    exact (hrun hran).imp (fun h => ⟨Or.inr h.1, h.2⟩) fun h => ⟨by simp, h⟩
  | check =>
    obtain ⟨⟨result, judged⟩, hchecked, hlast⟩ :=
      h.of_bind_done (fun (result, next) => (Event.checked result, next)) fun _ => rfl
    obtain ⟨-, rfl⟩ := Prod.mk.inj hlast
    obtain ⟨⟨comparison, judged⟩, hran, hlast⟩ := hchecked.of_bind_done
      (fun (result, next) => (result.map Comparison.passed, next)) fun _ => rfl
    obtain ⟨-, rfl⟩ := Prod.mk.inj hlast
    exact (hrun hran).imp (fun h => ⟨Or.inr h.1, h.2⟩) fun h => ⟨by simp, h⟩

theorem hasMade_append {history : List (List Exchange)} :
    HasMade rig files (history ++ [exchanges]) ↔
      HasMade rig files history ∨ ∃ image, Attempts rig files exchanges (.ok image) := by
  simp [HasMade, or_and_right, exists_or]

theorem Worked.record (h : Worked rig start history trial) (himage : start.image = none) :
    trial.files = start.files ∧ (trial.image = none ↔ ¬HasMade rig start.files history) := by
  induction h with
  | start => exact ⟨rfl, by simp [himage, HasMade]⟩
  | @performed history trial exchanges event next operation _ hperformed ih =>
    obtain ⟨hfiles, hrecord⟩ := ih
    rw [hasMade_append]
    rcases Operation.perform_dialogue hperformed with
      ⟨-, hnext, result, hattempts, hnone⟩ | ⟨-, hmade, hsame, hnext, -⟩
    · refine ⟨hnext.trans hfiles, ?_⟩
      rw [hfiles] at hattempts
      have hresult : (∃ image, Attempts rig start.files exchanges (.ok image)) ↔
          ∃ image, result = .ok image :=
        ⟨fun ⟨image, hok⟩ => ⟨image, hattempts.unique hok⟩,
          fun ⟨image, hok⟩ => ⟨image, hok ▸ hattempts⟩⟩
      rw [hnone, hrecord, hresult]
      simp
    · refine ⟨hnext.trans hfiles, ?_⟩
      rw [hsame]
      have hbefore := not_not.mp (hrecord.not.mp hmade)
      exact iff_of_false hmade (not_not_intro (Or.inl hbefore))

theorem launching_simulate (rig : Rig) (files : Files) :
    (simulate rig files).Keeps (launching (· = rig.simulator.command files.image files.result))
      (fun _ _ => True) () := by
  obtain ⟨command, hcommand⟩ : ∃ command, command =
      rig.simulator.command files.image files.result := ⟨_, rfl⟩
  have hclear : (Simulator.clear files.result).Keeps (launching (· = command))
      (fun _ _ => True) () :=
    (Simulator.launching_clear files.result).launching_mono fun _ hfalse => hfalse.elim
  have hlaunch : (Attempt.launch .simulator command).Keeps (launching (· = command))
      (fun _ _ => True) () := Attempt.launching_launch (by rfl) _
  have hjudge : (Comparison.ofFiles rig.settings.lengthRule files.result files.expected).Keeps
      (launching (· = command)) (fun _ _ => True) () :=
    (Comparison.launching_ofFiles _ _ _).launching_mono fun _ hfalse => hfalse.elim
  have hinvoke : (rig.simulator.invoke files.image files.result).Keeps (launching (· = command))
      (fun _ _ => True) () := by
    unfold Simulator.invoke
    rw [← hcommand]
    exact Attempt.keeps_bind hclear fun _ _ _ _ => Attempt.keeps_bind hlaunch fun _ _ _ _ =>
      Attempt.keeps_pure trivial
  rw [← hcommand]
  exact Attempt.keeps_bind hinvoke fun _ _ _ _ => hjudge

theorem Worked.makesOnce (h : Worked rig start history trial) (himage : start.image = none) :
    MakesOnce rig trial history := by
  obtain ⟨hfiles, hrecord⟩ := h.record himage
  rw [← hfiles] at hrecord
  refine ⟨fun hmade operation hrun exchanges ⟨event, next⟩ hperformed command hmem => ?_,
    fun operation hmust exchanges ⟨event, next⟩ hperformed => ?_⟩
  · rcases Operation.perform_dialogue hperformed with
      ⟨hbuild | hnone, -⟩ | ⟨-, -, -, -, result, hsimulated⟩
    · exact absurd hbuild hrun
    · exact absurd hmade (hrecord.mp hnone)
    · have hlaunched := (launching_simulate rig trial.files).dialogue hsimulated command hmem
      rw [hlaunched]
      exact ⟨rfl, rig.toolchain.not_uses_simulation trial.files rig.simulator⟩
  · rcases Operation.perform_dialogue hperformed with
      ⟨-, -, result, hattempts, -⟩ | ⟨hrun, hmade, -⟩
    · exact ⟨result, hattempts⟩
    · rcases hmust with hbuild | hnone
      · exact absurd hbuild hrun
      · exact absurd (hrecord.mpr hnone) hmade

end GoldenRun.Trial
