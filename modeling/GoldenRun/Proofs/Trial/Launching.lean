import GoldenRun.Proofs.Job.Launches
import GoldenRun.Trial.Basic

/-!
# What a test launches

Making an image launches the assembler and the disassembler, each with its own words. A run launches
the simulator besides, once at most, after an old dump was removed and before the new one is judged.
-/

namespace GoldenRun

variable {allowed : Launch → Prop}

namespace Attempt

theorem launching_ask_bind {α : Type} {fits : Unit → α → Prop} {r : Request}
    {f : r.Answer → Attempt α} (hr : r.launched? = none)
    (h : ∀ answer, (f answer).Keeps (launching allowed) fits ()) :
    (ask r >>= f).Keeps (launching allowed) fits () := by
  refine keeps_ask_bind ?_ fun answer _ => h answer
  rintro command rfl
  simp [Request.launched?] at hr

theorem launching_prepareDirectory (role : Role) (path : Path) :
    (prepareDirectory role path).Keeps (launching allowed) (fun _ _ => True) () := by
  unfold prepareDirectory
  split
  · exact keeps_pure trivial
  · refine launching_ask_bind rfl fun answer => ?_
    exact keeps_granted fun _ _ => trivial

theorem launching_launch {command : Launch} (h : allowed command) (tool : Tool) :
    (launch tool command).Keeps (launching allowed) (fun _ _ => True) () := by
  refine keeps_ask_bind ?_ fun answer _ => keeps_granted_bind fun finished _ => ?_
  · rintro _ ⟨⟩
    exact h
  · cases finished.status with
    | some status => exact keeps_pure trivial
    | none => exact keeps_fail _

theorem launching_launchChecked {command : Launch} (h : allowed command) (tool : Tool) :
    (launchChecked tool command).Keeps (launching allowed) (fun _ _ => True) () := by
  refine keeps_bind (launching_launch h tool) fun _ finished _ _ => ?_
  obtain ⟨status, diagnostics⟩ := finished
  by_cases hsuccess : status.isSuccess = true
  · simp only [hsuccess, if_true]
    exact keeps_pure trivial
  · simp only [hsuccess]
    exact keeps_fail _

end Attempt

open Attempt

theorem Image.launching_extract (listing image : Path) :
    (extract listing image).Keeps (launching allowed) (fun _ _ => True) () := by
  refine launching_ask_bind rfl fun _ => keeps_granted_bind fun input _ =>
    keeps_bind (launching_prepareDirectory _ _) fun _ _ _ _ =>
    launching_ask_bind rfl fun _ => keeps_granted_bind fun output _ =>
    launching_ask_bind rfl fun stream => launching_ask_bind rfl fun written => ?_
  split
  · exact keeps_fail _
  · split_ifs
    · exact keeps_fail _
    · exact keeps_granted_bind fun _ _ => keeps_pure trivial

/-- The commands of the tools that an image is made with. -/
def Toolchain.Uses (tools : Toolchain) (files : Trial.Files) (command : Launch) : Prop :=
  command = tools.assembleCommand files.source files.object ∨
    ∃ output, command = tools.disassembleCommand files.object output

theorem Toolchain.launching_build (tools : Toolchain) (files : Trial.Files) :
    (tools.build files).Keeps (launching (tools.Uses files)) (fun _ _ => True) () := by
  have hassemble : (tools.assemble files.source files.object).Keeps
      (launching (tools.Uses files)) (fun _ _ => True) () := by
    refine launching_ask_bind rfl fun found => ?_
    cases found with
    | false => exact keeps_fail _
    | true =>
      exact keeps_bind (launching_prepareDirectory _ _) fun _ _ _ _ =>
        launching_launchChecked (Or.inl rfl) _
  have hdisassemble : (tools.disassemble files.object files.listing).Keeps
      (launching (tools.Uses files)) (fun _ _ => True) () := by
    refine keeps_bind (launching_prepareDirectory _ _) fun _ _ _ _ =>
      launching_ask_bind rfl fun answer => keeps_granted_bind fun output _ => ?_
    exact launching_launchChecked (Or.inr ⟨output, rfl⟩) _
  refine keeps_bind hassemble fun _ _ _ _ => keeps_bind hdisassemble fun _ _ _ _ =>
    keeps_bind (Image.launching_extract _ _) fun _ _ _ _ => ?_
  exact keeps_pure trivial

theorem Comparison.launching_ofFiles (rule : LengthRule) (actual expected : Path) :
    (ofFiles rule actual expected).Keeps (launching fun _ => False) (fun _ _ => True) () := by
  refine launching_ask_bind rfl fun _ => keeps_granted_bind fun dump _ =>
    launching_ask_bind rfl fun _ => keeps_granted_bind fun golden _ =>
    launching_ask_bind rfl fun goldenStream => launching_ask_bind rfl fun dumpStream => ?_
  split
  · exact keeps_pure trivial
  · exact keeps_fail _
  · exact keeps_fail _

theorem Simulator.launching_clear (result : Path) :
    (clear result).Keeps (launching fun _ => False) (fun _ _ => True) () := by
  refine keeps_bind (launching_prepareDirectory _ _) fun _ _ _ _ =>
    launching_ask_bind rfl fun answer => ?_
  split
  · exact keeps_pure trivial
  · exact keeps_pure trivial
  · exact keeps_fail _

/-- The simulator is not given the arguments of a tool that an image is made with. -/
theorem Toolchain.Uses.arguments_ne {tools : Toolchain} {files : Trial.Files} {command : Launch}
    (h : tools.Uses files command) (simulator : Simulator) :
    command.arguments ≠ simulator.arguments files.image files.result := by
  intro hsame
  rcases h with rfl | ⟨output, rfl⟩
  · have hword : some ("-mabi=" ++ tools.convention) = some "--dump-to" :=
      congrArg (·[1]?) hsame
    have hchars := congrArg String.toList (Option.some.inj hword)
    simp at hchars
  · have hword := congrArg (·[2]?) hsame
    simp [Simulator.arguments, disassembleCommand] at hword

theorem Toolchain.not_uses_simulation (tools : Toolchain) (files : Trial.Files)
    (simulator : Simulator) : ¬tools.Uses files (simulator.command files.image files.result) :=
  fun h => h.arguments_ne simulator rfl

theorem Attempt.launches_launch (machine : Machine) (tool : Tool) (command : Launch) (disk : Disk) :
    machine.launches (Attempt.launch tool command).job disk = [(command, disk)] := by
  refine Job.Keeps.launches_launch_bind fun answer => keeps_granted_bind fun finished _ => ?_
  cases finished.status with
  | some status => exact keeps_pure trivial
  | none => exact keeps_fail _

variable {machine : Machine} {disk cleared ready : Disk} {failure : Failure}

theorem Machine.attempt_launch_eq (machine : Machine) (tool : Tool) (command : Launch)
    (disk : Disk) :
    machine.attempt (Attempt.launch tool command) disk =
      match machine.launch command disk with
      | (.error fault, after) => (.error (.cannotLaunch tool command.program fault), after)
      | (.ok ⟨some status, diagnostics⟩, after) => (.ok (status, diagnostics), after)
      | (.ok ⟨none, _⟩, after) =>
        (.error (.timedOut tool (command.limit.getD (.ofSeconds 0))), after) := by
  have hanswer : machine.answer (.launch command) disk = machine.launch command disk := rfl
  unfold Attempt.launch
  rw [attempt_ask_bind, hanswer]
  rcases machine.launch command disk with ⟨fault | ⟨_ | status, diagnostics⟩, after⟩
  · exact attempt_bind_error (attempt_granted_error _ _)
  · exact attempt_bind_ok (attempt_granted_ok _ _)
  · exact attempt_bind_ok (attempt_granted_ok _ _)

namespace Trial

variable {rig : Rig} {files : Files} {trial next : Trial}

theorem simulate_of_error (rig : Rig) (h : machine.attempt (Simulator.clear files.result) disk =
      (.error failure, cleared)) :
    machine.attempt (simulate rig files) disk = (.error failure, cleared) ∧
      machine.launches (simulate rig files).job disk = [] := by
  have hquiet := (Simulator.launching_clear files.result).launches_eq_nil machine disk
  have hinvoke : machine.attempt (rig.simulator.invoke files.image files.result) disk =
      (.error failure, cleared) := Machine.attempt_bind_error h
  refine ⟨Machine.attempt_bind_error hinvoke, ?_⟩
  exact (Machine.launches_bind_error hinvoke).trans ((Machine.launches_bind_error h).trans hquiet)

theorem launches_simulate (h : machine.attempt (Simulator.clear files.result) disk =
      (.ok (), cleared)) :
    machine.launches (simulate rig files).job disk =
      [(rig.simulator.command files.image files.result, cleared)] := by
  have hquiet := (Simulator.launching_clear files.result).launches_eq_nil machine disk
  have hone := Attempt.launches_launch machine .simulator
    (rig.simulator.command files.image files.result) cleared
  have hinvoke : machine.launches (rig.simulator.invoke files.image files.result).job disk =
      [(rig.simulator.command files.image files.result, cleared)] := by
    unfold Simulator.invoke
    rw [Machine.launches_bind_ok h, hquiet, List.nil_append]
    rcases hlaunch : machine.attempt (Attempt.launch .simulator
      (rig.simulator.command files.image files.result)) cleared with ⟨failure | ended, after⟩
    · exact (Machine.launches_bind_error hlaunch).trans hone
    · rw [Machine.launches_bind_ok hlaunch, hone]
      rfl
  unfold simulate
  rcases hresult : machine.attempt (rig.simulator.invoke files.image files.result) disk with
    ⟨failure | ended, after⟩
  · exact (Machine.launches_bind_error hresult).trans hinvoke
  · have hjudge := (Comparison.launching_ofFiles rig.settings.lengthRule files.result
      files.expected).launches_eq_nil machine after
    rw [Machine.launches_bind_ok hresult, hinvoke, hjudge]
    rfl

theorem of_mem_launches_simulate {launch : Launch × Disk}
    (h : launch ∈ machine.launches (simulate rig files).job disk) :
    launch.1 = rig.simulator.command files.image files.result ∧
      machine.attempt (Simulator.clear files.result) disk = (.ok (), launch.2) := by
  rcases hclear : machine.attempt (Simulator.clear files.result) disk with
    ⟨failure | ended, cleared⟩
  · rw [(simulate_of_error rig hclear).2] at h
    contradiction
  · rw [launches_simulate hclear] at h
    obtain rfl := List.mem_singleton.mp h
    exact ⟨rfl, rfl⟩

/-- If the simulator comes to an end in time, its dump is judged. -/
theorem simulate_of_clear (h : machine.attempt (Simulator.clear files.result) disk =
      (.ok (), cleared)) :
    machine.attempt (simulate rig files) disk =
      match machine.launch (rig.simulator.command files.image files.result) cleared with
      | (.error fault, after) =>
        (.error (.cannotLaunch .simulator rig.simulator.program fault), after)
      | (.ok ⟨some _, _⟩, after) => machine.attempt
          (Comparison.ofFiles rig.settings.lengthRule files.result files.expected) after
      | (.ok ⟨none, _⟩, after) =>
        (.error (.timedOut .simulator (rig.simulator.limit.getD (.ofSeconds 0))), after) := by
  have hinvoke : machine.attempt (rig.simulator.invoke files.image files.result) disk =
      machine.attempt (do
        let _ ← Attempt.launch .simulator (rig.simulator.command files.image files.result)
        pure ()) cleared := Machine.attempt_bind_ok h
  have hlaunch := machine.attempt_launch_eq .simulator
    (rig.simulator.command files.image files.result) cleared
  unfold simulate
  rcases hanswer : machine.launch (rig.simulator.command files.image files.result) cleared with
    ⟨fault | ⟨_ | status, diagnostics⟩, after⟩ <;> rw [hanswer] at hlaunch
  · exact Machine.attempt_bind_error (hinvoke.trans (Machine.attempt_bind_error hlaunch))
  · exact Machine.attempt_bind_error (hinvoke.trans (Machine.attempt_bind_error hlaunch))
  · exact Machine.attempt_bind_ok (hinvoke.trans (Machine.attempt_bind_ok hlaunch))

theorem run_of_error (h : machine.run (trial.requireImage rig) disk =
      ((.error failure, next), ready)) :
    machine.run (trial.run rig) disk = ((.error failure, { next with verdict := .fail }), ready) ∧
      machine.launches (trial.run rig) disk = machine.launches (trial.requireImage rig) disk := by
  unfold run
  rw [Job.bind_eq, Machine.run_bind, Machine.launches_bind, h]
  exact ⟨rfl, List.append_nil _⟩

theorem run_of_image {image : Image} (h : machine.run (trial.requireImage rig) disk =
      ((.ok image, next), ready)) :
    machine.run (trial.run rig) disk =
      (((machine.attempt (simulate rig next.files) ready).1,
        { next with verdict := verdictOf (machine.attempt (simulate rig next.files) ready).1 }),
        (machine.attempt (simulate rig next.files) ready).2) ∧
      machine.launches (trial.run rig) disk = machine.launches (trial.requireImage rig) disk ++
        machine.launches (simulate rig next.files).job ready := by
  unfold run
  rw [Job.bind_eq, Machine.run_bind, Machine.launches_bind, h]
  simp only [Job.bind_eq, Machine.run_bind, Machine.launches_bind]
  exact ⟨rfl, congrArg _ (List.append_nil _)⟩

theorem launching_requireImage (rig : Rig) (trial : Trial) :
    (trial.requireImage rig).Keeps (launching (rig.toolchain.Uses trial.files))
      (fun _ _ => True) () := by
  unfold requireImage
  split
  · exact .done trivial
  · refine Job.Keeps.bind (rig.toolchain.launching_build trial.files) fun _ result _ _ => ?_
    cases result <;> exact .done trivial

theorem not_launched_by_requireImage (machine : Machine) (rig : Rig) (trial : Trial) (disk : Disk) :
    ∀ launch ∈ machine.launches (trial.requireImage rig) disk,
      launch.1 ≠ rig.simulator.command trial.files.image trial.files.result := by
  intro launch hmem heq
  have huses := (launching_requireImage rig trial).launches machine disk launch hmem
  rw [heq] at huses
  exact rig.toolchain.not_uses_simulation trial.files rig.simulator huses

end Trial

end GoldenRun
