import GoldenRun.Proofs.Job.Launches

/-!
# Programs that end in another way

Twins are machines that differ in no more than how the program of one command ends, and what it
prints. They are compared where a job launches something, so the job decides what they have to have
in common. For every way to end, a machine has a twin on which the program ends in that way.
-/

namespace GoldenRun

/-- Two programs that have come to an end leave the same file system. -/
structure Outcome.SameEffect (outcome outcome' : Outcome) : Prop where
  ends : outcome.status ≠ none
  ends' : outcome'.status ≠ none
  disk : outcome'.disk = outcome.disk

variable {α : Type} {arguments : List String} {status : ExitStatus} {output diagnostics : Bytes}

/-- A program that does the same, but ends in a way of its own when it is given some arguments. -/
def Program.ending (program : Program) (arguments : List String) (status : ExitStatus)
    (output diagnostics : Bytes) : Program := fun given limit disk =>
  let outcome := program given limit disk
  if given = arguments then ⟨outcome.disk, output, diagnostics, some status⟩ else outcome

namespace Machine

/-- In some launches two machines do the same, but the program of a command may end in another way
and print something else. -/
structure Twins (machine : Machine) (command : Launch) (launches : List (Launch × Disk))
    (machine' : Machine) : Prop where
  others : ∀ launch ∈ launches, launch.1 ≠ command →
    machine'.launch launch.1 launch.2 = machine.launch launch.1 launch.2
  effect : ∀ disk, (command, disk) ∈ launches →
    (∃ fault, machine.findProgram disk command.program = .error fault ∧
      machine'.findProgram disk command.program = .error fault) ∨
    ∃ program program', machine.findProgram disk command.program = .ok program ∧
      machine'.findProgram disk command.program = .ok program' ∧
      (program command.arguments command.limit disk).SameEffect
        (program' command.arguments command.limit disk)

/-- The machine on which programs end in a way of their own when they are given some arguments. -/
def ending (machine : Machine) (arguments : List String) (status : ExitStatus)
    (output diagnostics : Bytes) : Machine where
  environment := machine.environment
  interpret data := (machine.interpret data).map (·.ending arguments status output diagnostics)

variable {machine machine' : Machine} {command : Launch} {launches : List (Launch × Disk)}
  {disk after : Disk}

theorem Twins.mono {launches' : List (Launch × Disk)} (h : machine.Twins command launches machine')
    (hpart : ∀ launch ∈ launches', launch ∈ launches) :
    machine.Twins command launches' machine' :=
  ⟨fun launch hmem => h.others launch (hpart launch hmem),
    fun disk hmem => h.effect disk (hpart _ hmem)⟩

/-- The program of a command that writes no open file comes to its end on both of two twins, in the
same state of the file system, or cannot be started on either. -/
theorem Twins.launch (h : machine.Twins command launches machine') (houtput : command.output = none)
    (hmem : (command, disk) ∈ launches) :
    machine'.launch command disk = machine.launch command disk ∨
    ∃ status diagnostics status' diagnostics' after,
      machine.launch command disk = (.ok ⟨some status, diagnostics⟩, after) ∧
      machine'.launch command disk = (.ok ⟨some status', diagnostics'⟩, after) := by
  unfold Machine.launch
  cases wordFault? command with
  | some fault => exact Or.inl rfl
  | none =>
    rcases h.effect disk hmem with ⟨fault, hfind, hfind'⟩ |
      ⟨program, program', hfind, hfind', hends, hends', hdisk⟩
    · simp only [hfind, hfind']
      exact Or.inl trivial
    · obtain ⟨status, hstatus⟩ := Option.ne_none_iff_exists'.mp hends
      obtain ⟨status', hstatus'⟩ := Option.ne_none_iff_exists'.mp hends'
      simp only [hfind, hfind', houtput, hstatus, hstatus', hdisk]
      exact Or.inr ⟨_, _, _, _, _, rfl, rfl⟩

theorem programAt_ending (disk : Disk) (path : Path) :
    (machine.ending arguments status output diagnostics).programAt disk path =
      (machine.programAt disk path).map (·.ending arguments status output diagnostics) := by
  unfold programAt
  split <;> rfl

theorem searchProgram_ending (disk : Disk) (name : String) (denied : Bool) (last : Fault)
    (directories : List Path) :
    (machine.ending arguments status output diagnostics).searchProgram disk name denied last
        directories =
      (machine.searchProgram disk name denied last directories).map
        (·.ending arguments status output diagnostics) := by
  induction directories generalizing denied last with
  | nil => rfl
  | cons directory rest ih =>
    unfold searchProgram
    rw [programAt_ending]
    cases machine.programAt disk
        (if directory = "" then name else directory ++ "/" ++ name) with
    | ok program => rfl
    | error fault =>
      cases fault with
      | denied => exact ih true .denied
      | missing => exact ih denied .missing
      | notADirectory => exact ih denied .notADirectory
      | _ => rfl

theorem findProgram_ending (disk : Disk) (path : Path) :
    (machine.ending arguments status output diagnostics).findProgram disk path =
      (machine.findProgram disk path).map (·.ending arguments status output diagnostics) := by
  unfold findProgram
  split_ifs
  · rfl
  · exact programAt_ending disk path
  · exact searchProgram_ending disk path false .missing _

theorem launch_ending_of_ne (h : command.arguments ≠ arguments) (disk : Disk) :
    (machine.ending arguments status output diagnostics).launch command disk =
      machine.launch command disk := by
  unfold Machine.launch
  rw [findProgram_ending]
  cases machine.findProgram disk command.program with
  | error fault => rfl
  | ok program => simp only [Except.map, Program.ending, if_neg h]

theorem launch_ending {finished : Finished} (houtput : command.output = none)
    (h : machine.launch command disk = (.ok finished, after)) :
    (machine.ending command.arguments status output diagnostics).launch command disk =
      (.ok ⟨some status, diagnostics⟩, after) := by
  unfold Machine.launch at h ⊢
  rw [findProgram_ending]
  cases hword : wordFault? command with
  | some fault => simp [hword] at h
  | none =>
    cases hfind : machine.findProgram disk command.program with
    | error fault => simp [hword, hfind] at h
    | ok program =>
      simp only [hword, hfind, houtput] at h
      simp only [Except.map, Program.ending, if_true, houtput]
      rw [← (Prod.mk.inj h).2]

/-- For every way to end there is a twin on which the program of a command ends in that way. -/
theorem twins_ending
    (hothers : ∀ launch ∈ launches, launch.1 ≠ command → launch.1.arguments ≠ command.arguments)
    (hends : ∀ disk, (command, disk) ∈ launches → ∀ program,
      machine.findProgram disk command.program = .ok program →
      (program command.arguments command.limit disk).status ≠ none) :
    machine.Twins command launches
      (machine.ending command.arguments status output diagnostics) := by
  refine ⟨fun launch hmem hne => launch_ending_of_ne (hothers launch hmem hne) _,
    fun disk hmem => ?_⟩
  rw [findProgram_ending]
  cases hfind : machine.findProgram disk command.program with
  | error fault => exact Or.inl ⟨fault, rfl, rfl⟩
  | ok program =>
    refine Or.inr ⟨program, _, rfl, rfl, hends disk hmem program hfind, ?_, ?_⟩
    · simp [Program.ending]
    · simp [Program.ending]

end Machine

end GoldenRun
