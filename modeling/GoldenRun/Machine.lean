import GoldenRun.Disk.Edit
import GoldenRun.Job

/-!
# The machine

A machine answers the requests of jobs on its file system. It knows the variables of the
environment and what the content of an executable file means as a program.
-/

namespace GoldenRun

/-- The variables that are set. -/
abbrev Environment := String → Option String

def Environment.nonempty? (environment : Environment) (name : String) : Option String :=
  (environment name).filter (· != "")

/-- What a run of a program leaves behind. The status is missing if the program was still running
at the end of its time. -/
structure Outcome where
  disk : Disk
  output : Bytes
  diagnostics : Bytes
  status : Option ExitStatus

/-- What a program does, given its arguments and how long it may run. -/
abbrev Program := List String → Option Duration → Disk → Outcome

/-- The surroundings of a job. -/
structure Machine where
  environment : Environment
  interpret : Bytes → Except Fault Program

namespace Machine

/-- How many bytes one argument may have. -/
def argumentLimit : Nat := 131071

/-- Where programs are searched if no search path is set. -/
def defaultSearchPath : String := "/bin:/usr/bin"

def programAt (machine : Machine) (disk : Disk) (path : Path) : Except Fault Program :=
  match disk.resolve true path with
  | .ok (.entry _ (.file data true)) => machine.interpret data
  | .ok (.entry _ _) => .error .denied
  | .ok (.vacant _ _) => .error .missing
  | .error fault => .error fault

/-- The first program of a name in the directories of a search path. A refusal for want of
permission is remembered until the end of the search; most other faults pass over a directory. -/
def searchProgram (machine : Machine) (disk : Disk) (name : String) (denied : Bool) (last : Fault) :
    List Path → Except Fault Program
  | [] => .error (if denied then .denied else last)
  | directory :: rest =>
    match machine.programAt disk (if directory = "" then name else directory ++ "/" ++ name) with
    | .ok program => .ok program
    | .error .denied => searchProgram machine disk name true .denied rest
    | .error .missing => searchProgram machine disk name denied .missing rest
    | .error .notADirectory => searchProgram machine disk name denied .notADirectory rest
    | .error fault => .error fault

/-- The program that a command names: by its path, or by a name without a slash that is searched
for. -/
def findProgram (machine : Machine) (disk : Disk) (command : Path) : Except Fault Program :=
  if command = "" then .error .missing
  else if '/' ∈ command.toList then machine.programAt disk command
  else
    searchProgram machine disk command false .missing
      (Path.ofSearchPath ((machine.environment "PATH").getD defaultSearchPath))

/-- The fault of a command whose words cannot be passed on. -/
def wordFault? (command : Launch) : Option Fault :=
  let words := command.program :: command.arguments
  if words.any ('\x00' ∈ ·.toList) then some .zeroInArgument
  else if words.any (·.utf8ByteSize > argumentLimit) then some .argumentsTooLong
  else none

def launch (machine : Machine) (command : Launch) (disk : Disk) : Except Fault Finished × Disk :=
  match wordFault? command with
  | some fault => (.error fault, disk)
  | none =>
    match machine.findProgram disk command.program with
    | .error fault => (.error fault, disk)
    | .ok program =>
      let outcome := program command.arguments command.limit disk
      let after :=
        match command.output with
        | some place => outcome.disk.store place outcome.output
        | none => outcome.disk
      (.ok ⟨outcome.status, outcome.diagnostics⟩, after)

/-- Answers a request. A file that is open takes whatever is written to it. -/
def answer (machine : Machine) : (request : Request) → Disk → request.Answer × Disk
  | .isFile path, disk => (disk.isFile path, disk)
  | .makeDirectories path, disk => disk.makeDirectories path
  | .openFile path, disk => (disk.openFile path, disk)
  | .createFile path, disk =>
    match disk.createFile path with
    | .ok (place, made) => (.ok place, made)
    | .error fault => (.error fault, disk)
  | .read place, disk => (disk.stream place, disk)
  | .write place data, disk => (.ok (), disk.store place data)
  | .removeFile path, disk =>
    match disk.removeFile path with
    | .ok rest => (.ok (), rest)
    | .error fault => (.error fault, disk)
  | .launch command, disk => machine.launch command disk

/-- Does a job from beginning to end, with nothing else going on. -/
def run {α : Type} (machine : Machine) : Job α → Disk → α × Disk
  | .done result, disk => (result, disk)
  | .ask request next, disk =>
    let step := machine.answer request disk
    run machine (next step.1) step.2

@[simp]
theorem run_done {α : Type} (machine : Machine) (result : α) (disk : Disk) :
    machine.run (.done result) disk = (result, disk) := rfl

@[simp]
theorem run_ask {α : Type} (machine : Machine) (r : Request) (next : r.Answer → Job α)
    (disk : Disk) :
    machine.run (.ask r next) disk =
      machine.run (next (machine.answer r disk).1) (machine.answer r disk).2 := rfl

theorem run_bind {α β : Type} (machine : Machine) (job : Job α) (f : α → Job β) (disk : Disk) :
    machine.run (job.bind f) disk =
      machine.run (f (machine.run job disk).1) (machine.run job disk).2 := by
  induction job generalizing disk with
  | done result => rfl
  | ask r next ih => simp [ih]

end Machine

end GoldenRun
