import GoldenRun.Disk.Basic
import GoldenRun.Duration
import GoldenRun.ExitStatus
import GoldenRun.Failure

/-!
# Jobs

A job asks its surroundings for one thing after another: to look at a file, to write one, to
launch a program. What it asks for next may depend on all answers so far. Each request is a single
step; between two of them other jobs may take theirs.
-/

namespace GoldenRun

/-- A program to be launched: its path, its arguments, the open file that receives its output if
there is one, and how long it may run. -/
structure Launch where
  program : Path
  arguments : List String
  output : Option Place
  limit : Option Duration
  deriving DecidableEq

/-- What is known of a program that was launched. The status is missing if the program was still
running at the end of its time, and was killed. -/
structure Finished where
  status : Option ExitStatus
  diagnostics : Bytes
  deriving DecidableEq

/-- What a job may ask for in one step. -/
inductive Request
  | isFile (path : Path)
  | makeDirectories (path : Path)
  | openFile (path : Path)
  | createFile (path : Path)
  | read (place : Place)
  | write (place : Place) (data : Bytes)
  | removeFile (path : Path)
  | launch (command : Launch)
  deriving DecidableEq

@[reducible]
def Request.Answer : Request → Type
  | isFile _ => Bool
  | makeDirectories _ => Except Fault Unit
  | openFile _ => Except Fault Place
  | createFile _ => Except Fault Place
  | read _ => Stream
  | write _ _ => Except Fault Unit
  | removeFile _ => Except Fault Unit
  | launch _ => Except Fault Finished

/-- A row of requests that depends on their answers and ends with a result. -/
inductive Job (α : Type) : Type
  | done (result : α)
  | ask (request : Request) (next : request.Answer → Job α)

namespace Job

variable {α β : Type}

def bind : Job α → (α → Job β) → Job β
  | done result, f => f result
  | ask request next, f => ask request fun answer => (next answer).bind f

instance : Monad Job where
  pure := done
  bind := bind

def request (r : Request) : Job r.Answer :=
  ask r done

@[simp]
theorem done_bind (result : α) (f : α → Job β) : (done result).bind f = f result := rfl

@[simp]
theorem ask_bind (r : Request) (next : r.Answer → Job α) (f : α → Job β) :
    (ask r next).bind f = ask r fun answer => (next answer).bind f := rfl

theorem bind_done (job : Job α) : job.bind done = job := by
  induction job with
  | done result => rfl
  | ask r next ih => simp [ih]

end Job

abbrev Attempt := ExceptT Failure Job

namespace Attempt

variable {α : Type}

def job (attempt : Attempt α) : Job (Except Failure α) :=
  attempt.run

def fail (failure : Failure) : Attempt α :=
  throw failure

/-- Asks for something that is always granted. -/
def ask (r : Request) : Attempt r.Answer :=
  ExceptT.lift (Job.request r)

/-- Goes on with a granted answer; a refusal becomes a failure. -/
def granted (answer : Except Fault α) (refused : Fault → Failure) : Attempt α :=
  match answer with
  | .ok a => pure a
  | .error fault => fail (refused fault)

end Attempt

end GoldenRun
