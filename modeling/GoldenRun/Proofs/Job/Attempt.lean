import GoldenRun.Machine
import GoldenRun.Image

/-!
# Attempts on a machine

What an attempt comes to when it is made from beginning to end: its steps are taken in turn, and the
first failure ends it and leaves the file system as it is.
-/

namespace GoldenRun

namespace Job

variable {α β : Type}

theorem pure_eq (result : α) : (pure result : Job α) = done result := rfl

theorem bind_eq (job : Job α) (f : α → Job β) : job >>= f = job.bind f := rfl

end Job

namespace Attempt

variable {α β : Type}

theorem job_ask (r : Request) : (ask r).job = .ask r fun answer => .done (.ok answer) := rfl

/-- What follows on an attempt: the next one, unless it has failed. -/
def goOn (f : α → Attempt β) : Except Failure α → Job (Except Failure β)
  | .ok a => (f a).job
  | .error failure => .done (.error failure)

theorem job_bind (x : Attempt α) (f : α → Attempt β) : (x >>= f).job = x.job.bind (goOn f) := by
  change Job.bind x.job _ = _
  congr 1
  funext result
  cases result <;> rfl

end Attempt

namespace Machine

variable {α β : Type} {machine : Machine} {disk after : Disk}

def attempt (machine : Machine) (x : Attempt α) (disk : Disk) : Except Failure α × Disk :=
  machine.run x.job disk

@[simp]
theorem attempt_pure (a : α) : machine.attempt (pure a) disk = (.ok a, disk) := rfl

@[simp]
theorem attempt_fail (failure : Failure) :
    machine.attempt (Attempt.fail failure : Attempt α) disk = (.error failure, disk) := rfl

@[simp]
theorem attempt_granted_ok (a : α) (refused : Fault → Failure) :
    machine.attempt (Attempt.granted (.ok a) refused) disk = (.ok a, disk) := rfl

@[simp]
theorem attempt_granted_error (fault : Fault) (refused : Fault → Failure) :
    machine.attempt (Attempt.granted (.error fault : Except Fault α) refused) disk =
      (.error (refused fault), disk) := rfl

theorem attempt_bind_ok {x : Attempt α} {f : α → Attempt β} {a : α}
    (h : machine.attempt x disk = (.ok a, after)) :
    machine.attempt (x >>= f) disk = machine.attempt (f a) after := by
  unfold attempt at h ⊢
  rw [Attempt.job_bind, run_bind, h]
  rfl

theorem attempt_bind_error {x : Attempt α} {f : α → Attempt β} {failure : Failure}
    (h : machine.attempt x disk = (.error failure, after)) :
    machine.attempt (x >>= f) disk = (.error failure, after) := by
  unfold attempt at h ⊢
  rw [Attempt.job_bind, run_bind, h]
  rfl

theorem attempt_ask_bind (r : Request) (f : r.Answer → Attempt β) :
    machine.attempt (Attempt.ask r >>= f) disk =
      machine.attempt (f (machine.answer r disk).1) (machine.answer r disk).2 :=
  attempt_bind_ok rfl

end Machine

end GoldenRun
