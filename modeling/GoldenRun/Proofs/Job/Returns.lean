import GoldenRun.Proofs.Job.Attempt
import GoldenRun.Proofs.Job.Course

/-!
# What jobs return

The results of a job have a property if every course of the job ends with such a result, whatever
the job is answered on its way. So have the failures of an attempt, if those of its parts do.
-/

namespace GoldenRun

variable {α β : Type} {kind : α → Prop} {kind' : β → Prop}

/-- All results of a job have a property, whatever it is answered. -/
inductive Job.Returns (kind : α → Prop) : Job α → Prop
  | done {result} : kind result → Returns kind (.done result)
  | ask {r next} : (∀ answer, Returns kind (next answer)) → Returns kind (.ask r next)

namespace Job.Returns

variable {job : Job α} {f : α → Job β}

theorem trivial (job : Job α) : job.Returns fun _ => True := by
  induction job with
  | done result => exact .done True.intro
  | ask r next ih => exact .ask ih

/-- What the first of two jobs returns is all that has to be known for the second. -/
theorem bind (h : job.Returns kind) (hf : ∀ a, kind a → (f a).Returns kind') :
    (job.bind f).Returns kind' := by
  induction h with
  | done hresult => exact hf _ hresult
  | ask _ ih => exact .ask ih

theorem course (h : job.Returns kind) {requests : List Request} {result : α}
    (hcourse : job.Course requests result) : kind result := by
  induction hcourse with
  | done =>
    obtain ⟨hresult⟩ := h
    exact hresult
  | ask answer _ ih =>
    obtain _ | ⟨hnext⟩ := h
    exact ih (hnext answer)

theorem run (h : job.Returns kind) (machine : Machine) (disk : Disk) :
    kind (machine.run job disk).1 := by
  obtain ⟨requests, hcourse⟩ := Course.of_run machine job disk
  exact h.course hcourse

end Job.Returns

namespace Attempt

variable {sort : Failure → Prop} {x : Attempt α} {f : α → Attempt β}

/-- All failures of an attempt have a property. -/
def FailsOnly (sort : Failure → Prop) (x : Attempt α) : Prop :=
  x.job.Returns fun result => ∀ failure, result = .error failure → sort failure

theorem failsOnly_pure {a : α} : (pure a : Attempt α).FailsOnly sort :=
  Job.Returns.done fun _ heq => by contradiction

theorem failsOnly_fail {failure : Failure} (h : sort failure) :
    (fail failure : Attempt α).FailsOnly sort :=
  Job.Returns.done fun _ heq => Except.error.inj heq ▸ h

theorem FailsOnly.bind (h : x.FailsOnly sort) (hf : ∀ a, (f a).FailsOnly sort) :
    (x >>= f).FailsOnly sort := by
  unfold FailsOnly
  rw [job_bind]
  apply Job.Returns.bind h
  intro result hresult
  cases result with
  | ok a => exact hf a
  | error failure => exact failsOnly_fail (hresult failure rfl)

theorem failsOnly_ask_bind {r : Request} {f : r.Answer → Attempt β}
    (h : ∀ answer, (f answer).FailsOnly sort) : (ask r >>= f).FailsOnly sort := by
  unfold FailsOnly
  rw [job_bind, job_ask]
  exact Job.Returns.ask h

theorem failsOnly_granted {answer : Except Fault α} {refused : Fault → Failure}
    (h : ∀ fault, sort (refused fault)) : (granted answer refused).FailsOnly sort := by
  cases answer with
  | ok a => exact failsOnly_pure
  | error fault => exact failsOnly_fail (h fault)

theorem failsOnly_granted_bind {answer : Except Fault α} {refused : Fault → Failure}
    (h : ∀ fault, sort (refused fault)) (hf : ∀ a, (f a).FailsOnly sort) :
    (granted answer refused >>= f).FailsOnly sort :=
  (failsOnly_granted h).bind hf

end Attempt

end GoldenRun
