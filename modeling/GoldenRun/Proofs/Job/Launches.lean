import GoldenRun.Proofs.Job.Contract

/-!
# What a job launches

The programs that a job launches on a machine, each with the state of the file system it is launched
in. Machines that agree on these launches do the job alike.
-/

namespace GoldenRun

variable {α β : Type}

def Request.launched? : Request → Option Launch
  | launch command => some command
  | _ => none

namespace Machine

/-- The commands that a job launches, and the states of the file system in which it does so. -/
def launches (machine : Machine) : Job α → Disk → List (Launch × Disk)
  | .done _, _ => []
  | .ask r next, disk =>
    (r.launched?.map (·, disk)).toList
      ++ launches machine (next (machine.answer r disk).1) (machine.answer r disk).2

variable (machine : Machine)

@[simp]
theorem launches_done (result : α) (disk : Disk) :
    machine.launches (.done result) disk = [] := rfl

theorem launches_ask (r : Request) (next : r.Answer → Job α) (disk : Disk) :
    machine.launches (.ask r next) disk = (r.launched?.map (·, disk)).toList
      ++ machine.launches (next (machine.answer r disk).1) (machine.answer r disk).2 := rfl

theorem launches_bind (job : Job α) (f : α → Job β) (disk : Disk) :
    machine.launches (job.bind f) disk = machine.launches job disk
      ++ machine.launches (f (machine.run job disk).1) (machine.run job disk).2 := by
  induction job generalizing disk with
  | done result => rfl
  | ask r next ih =>
    rw [Job.ask_bind, launches_ask, launches_ask, run_ask, ih, List.append_assoc]

/-- Machines that do alike whatever a job launches on one of them do the job alike. -/
theorem run_congr {machine machine' : Machine} {job : Job α} {disk : Disk}
    (h : ∀ launch ∈ machine.launches job disk,
      machine'.launch launch.1 launch.2 = machine.launch launch.1 launch.2) :
    machine'.run job disk = machine.run job disk := by
  induction job generalizing disk with
  | done result => rfl
  | ask r next ih =>
    rw [launches_ask] at h
    have hanswer : machine'.answer r disk = machine.answer r disk := by
      cases r with
      | launch command =>
        exact h (command, disk) (List.mem_append_left _ List.mem_cons_self)
      | _ => rfl
    rw [run_ask, run_ask, hanswer]
    exact ih _ fun launch hmem => h launch (List.mem_append_right _ hmem)

variable {machine} {x : Attempt α} {f : α → Attempt β} {disk after : Disk}

theorem launches_bind_ok {a : α} (h : machine.attempt x disk = (.ok a, after)) :
    machine.launches (x >>= f).job disk =
      machine.launches x.job disk ++ machine.launches (f a).job after := by
  unfold attempt at h
  rw [Attempt.job_bind, launches_bind, h]
  rfl

theorem launches_bind_error {failure : Failure}
    (h : machine.attempt x disk = (.error failure, after)) :
    machine.launches (x >>= f).job disk = machine.launches x.job disk := by
  unfold attempt at h
  rw [Attempt.job_bind, launches_bind, h]
  exact List.append_nil _

theorem launches_ask_bind (r : Request) (f : r.Answer → Attempt β) :
    machine.launches (Attempt.ask r >>= f).job disk = (r.launched?.map (·, disk)).toList
      ++ machine.launches (f (machine.answer r disk).1).job (machine.answer r disk).2 := by
  rw [Attempt.job_bind, Attempt.job_ask, Job.ask_bind, launches_ask]
  rfl

end Machine

/-- The contract of jobs that launch no commands but some. -/
def launching (allowed : Launch → Prop) : Contract Unit where
  allows _ r := ∀ command, r = .launch command → allowed command
  promises _ _ _ := True
  learn known _ _ := known
  le_learn _ _ _ := le_rfl

variable {allowed : Launch → Prop} {fits : Unit → α → Prop} {known : Unit} {job : Job α}

namespace Job.Keeps

theorem launches (h : job.Keeps (launching allowed) fits known) (machine : Machine) (disk : Disk) :
    ∀ launch ∈ machine.launches job disk, allowed launch.1 := by
  induction h generalizing disk with
  | done => simp
  | @ask _ r next hallows _ ih =>
    intro launch hmem
    rw [Machine.launches_ask] at hmem
    rcases List.mem_append.mp hmem with hfirst | hrest
    · cases r with
      | launch command =>
        obtain rfl : launch = (command, disk) := by simpa [Request.launched?] using hfirst
        exact hallows command rfl
      | _ => simp [Request.launched?] at hfirst
    · exact ih (machine.answer r disk).1 trivial _ launch hrest

theorem launches_eq_nil (h : job.Keeps (launching fun _ => False) fits known) (machine : Machine)
    (disk : Disk) : machine.launches job disk = [] :=
  List.eq_nil_iff_forall_not_mem.mpr fun launch hmem => h.launches machine disk launch hmem

theorem launches_launch_bind {command : Launch} {f : Except Fault Finished → Attempt β}
    {machine : Machine} {disk : Disk}
    (h : ∀ answer, (f answer).Keeps (launching fun _ => False) (fun _ _ => True) ()) :
    machine.launches (Attempt.ask (.launch command) >>= f).job disk = [(command, disk)] := by
  rw [Machine.launches_ask_bind, launches_eq_nil (h _) machine _]
  rfl

end Job.Keeps

end GoldenRun
