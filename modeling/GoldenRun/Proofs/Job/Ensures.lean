import GoldenRun.Proofs.Job.Launches

/-!
# What attempts come to

An attempt ensures something about its result and about the file system that it leaves, as long as
the programs that it launches do what is expected of them. The parts of an attempt are looked at one
after the other, each in the state that the ones before it have left.
-/

namespace GoldenRun.Machine

variable {α β : Type} {machine : Machine} {expects : Launch × Disk → Prop} {disk after : Disk}
  {x : Attempt α} {f : α → Attempt β}

/-- What an attempt comes to, if its launches do what is expected. -/
def Ensures (machine : Machine) (expects : Launch × Disk → Prop) (x : Attempt α) (disk : Disk)
    (post : Except Failure α → Disk → Prop) : Prop :=
  (∀ launch ∈ machine.launches x.job disk, expects launch) →
    post (machine.attempt x disk).1 (machine.attempt x disk).2

variable {post : Except Failure α → Disk → Prop} {last : Except Failure β → Disk → Prop}

theorem ensures_pure {a : α} (h : post (.ok a) disk) :
    machine.Ensures expects (pure a) disk post :=
  fun _ => h

theorem ensures_fail {failure : Failure} (h : post (.error failure) disk) :
    machine.Ensures expects (Attempt.fail failure) disk post :=
  fun _ => h

theorem Ensures.mono {post' : Except Failure α → Disk → Prop}
    (h : machine.Ensures expects x disk post) (hmono : ∀ result after, post result after →
      post' result after) : machine.Ensures expects x disk post' :=
  fun hlaunches => hmono _ _ (h hlaunches)

/-- A failure of the first part is one of the whole; otherwise the second part goes on from
there. -/
theorem Ensures.bind (h : machine.Ensures expects x disk post)
    (herror : ∀ failure after, post (.error failure) after → last (.error failure) after)
    (hok : ∀ a after, post (.ok a) after → machine.Ensures expects (f a) after last) :
    machine.Ensures expects (x >>= f) disk last := by
  intro hlaunches
  rcases hresult : machine.attempt x disk with ⟨failure | a, after⟩
  · rw [attempt_bind_error hresult]
    rw [launches_bind_error hresult] at hlaunches
    have hfirst := h hlaunches
    rw [hresult] at hfirst
    exact herror failure after hfirst
  · rw [attempt_bind_ok hresult]
    rw [launches_bind_ok hresult] at hlaunches
    have hfirst := h fun launch hmem => hlaunches launch (List.mem_append_left _ hmem)
    rw [hresult] at hfirst
    exact hok a after hfirst fun launch hmem => hlaunches launch (List.mem_append_right _ hmem)

theorem ensures_ask_bind {r : Request} {f : r.Answer → Attempt β}
    (h : (∀ command, r = .launch command → expects (command, disk)) →
      machine.Ensures expects (f (machine.answer r disk).1) (machine.answer r disk).2 last) :
    machine.Ensures expects (Attempt.ask r >>= f) disk last := by
  intro hlaunches
  rw [launches_ask_bind] at hlaunches
  rw [attempt_ask_bind]
  refine h ?_ fun launch hmem => hlaunches launch (List.mem_append_right _ hmem)
  rintro command rfl
  exact hlaunches _ (List.mem_append_left _ (by simp [Request.launched?]))

theorem ensures_granted_bind {answer : Except Fault α} {refused : Fault → Failure}
    (herror : ∀ fault, answer = .error fault → last (.error (refused fault)) disk)
    (hok : ∀ a, answer = .ok a → machine.Ensures expects (f a) disk last) :
    machine.Ensures expects (Attempt.granted answer refused >>= f) disk last := by
  cases answer with
  | ok a => exact hok a rfl
  | error fault =>
    intro _
    rw [attempt_bind_error (attempt_granted_error fault refused)]
    exact herror fault rfl

end GoldenRun.Machine
