import GoldenRun.Machine

/-!
# Courses of jobs

What a job may ask for and come to, whatever it is answered. A course of two jobs that follow each
other is a course of the first and then one of the second, and what a job does on a machine is one
of its courses.
-/

namespace GoldenRun

variable {α β : Type}

/-- Some answers lead a job through requests to a result. -/
inductive Job.Course : Job α → List Request → α → Prop
  | done {result} : Course (.done result) [] result
  | ask {r next requests result} (answer : r.Answer) : Course (next answer) requests result →
      Course (.ask r next) (r :: requests) result

namespace Job.Course

variable {job : Job α} {f : α → Job β} {requests : List Request} {a : α} {b : β}

theorem done_iff {result : α} :
    (Job.done result).Course requests a ↔ requests = [] ∧ a = result := by
  constructor
  · rintro ⟨⟩
    exact ⟨rfl, rfl⟩
  · rintro ⟨rfl, rfl⟩
    exact .done

theorem bind_iff : (job.bind f).Course requests b ↔
    ∃ first second a, requests = first ++ second ∧ job.Course first a ∧
      (f a).Course second b := by
  constructor
  · intro h
    induction job generalizing requests with
    | done result => exact ⟨[], requests, result, rfl, .done, h⟩
    | ask r next ih =>
      obtain _ | ⟨answer, h⟩ := h
      obtain ⟨first, second, a, rfl, hfirst, hsecond⟩ := ih answer h
      exact ⟨r :: first, second, a, rfl, .ask answer hfirst, hsecond⟩
  · rintro ⟨first, second, a, rfl, hfirst, hsecond⟩
    induction hfirst with
    | done => exact hsecond
    | ask answer _ ih => exact .ask answer (ih hsecond)

theorem of_run (machine : Machine) (job : Job α) (disk : Disk) :
    ∃ requests, job.Course requests (machine.run job disk).1 := by
  induction job generalizing disk with
  | done result => exact ⟨[], .done⟩
  | ask r next ih =>
    obtain ⟨requests, h⟩ := ih (machine.answer r disk).1 (machine.answer r disk).2
    exact ⟨r :: requests, .ask _ h⟩

end Job.Course

end GoldenRun
