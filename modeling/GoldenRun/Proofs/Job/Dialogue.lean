import GoldenRun.Proofs.Job.Course
import GoldenRun.Proofs.Job.Launches

/-!
# Dialogues

What a job asks for and what it is answered, whoever answers. The answers determine how a job goes
on, so no dialogue of a job is the beginning of another one.
-/

namespace GoldenRun

variable {α β : Type}

/-- A request with its answer. -/
structure Exchange where
  request : Request
  answer : request.Answer

/-- Requests and answers lead a job to a result. -/
inductive Job.Dialogue : Job α → List Exchange → α → Prop
  | done {result} : Dialogue (.done result) [] result
  | ask {r next exchanges result} (answer : r.Answer) : Dialogue (next answer) exchanges result →
      Dialogue (.ask r next) (⟨r, answer⟩ :: exchanges) result

/-- The commands that are launched in a dialogue. -/
def launchedIn (exchanges : List Exchange) : List Launch :=
  exchanges.filterMap fun exchange => exchange.request.launched?

theorem launchedIn_cons (exchange : Exchange) (exchanges : List Exchange) :
    launchedIn (exchange :: exchanges) =
      exchange.request.launched?.toList ++ launchedIn exchanges := by
  unfold launchedIn
  cases h : exchange.request.launched? with
  | none => exact List.filterMap_cons_none h
  | some command => exact List.filterMap_cons_some h

namespace Job

variable {job : Job α} {f : α → Job β} {exchanges first second : List Exchange} {a a' : α} {b : β}

namespace Dialogue

theorem done_iff {result : α} :
    (Job.done result).Dialogue exchanges a ↔ exchanges = [] ∧ a = result := by
  constructor
  · rintro ⟨⟩
    exact ⟨rfl, rfl⟩
  · rintro ⟨rfl, rfl⟩
    exact .done

theorem bind_iff : (job.bind f).Dialogue exchanges b ↔
    ∃ first second a, exchanges = first ++ second ∧ job.Dialogue first a ∧
      (f a).Dialogue second b := by
  constructor
  · intro h
    induction job generalizing exchanges with
    | done result => exact ⟨[], exchanges, result, rfl, .done, h⟩
    | ask r next ih =>
      obtain _ | ⟨answer, h⟩ := h
      obtain ⟨first, second, a, rfl, hfirst, hsecond⟩ := ih answer h
      exact ⟨⟨r, answer⟩ :: first, second, a, rfl, .ask answer hfirst, hsecond⟩
  · rintro ⟨first, second, a, rfl, hfirst, hsecond⟩
    induction hfirst with
    | done => exact hsecond
    | ask answer _ ih => exact .ask answer (ih hsecond)

theorem of_bind_done (h : (job.bind f).Dialogue exchanges b) (g : α → β)
    (hf : ∀ a, f a = .done (g a)) : ∃ a, job.Dialogue exchanges a ∧ b = g a := by
  obtain ⟨first, second, a, rfl, hfirst, hsecond⟩ := bind_iff.mp h
  rw [hf] at hsecond
  obtain ⟨rfl, rfl⟩ := done_iff.mp hsecond
  exact ⟨a, by rwa [List.append_nil], rfl⟩

/-- The answers decide when a job is done and what it comes to. -/
theorem eq_of_prefix (h : job.Dialogue first a) (h' : job.Dialogue second a')
    (hbegins : first <+: second) : a = a' := by
  induction h generalizing second with
  | done => exact (done_iff.mp h').2.symm
  | @ask r next exchanges result answer _ ih =>
    obtain _ | ⟨answer', h'⟩ := h'
    obtain ⟨hsame, hrest⟩ := List.cons_prefix_cons.mp hbegins
    obtain rfl : answer' = answer := by simpa using hsame.symm
    exact ih h' hrest

theorem of_run (machine : Machine) (job : Job α) (disk : Disk) :
    ∃ exchanges, job.Dialogue exchanges (machine.run job disk).1 := by
  induction job generalizing disk with
  | done result => exact ⟨[], .done⟩
  | ask r next ih =>
    obtain ⟨exchanges, h⟩ := ih (machine.answer r disk).1 (machine.answer r disk).2
    exact ⟨⟨r, (machine.answer r disk).1⟩ :: exchanges, .ask _ h⟩

end Dialogue

variable {allowed allowed' : Launch → Prop} {fits : Unit → α → Prop} {known : Unit}

/-- In none of its dialogues does a job launch a command that it may not. -/
theorem Keeps.dialogue (h : job.Keeps (launching allowed) fits known)
    (hdialogue : job.Dialogue exchanges a) : ∀ command ∈ launchedIn exchanges, allowed command := by
  induction hdialogue generalizing known with
  | done => simp [launchedIn]
  | @ask r next exchanges result answer _ ih =>
    obtain _ | ⟨hallows, hnext⟩ := h
    intro command hmem
    rw [launchedIn_cons, List.mem_append, Option.mem_toList] at hmem
    rcases hmem with hfirst | hrest
    · cases r <;> simp [Request.launched?] at hfirst
      exact hallows _ (congrArg _ hfirst)
    · exact ih (hnext answer trivial) command hrest

theorem Keeps.launching_mono (h : job.Keeps (launching allowed) fits known)
    (hle : ∀ command, allowed command → allowed' command) :
    job.Keeps (launching allowed') fits known := by
  induction h with
  | done hfits => exact .done hfits
  | ask hallows _ ih => exact .ask (fun command hr => hle _ (hallows command hr)) ih

end Job

end GoldenRun
