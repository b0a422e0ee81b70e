import GoldenRun.Proofs.Job.Launches

/-!
# Traces of jobs

The requests that a job makes on a machine, each with the file system before and after it. What
holds of the file system before a job, and is kept by every request that its contract allows, holds
at every point of its trace, as long as the programs that it launches do what is expected.
-/

namespace GoldenRun

variable {α : Type}

/-- A request that has been made, with the file system before and after it. -/
structure Step where
  request : Request
  before : Disk
  after : Disk

namespace Machine

/-- The requests that a job makes, in their order. -/
def trace (machine : Machine) : Job α → Disk → List Step
  | .done _, _ => []
  | .ask r next, disk =>
    ⟨r, disk, (machine.answer r disk).2⟩
      :: trace machine (next (machine.answer r disk).1) (machine.answer r disk).2

end Machine

/-- Every request that a contract allows is answered as it is promised, keeps an invariant of the
file system, and makes a step of a kind. -/
def Contract.Governs {σ : Type} [Preorder σ] (c : Contract σ) (machine : Machine)
    (expects : Launch × Disk → Prop) (inv : Disk → Prop) (kind : Step → Prop) : Prop :=
  ∀ known r disk, c.allows known r → inv disk →
    (∀ command, r = .launch command → expects (command, disk)) →
    c.promises known r (machine.answer r disk).1 ∧ inv (machine.answer r disk).2 ∧
      kind ⟨r, disk, (machine.answer r disk).2⟩

/-- A whole job keeps the invariant that its requests keep, and makes no steps but theirs. -/
theorem Job.Keeps.trace {σ : Type} [Preorder σ] {c : Contract σ} {fits : σ → α → Prop} {known : σ}
    {job : Job α} {machine : Machine} {expects : Launch × Disk → Prop} {inv : Disk → Prop}
    {kind : Step → Prop} (h : job.Keeps c fits known)
    (hgoverns : c.Governs machine expects inv kind) (disk : Disk) (hinv : inv disk)
    (hlaunches : ∀ launch ∈ machine.launches job disk, expects launch) :
    (∃ later, fits later (machine.run job disk).1) ∧ inv (machine.run job disk).2 ∧
      ∀ step ∈ machine.trace job disk, kind step := by
  induction h generalizing disk with
  | done hfits =>
    refine ⟨⟨_, hfits⟩, hinv, ?_⟩
    intro step hstep
    contradiction
  | @ask known r next hallows _ ih =>
    rw [Machine.launches_ask] at hlaunches
    obtain ⟨hpromise, hafter, hkind⟩ := hgoverns known r disk hallows hinv (by
      rintro command rfl
      exact hlaunches _ (List.mem_append_left _ (by simp [Request.launched?])))
    obtain ⟨hfits, hlast, hrest⟩ := ih _ hpromise (machine.answer r disk).2 hafter
      fun launch hmem => hlaunches launch (List.mem_append_right _ hmem)
    refine ⟨hfits, hlast, ?_⟩
    intro step hstep
    rcases List.mem_cons.mp hstep with rfl | hstep
    · exact hkind
    · exact hrest step hstep

end GoldenRun
