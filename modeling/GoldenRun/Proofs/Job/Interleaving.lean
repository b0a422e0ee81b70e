import GoldenRun.Proofs.Disk.Frame
import GoldenRun.Proofs.Job.Contract
import Mathlib.Data.List.Count
import Mathlib.Data.List.Induction
import Mathlib.Logic.Function.Iterate

/-!
# Jobs side by side

Jobs that share a file system take steps in turn, in any order. Jobs that keep their contracts do
not notice one another if there is a relation between the shared file system and the one that each
job would see alone, which a step of the job keeps and the steps of the others keep too.
-/

namespace GoldenRun

/-- Jobs at work on one file system. -/
structure Stage (ι α : Type) where
  jobs : ι → Job α
  disk : Disk

namespace Machine

variable {ι α : Type}

/-- Takes one step of a job. A job that is done stays as it is. -/
def advance (machine : Machine) : Job α × Disk → Job α × Disk
  | (.done result, disk) => (.done result, disk)
  | (.ask r next, disk) => (next (machine.answer r disk).1, (machine.answer r disk).2)

/-- A job and its file system after a number of steps with nothing else going on. -/
def alone (machine : Machine) (job : Job α) (disk : Disk) (n : ℕ) : Job α × Disk :=
  machine.advance^[n] (job, disk)

def turn [DecidableEq ι] (machine : Machine) (stage : Stage ι α) (i : ι) : Stage ι α where
  jobs := Function.update stage.jobs i (machine.advance (stage.jobs i, stage.disk)).1
  disk := (machine.advance (stage.jobs i, stage.disk)).2

/-- Lets jobs take steps in the order of a schedule. -/
def play [DecidableEq ι] (machine : Machine) (stage : Stage ι α) (schedule : List ι) :
    Stage ι α :=
  schedule.foldl machine.turn stage

variable {machine : Machine}

theorem alone_succ (job : Job α) (disk : Disk) (n : ℕ) :
    machine.alone job disk (n + 1) = machine.advance (machine.alone job disk n) :=
  Function.iterate_succ_apply' _ _ _

theorem run_alone (job : Job α) (disk : Disk) (n : ℕ) :
    machine.run (machine.alone job disk n).1 (machine.alone job disk n).2 =
      machine.run job disk := by
  induction n with
  | zero => rfl
  | succ n ih =>
    rw [alone_succ, ← ih]
    obtain ⟨result | ⟨r, next⟩, last⟩ := machine.alone job disk n <;> rfl

theorem exists_alone_done (job : Job α) (disk : Disk) :
    ∃ n, ∀ m, n ≤ m →
      machine.alone job disk m = (.done (machine.run job disk).1, (machine.run job disk).2) := by
  induction job generalizing disk with
  | done result =>
    refine ⟨0, ?_⟩
    intro m _
    induction m with
    | zero => rfl
    | succ m ih => rw [alone_succ, ih (Nat.zero_le m)]; rfl
  | ask r next ih =>
    obtain ⟨n, hn⟩ := ih (machine.answer r disk).1 (machine.answer r disk).2
    refine ⟨n + 1, ?_⟩
    intro m hm
    obtain ⟨k, rfl⟩ : ∃ k, m = k + 1 := ⟨m - 1, by omega⟩
    exact hn k (by omega)

/-- A relation between the shared file system and the one of each job alone, which every step
keeps. The answers that a job relies on are the same for both. -/
structure Separates {σ : Type} [Preorder σ] (machine : Machine) (contract : ι → Contract σ)
    (abreast : ι → σ → Disk → Disk → Prop) : Prop where
  own : ∀ {i known shared own r}, (contract i).allows known r → abreast i known shared own →
    (machine.answer r shared).1 = (machine.answer r own).1 ∧
      (contract i).promises known r (machine.answer r own).1 ∧
      abreast i ((contract i).learn known r (machine.answer r own).1)
        (machine.answer r shared).2 (machine.answer r own).2
  other : ∀ {i j known known' shared own own' r}, i ≠ j → (contract i).allows known r →
    abreast i known shared own → abreast j known' shared own' →
    abreast j known' (machine.answer r shared).2 own'

variable {σ : Type} [Preorder σ] {contract : ι → Contract σ}
  {abreast : ι → σ → Disk → Disk → Prop} {fits : ι → σ → α → Prop}

theorem Separates.advance_own (h : machine.Separates contract abreast) {i : ι} {known : σ}
    {job : Job α} {shared own : Disk} (hkeeps : job.Keeps (contract i) (fits i) known)
    (habreast : abreast i known shared own) :
    ∃ known', (machine.advance (job, shared)).1 = (machine.advance (job, own)).1 ∧
      (machine.advance (job, shared)).1.Keeps (contract i) (fits i) known' ∧
      abreast i known' (machine.advance (job, shared)).2 (machine.advance (job, own)).2 := by
  cases hkeeps with
  | done hfits => exact ⟨known, rfl, .done hfits, habreast⟩
  | @ask _ r next hallows hnext =>
    obtain ⟨hanswer, hpromise, habreast'⟩ := h.own hallows habreast
    refine ⟨_, ?_, ?_, habreast'⟩
    · exact congrArg next hanswer
    · change (next (machine.answer r shared).1).Keeps _ _ _
      rw [hanswer]
      exact hnext _ hpromise

theorem Separates.advance_other (h : machine.Separates contract abreast) {i j : ι}
    (hne : i ≠ j) {known known' : σ} {job : Job α} {shared own own' : Disk}
    (hkeeps : job.Keeps (contract i) (fits i) known) (habreast : abreast i known shared own)
    (habreast' : abreast j known' shared own') :
    abreast j known' (machine.advance (job, shared)).2 own' := by
  cases hkeeps with
  | done _ => exact habreast'
  | ask hallows _ => exact h.other hne hallows habreast habreast'

/-- Whatever the schedule, each job is where the same number of its steps would have led it
alone. -/
theorem Separates.play [DecidableEq ι] (h : machine.Separates contract abreast) (jobs : ι → Job α)
    (disk : Disk)
    (hstart : ∀ i, ∃ known, (jobs i).Keeps (contract i) (fits i) known ∧
      abreast i known disk disk)
    (schedule : List ι) (i : ι) :
    ∃ known, (machine.play ⟨jobs, disk⟩ schedule).jobs i =
        (machine.alone (jobs i) disk (schedule.count i)).1 ∧
      ((machine.play ⟨jobs, disk⟩ schedule).jobs i).Keeps (contract i) (fits i) known ∧
      abreast i known (machine.play ⟨jobs, disk⟩ schedule).disk
        (machine.alone (jobs i) disk (schedule.count i)).2 := by
  induction schedule using List.reverseRec generalizing i with
  | nil =>
    obtain ⟨known, hkeeps, habreast⟩ := hstart i
    exact ⟨known, rfl, hkeeps, habreast⟩
  | append_singleton schedule k ih =>
    obtain ⟨stage, hstage⟩ : ∃ stage, stage = machine.play ⟨jobs, disk⟩ schedule := ⟨_, rfl⟩
    have hplay : machine.play ⟨jobs, disk⟩ (schedule ++ [k]) = machine.turn stage k := by
      rw [hstage]
      exact List.foldl_append
    simp only [← hstage] at ih
    obtain ⟨known, hjob, hkeeps, habreast⟩ := ih k
    rw [hplay, List.count_append, List.count_singleton]
    by_cases hik : i = k
    · subst hik
      obtain ⟨known', hsame, hkeeps', habreast'⟩ := h.advance_own hkeeps habreast
      have hturn : (machine.turn stage i).jobs i =
          (machine.advance (stage.jobs i, stage.disk)).1 := Function.update_self ..
      rw [beq_self_eq_true, if_pos rfl, alone_succ, hturn]
      rw [hjob] at hsame habreast'
      refine ⟨known', ?_, hkeeps', ?_⟩
      · rw [hjob]
        exact hsame
      · have hdisk : (machine.turn stage i).disk =
            (machine.advance (stage.jobs i, stage.disk)).2 := rfl
        rw [hdisk, hjob]
        exact habreast'
    · obtain ⟨known', hjob', hkeeps', habreast'⟩ := ih i
      have hturn : (machine.turn stage k).jobs i = stage.jobs i := Function.update_of_ne hik ..
      have hcount : (k == i) = false := by simpa using Ne.symm hik
      rw [hcount, if_neg (by simp), Nat.add_zero, hturn]
      exact ⟨known', hjob', hkeeps', h.advance_other (Ne.symm hik) hkeeps habreast habreast'⟩

/-- In whatever order jobs take their steps, one of them does at each of its steps what it does
alone, and so it ends with the same result. At its end and before, the contents at given paths are
those that it sees alone, and it ends as soon as it has had enough turns. -/
structure Undisturbed [DecidableEq ι] (machine : Machine) (jobs : ι → Job α) (disk : Disk) (i : ι)
    (paths : List Path) : Prop where
  along : ∀ schedule : List ι,
    (machine.play ⟨jobs, disk⟩ schedule).jobs i =
        (machine.alone (jobs i) disk (schedule.count i)).1 ∧
      ∀ path ∈ paths, (machine.play ⟨jobs, disk⟩ schedule).disk.plain? path =
        (machine.alone (jobs i) disk (schedule.count i)).2.plain? path
  result : ∀ schedule result, (machine.play ⟨jobs, disk⟩ schedule).jobs i = .done result →
    result = (machine.run (jobs i) disk).1 ∧
      ∀ path ∈ paths, (machine.play ⟨jobs, disk⟩ schedule).disk.plain? path =
        (machine.run (jobs i) disk).2.plain? path
  ends : ∃ n, ∀ schedule : List ι, n ≤ schedule.count i →
    (machine.play ⟨jobs, disk⟩ schedule).jobs i = .done (machine.run (jobs i) disk).1

/-- Jobs that keep their contracts are undisturbed by one another, where the relation tells that
contents are the same. -/
theorem Separates.undisturbed [DecidableEq ι] (h : machine.Separates contract abreast)
    (jobs : ι → Job α) (disk : Disk)
    (hstart : ∀ i, ∃ known, (jobs i).Keeps (contract i) (fits i) known ∧
      abreast i known disk disk)
    (i : ι) (paths : List Path)
    (hpaths : ∀ known shared own, abreast i known shared own →
      ∀ path ∈ paths, shared.plain? path = own.plain? path) :
    machine.Undisturbed jobs disk i paths := by
  have halong : ∀ schedule : List ι,
      (machine.play ⟨jobs, disk⟩ schedule).jobs i =
          (machine.alone (jobs i) disk (schedule.count i)).1 ∧
        ∀ path ∈ paths, (machine.play ⟨jobs, disk⟩ schedule).disk.plain? path =
          (machine.alone (jobs i) disk (schedule.count i)).2.plain? path := by
    intro schedule
    obtain ⟨known, hjob, -, habreast⟩ := h.play jobs disk hstart schedule i
    exact ⟨hjob, hpaths known _ _ habreast⟩
  constructor
  · exact halong
  · intro schedule result hdone
    obtain ⟨hjob, hcontents⟩ := halong schedule
    have hrun : machine.run _ _ = machine.run (jobs i) disk :=
      run_alone (jobs i) disk (schedule.count i)
    rw [← hjob, hdone] at hrun
    rw [← hrun]
    exact ⟨rfl, hcontents⟩
  · obtain ⟨n, hn⟩ : ∃ n, ∀ m, n ≤ m → machine.alone (jobs i) disk m = _ :=
      exists_alone_done (jobs i) disk
    refine ⟨n, ?_⟩
    intro schedule hcount
    rw [(halong schedule).1, hn _ hcount]

end Machine

end GoldenRun
