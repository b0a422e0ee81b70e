import GoldenRun.Proofs.Job.Attempt
import Mathlib

/-!
# Contracts of jobs

A contract says what a job may ask for, what it may rely on in the answers, and what it comes to
know by them. It can be seen from the requests of a job that it keeps a contract: parts that keep it
make up a whole that does.
-/

namespace GoldenRun

/-- What a job may ask for when something is known, what the answers are promised to be, and what is
known then. Nothing that is known is ever lost. -/
structure Contract (σ : Type) [Preorder σ] where
  allows : σ → Request → Prop
  promises : σ → (r : Request) → r.Answer → Prop
  learn : σ → (r : Request) → r.Answer → σ
  le_learn : ∀ known r answer, known ≤ learn known r answer

section Jobs

variable {σ α β : Type} [Preorder σ] {c : Contract σ} {fits : σ → α → Prop} {known : σ}

/-- A job keeps a contract as long as the answers are as they are promised, and its result fits in
with what is known at its end. -/
inductive Job.Keeps (c : Contract σ) (fits : σ → α → Prop) : σ → Job α → Prop
  | done {known result} : fits known result → Keeps c fits known (.done result)
  | ask {known r next} : c.allows known r →
      (∀ answer, c.promises known r answer →
        Keeps c fits (c.learn known r answer) (next answer)) →
      Keeps c fits known (.ask r next)

/-- One job after another keeps the contract if the second one does so with everything that is known
at the end of the first. -/
theorem Job.Keeps.bind {fits' : σ → β → Prop} {job : Job α} {f : α → Job β}
    (h : job.Keeps c fits known)
    (hf : ∀ later a, known ≤ later → fits later a → (f a).Keeps c fits' later) :
    (job.bind f).Keeps c fits' known := by
  induction h with
  | done hfits => exact hf _ _ le_rfl hfits
  | ask hallows _ ih =>
    refine .ask hallows ?_
    intro answer hpromise
    apply ih answer hpromise
    intro later a hle hfits
    exact hf later a ((c.le_learn _ _ _).trans hle) hfits

/-- An attempt keeps a contract. What it comes to has to fit only if it does not fail. -/
def Attempt.Keeps (c : Contract σ) (fits : σ → α → Prop) (known : σ) (x : Attempt α) : Prop :=
  x.job.Keeps c (fun later result => ∀ a, result = .ok a → fits later a) known

namespace Attempt

theorem keeps_pure {a : α} (h : fits known a) : (pure a : Attempt α).Keeps c fits known :=
  .done fun _ heq => Except.ok.inj heq ▸ h

theorem keeps_fail (failure : Failure) : (fail failure : Attempt α).Keeps c fits known :=
  .done fun _ heq => by contradiction

theorem keeps_bind {fits' : σ → β → Prop} {x : Attempt α} {f : α → Attempt β}
    (h : x.Keeps c fits known)
    (hf : ∀ later a, known ≤ later → fits later a → (f a).Keeps c fits' later) :
    (x >>= f).Keeps c fits' known := by
  unfold Keeps
  rw [job_bind]
  apply Job.Keeps.bind h
  intro later result hle hfits
  cases result with
  | ok a => exact hf later a hle (hfits a rfl)
  | error failure => exact keeps_fail failure

theorem keeps_ask_bind {r : Request} {f : r.Answer → Attempt β} {fits : σ → β → Prop}
    (hallows : c.allows known r)
    (hf : ∀ answer, c.promises known r answer →
      (f answer).Keeps c fits (c.learn known r answer)) :
    (ask r >>= f).Keeps c fits known := by
  unfold Keeps
  rw [job_bind, job_ask]
  exact .ask hallows hf

theorem keeps_mono {fits' : σ → α → Prop} {x : Attempt α} (h : x.Keeps c fits known)
    (hmono : ∀ later a, known ≤ later → fits later a → fits' later a) :
    x.Keeps c fits' known := by
  unfold Keeps at h ⊢
  rw [← x.job.bind_done]
  exact h.bind fun later result hle hfits =>
    .done fun a hok => hmono later a hle (hfits a hok)

theorem keeps_granted {answer : Except Fault α} {refused : Fault → Failure}
    (h : ∀ a, answer = .ok a → fits known a) :
    (granted answer refused).Keeps c fits known := by
  cases answer with
  | ok a => exact keeps_pure (h a rfl)
  | error fault => exact keeps_fail _

theorem keeps_granted_bind {answer : Except Fault α} {refused : Fault → Failure}
    {f : α → Attempt β} {fits : σ → β → Prop}
    (h : ∀ a, answer = .ok a → (f a).Keeps c fits known) :
    (granted answer refused >>= f).Keeps c fits known := by
  cases answer with
  | ok a => exact h a rfl
  | error fault => exact keeps_fail _

end Attempt

end Jobs

end GoldenRun
