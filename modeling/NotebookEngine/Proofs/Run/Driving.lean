/-
**What a driven run keeps.**

A driver lets its program settle, hands out what the host has to tell, ends the cells that have drained and
goes on with the next task.  What each of these things keeps is kept by every round that begins with it,
whatever program is driven; what a task leaves behind may be more, as long as a program that can be driven
on makes up for it.

Main definitions:

* `Session.Settled` — what is kept while the jobs of a program run;
* `Session.Round` — what is kept by the parts of a round.

Main results:

* `Session.Settled.settle` — running all jobs;
* `Session.endCells_keeps`, `Session.next_keeps` — ending the cells that have drained, and going on;
* `Session.Round.turn`, `Session.Round.rounds` — **one round, and all of them**.
-/

import NotebookEngine.Run.Drive

set_option autoImplicit false

namespace NotebookEngine

namespace Session

variable {σ : Type} {g : Guest σ} {P Q : Session σ → Prop} {x : Session σ}

/-! ### Jobs -/

/-- What is kept while the jobs of a program run: by a job, by a warning, by a failure that ends the run,
and when what was rejected is taken. -/
structure Settled (g : Guest σ) (P : Session σ → Prop) : Prop where
  job : ∀ {x}, P x → P ⟨(g.job x.state).2, x.notices⟩
  warn : ∀ {x} text, P x → P (x.tellOwner g [.warning text])
  fail : ∀ {x} message stack, P x → P (x.tell g fun h => h.fail none message stack)
  taken : ∀ {x}, P x → P ⟨(g.takeRejections x.state).2, x.notices⟩

/-- What is done one after the other keeps what each single thing keeps. -/
theorem foldl_keeps {α : Type} {f : Session σ → α → Session σ} {as : List α}
    (hf : ∀ a ∈ as, ∀ y, P y → P (f y a)) (hx : P x) : P (as.foldl f x) := by
  induction as generalizing x with
  | nil => exact hx
  | cons a as ih =>
      rw [List.forall_mem_cons] at hf
      exact ih hf.2 (hf.1 x hx)

namespace Settled

theorem runJobs (hs : Settled g P) (fuel : Nat) (hx : P x) : P (x.runJobs g fuel) := by
  -- By induction on the bound: what a job failed with is told and ends the run.
  induction fuel generalizing x with
  | zero => exact hx
  | succ fuel ih =>
      have hjob := hs.job hx
      obtain ⟨state, notices⟩ := x
      rw [Session.runJobs]
      split
      next state' he => rw [he] at hjob; exact hjob
      next state' he => rw [he] at hjob; exact ih hjob
      next message stack state' he =>
        rw [he] at hjob
        exact ih (hs.fail message stack (hs.warn _ hjob))

/-- Running all jobs. -/
theorem settle (hs : Settled g P) (hx : P x) : P (x.settle g) :=
  foldl_keeps (fun r _ _ hy => hs.fail r.1 r.2 hy) (hs.taken (hs.runJobs roundLimit hx))

end Settled

/-! ### Cells and tasks -/

/-- Ending the cells that have drained, one after the other, and then the run if it is done. -/
theorem endCells_keeps (hpoll : P (x.ask g Host.pollDrained).2)
    (hcell : ∀ i ∈ (x.ask g Host.pollDrained).1, ∀ y, P y → P (y.endCell g i)) (hstuck : ∀ y, P y → Q y)
    (hdone : ∀ y, P y → Q (y.tell g fun h => if h.isDone then h.finish else h)) : Q (x.endCells g) := by
  have hended := foldl_keeps hcell hpoll
  rw [endCells]
  dsimp only
  split
  · exact hstuck _ hended
  · exact hdone _ hended

/-- Going on: what comes of the next task, of waiting for one, or of a run that has stalled. -/
theorem next_keeps
    (hpop : P (x.ask g fun h =>
      ((h.scheduler.popReady (g.clock x.state)).2,
        { h with scheduler := (h.scheduler.popReady (g.clock x.state)).1 })).2)
    (htask : ∀ y task, P y → Q (y.runTask g task))
    (hlook : ∀ y, P y → P (y.ask g fun h => ((h.scheduler.nextDeadline, h.settings.maxStall?), h)).2)
    (hwait : ∀ y moment, P y → Q (y.change (g.waitUntil moment)))
    (hstall : ∀ y, P y → Q (y.stall g)) : Q (x.next g) := by
  rw [next]
  dsimp only
  split
  next task _ => exact htask _ task hpop
  next =>
    have hlooked := hlook _ hpop
    split
    · split
      · exact hstall _ hlooked
      · exact hwait _ _ hlooked
    · exact hwait _ _ hlooked
    · exact hstall _ hlooked

/-! ### Rounds -/

/-- What is kept by the parts of a round: `P` holds while it lasts and `Q` when it is over, and from `Q` a
program that can be driven on gets back to `P`. -/
structure Round (g : Guest σ) (P Q : Session σ → Prop) : Prop where
  settle : ∀ {x}, P x → P (x.settle g)
  flush : ∀ {x}, P x → P (x.flush g)
  look : ∀ {x}, P x → P (x.isFinished g).2
  endCells : ∀ {x}, P x → (x.isFinished g).1 = false → P ((x.isFinished g).2.endCells g)
  next : ∀ {x}, P x → Q (x.next g)
  last : ∀ {x}, P x → Q x
  again : ∀ {x}, Q x → x.isStuck g = false → P x

namespace Round

/-- **One round**; after one that is not the last, the next can begin. -/
theorem turn (hr : Round g P Q) (hx : P x) :
    Q (x.turn g).2 ∧ ((x.turn g).1 = false → P (x.turn g).2) := by
  have hflushed := hr.flush (hr.settle hx)
  have hlast : ∀ {y}, P y → Q y ∧ (true = false → P y) :=
    fun hy => ⟨hr.last hy, fun h => absurd h.symm Bool.false_ne_true⟩
  have hlooked := hr.look hflushed
  have hended := hr.endCells hflushed
  rw [Session.turn]
  split
  next y hy =>
    rw [hy] at hlooked
    exact hlast hlooked
  next y hy =>
    rw [hy] at hended
    have hended := hended rfl
    dsimp only
    split
    · exact hlast hended
    · have hlooked := hr.look (hr.flush hended)
      split
      next z hz =>
        rw [hz] at hlooked
        exact hlast hlooked
      next z hz =>
        rw [hz] at hlooked
        have hnext := hr.next hlooked
        exact ⟨hnext, hr.again hnext⟩

/-- **All rounds.** -/
theorem rounds (hr : Round g P Q) (n : Nat) (hx : P x) : Q (x.rounds g n) := by
  -- By induction on the bound: only a round that was not the last is followed by another.
  induction n generalizing x with
  | zero => exact hr.last hx
  | succ n ih =>
      obtain ⟨hlast, hgoesOn⟩ := hr.turn hx
      rw [Session.rounds]
      split
      next y he => rw [he] at hlast; exact hlast
      next y he => rw [he] at hgoesOn; exact ih (hgoesOn rfl)

end Round

end Session

end NotebookEngine
