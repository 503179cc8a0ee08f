/-
**The agenda of tasks that are due later.**

The scheduler leaves places behind in its queue and recognises them by their tickets.  What it does can
be said without any of that: an agenda keeps at most one task under each number, with the time when it is
due, the ticket under which it was scheduled, its interval, and whether it waits to run.  The task that
runs next is the one that waits with the least due time and, among those, the least ticket.

Main definitions:

* `Agenda` — the tasks, and `Agenda.schedule`, `Agenda.cancel`, `Agenda.reschedule`, `Agenda.popReady`;
* `Scheduler.Call`, `Scheduler.Answer` — what a scheduler and an agenda are asked, and what they say.

Main results:

* `Agenda.ready?_eq_none_iff`, `Agenda.ready?_eq_some_iff` — which task runs next;
* `Agenda.valid_after` — no two tasks ever have the same ticket.
-/

import Mathlib.Data.List.MinMax
import Mathlib.Data.Prod.Lex
import NotebookEngine.Proofs.Data.TableKeys
import NotebookEngine.Schedule.Scheduler

set_option autoImplicit false

namespace NotebookEngine

/-! ### Agendas -/

/-- A task of an agenda. -/
structure Agenda.Entry where
  due : Nat
  ticket : Nat
  interval? : Option Nat
  /-- Whether the task waits to run; one that repeats stays on the agenda while it does not. -/
  armed : Bool
  deriving DecidableEq, Inhabited

/-- At most one task under each number. -/
structure Agenda where
  entries : Table Agenda.Entry
  nextTicket : Nat

namespace Agenda

/-- The place of a task among those that wait. -/
def Entry.rank (e : Entry) : ℕ ×ₗ ℕ := toLex (e.due, e.ticket)

/-- Whether a task stays on the agenda when it has run. -/
def Entry.repeats (e : Entry) : Bool := e.interval?.isSome

@[simp] theorem Entry.repeats_disarmed (e : Entry) :
    Entry.repeats { e with armed := false } = e.repeats := rfl

/-- The agenda without tasks. -/
def empty : Agenda := ⟨.empty, 0⟩

/-- Put a task on the agenda, in place of what was there under its number. -/
def schedule (a : Agenda) (now id delay : Nat) (repeats : Bool) : Agenda where
  entries := a.entries.put id
    { due := if now + delay ≤ lastMoment then now + delay else now
      ticket := a.nextTicket
      interval? := if repeats then some delay else none
      armed := true }
  nextTicket := a.nextTicket + 1

/-- The task is due when the scheduler says so. -/
theorem schedule_eq (a : Agenda) (now id delay : Nat) (repeats : Bool) :
    a.schedule now id delay repeats =
      ⟨a.entries.put id ⟨dueTime now delay, a.nextTicket, if repeats then some delay else none, true⟩,
        a.nextTicket + 1⟩ := rfl

/-- Take a task from the agenda; whether it was there. -/
def cancel (a : Agenda) (id : Nat) : Agenda × Bool :=
  ({ a with entries := a.entries.erase id }, a.entries.contains id)

/-- Let a task that repeats wait for its next run; whether it is still on the agenda. -/
def reschedule (a : Agenda) (now id : Nat) : Agenda × Bool :=
  match (a.entries.get? id).bind Entry.interval? with
  | none => (a, false)
  | some interval => (a.schedule now id interval true, true)

/-- The tasks that wait, with their numbers. -/
def armed (a : Agenda) : List (Nat × Entry) := a.entries.toList.filter fun e => e.2.armed

/-- The task that runs next at a moment: of those that are due, the first by due time and ticket. -/
def ready? (a : Agenda) (now : Nat) : Option (Nat × Entry) :=
  (a.armed.filter fun e => e.2.due ≤ now).argmin fun e => e.2.rank

/-- The agenda after a task has begun to run: a task that repeats stays on it. -/
def run (a : Agenda) (id : Nat) (e : Entry) : Agenda :=
  { a with
    entries := if e.repeats then a.entries.put id { e with armed := false } else a.entries.erase id }

/-- Take the task that runs next at a moment. -/
def popReady (a : Agenda) (now : Nat) : Agenda × Option ReadyTask :=
  match a.ready? now with
  | none => (a, none)
  | some (id, e) => (a.run id e, some ⟨id, e.repeats⟩)

/-- The least due time of a task that waits. -/
def nextDeadline (a : Agenda) : Option Nat := (a.armed.map fun e => e.2.due).min?

end Agenda

/-! ### Calls and answers -/

/-- What a scheduler is asked. -/
inductive Scheduler.Call where
  | schedule (now id delay : Nat) (repeats : Bool)
  | cancel (id : Nat)
  | reschedule (now id : Nat)
  | popReady (now : Nat)
  | nextDeadline
  | isScheduled (id : Nat)
  | size
  deriving DecidableEq

/-- What a scheduler says. -/
inductive Scheduler.Answer where
  | done
  | flag (b : Bool)
  | task (task? : Option ReadyTask)
  | moment (due? : Option Nat)
  | number (n : Nat)
  deriving DecidableEq

namespace Scheduler

/-- What a scheduler does and says. -/
def answer (s : Scheduler) : Call → Scheduler × Answer
  | .schedule now id delay repeats => (s.schedule now id delay repeats, .done)
  | .cancel id => ((s.cancel id).1, .flag (s.cancel id).2)
  | .reschedule now id => ((s.reschedule now id).1, .flag (s.reschedule now id).2)
  | .popReady now => ((s.popReady now).1, .task (s.popReady now).2)
  | .nextDeadline => (s, .moment s.nextDeadline)
  | .isScheduled id => (s, .flag (s.isScheduled id))
  | .size => (s, .number s.size)

/-- What a scheduler says to one call after another. -/
def answers (s : Scheduler) : List Call → List Answer
  | [] => []
  | c :: calls => (s.answer c).2 :: (s.answer c).1.answers calls

/-- The scheduler after a list of calls. -/
def after (s : Scheduler) (calls : List Call) : Scheduler :=
  calls.foldl (fun s c => (s.answer c).1) s

end Scheduler

namespace Agenda

/-- What an agenda does and says. -/
def answer (a : Agenda) : Scheduler.Call → Agenda × Scheduler.Answer
  | .schedule now id delay repeats => (a.schedule now id delay repeats, .done)
  | .cancel id => ((a.cancel id).1, .flag (a.cancel id).2)
  | .reschedule now id => ((a.reschedule now id).1, .flag (a.reschedule now id).2)
  | .popReady now => ((a.popReady now).1, .task (a.popReady now).2)
  | .nextDeadline => (a, .moment a.nextDeadline)
  | .isScheduled id => (a, .flag (a.entries.contains id))
  | .size => (a, .number a.entries.size)

/-- What an agenda says to one call after another. -/
def answers (a : Agenda) : List Scheduler.Call → List Scheduler.Answer
  | [] => []
  | c :: calls => (a.answer c).2 :: (a.answer c).1.answers calls

/-- The agenda after a list of calls. -/
def after (a : Agenda) (calls : List Scheduler.Call) : Agenda :=
  calls.foldl (fun a c => (a.answer c).1) a

/-! ### The task that runs next -/

theorem mem_armed (a : Agenda) (id : Nat) (e : Entry) :
    (id, e) ∈ a.armed ↔ a.entries.get? id = some e ∧ e.armed = true := by
  rw [armed, List.mem_filter, Table.toList, List.mem_reverse, ← Table.get?_eq_some_iff]

/-- Tickets were handed out before, and no two tasks have the same. -/
structure Valid (a : Agenda) : Prop where
  ticket_lt : ∀ id e, a.entries.get? id = some e → e.ticket < a.nextTicket
  ticket_inj : ∀ id id' e e', a.entries.get? id = some e → a.entries.get? id' = some e' →
    e.ticket = e'.ticket → id = id'

/-- No task runs next exactly if no task that waits is due. -/
theorem ready?_eq_none_iff (a : Agenda) (now : Nat) :
    a.ready? now = none ↔
      ∀ id e, a.entries.get? id = some e → e.armed = true → now < e.due := by
  rw [ready?, List.argmin_eq_none, List.filter_eq_nil_iff]
  constructor
  · intro h id e he harmed
    simpa using h (id, e) ((a.mem_armed id e).2 ⟨he, harmed⟩)
  · rintro h ⟨id, e⟩ hmem
    obtain ⟨he, harmed⟩ := (a.mem_armed id e).1 hmem
    simpa using h id e he harmed

theorem mem_due (a : Agenda) (now id : Nat) (e : Entry) :
    (id, e) ∈ (a.armed.filter fun e => e.2.due ≤ now) ↔
      (a.entries.get? id = some e ∧ e.armed = true) ∧ e.due ≤ now := by
  rw [List.mem_filter, mem_armed, decide_eq_true_eq]

/-- The task that runs next is one that is due, and none that is due comes before it. -/
theorem of_ready?_eq_some {a : Agenda} {now id : Nat} {e : Entry}
    (h : a.ready? now = some (id, e)) :
    (a.entries.get? id = some e ∧ e.armed = true ∧ e.due ≤ now) ∧
      ∀ id' e', a.entries.get? id' = some e' → e'.armed = true → e'.due ≤ now →
        e.rank ≤ e'.rank := by
  constructor
  · obtain ⟨⟨he, harmed⟩, hdue⟩ := (a.mem_due now id e).1 (List.argmin_mem h)
    exact ⟨he, harmed, hdue⟩
  · intro id' e' he' harmed' hdue'
    have hmem := (a.mem_due now id' e').2 ⟨⟨he', harmed'⟩, hdue'⟩
    exact List.le_of_mem_argmin (f := fun e : Nat × Entry => e.2.rank) hmem h

theorem Entry.rank_le_iff (d e : Entry) :
    d.rank ≤ e.rank ↔ d.due < e.due ∨ (d.due = e.due ∧ d.ticket ≤ e.ticket) :=
  Prod.Lex.toLex_le_toLex

/-- The task that runs next is the one that waits, is due, and comes before all others that wait. -/
theorem ready?_eq_some_iff {a : Agenda} (hv : a.Valid) (now id : Nat) (e : Entry) :
    a.ready? now = some (id, e) ↔
      a.entries.get? id = some e ∧ e.armed = true ∧ e.due ≤ now ∧
        ∀ id' e', a.entries.get? id' = some e' → e'.armed = true → e.rank ≤ e'.rank := by
  constructor
  · intro h
    obtain ⟨⟨he, harmed, hdue⟩, hleast⟩ := of_ready?_eq_some h
    refine ⟨he, harmed, hdue, ?_⟩
    intro id' e' he' harmed'
    by_cases hdue' : e'.due ≤ now
    · exact hleast id' e' he' harmed' hdue'
    · exact (e.rank_le_iff e').2 (Or.inl (by omega))
  · rintro ⟨he, harmed, hdue, hleast⟩
    cases hready : a.ready? now with
    | none =>
        have := (a.ready?_eq_none_iff now).1 hready id e he harmed
        omega
    | some first =>
        obtain ⟨id', e'⟩ := first
        obtain ⟨⟨he', harmed', -⟩, hleast'⟩ := of_ready?_eq_some hready
        have hrank : e.rank = e'.rank :=
          le_antisymm (hleast id' e' he' harmed') (hleast' id e he harmed hdue)
        have hticket : e.ticket = e'.ticket := congrArg (fun r => (ofLex r).2) hrank
        obtain rfl := hv.ticket_inj id id' e e' he he' hticket
        rw [he] at he'
        rw [Option.some.inj he']

/-- The next deadline is the due time of the task that comes first. -/
theorem nextDeadline_eq {a : Agenda} {id : Nat} {e : Entry} (he : a.entries.get? id = some e)
    (harmed : e.armed = true)
    (hleast : ∀ id' e', a.entries.get? id' = some e' → e'.armed = true → e.rank ≤ e'.rank) :
    a.nextDeadline = some e.due := by
  rw [nextDeadline, List.min?_eq_some_iff]
  constructor
  · exact List.mem_map.2 ⟨(id, e), (a.mem_armed id e).2 ⟨he, harmed⟩, rfl⟩
  · intro due hdue
    obtain ⟨⟨id', e'⟩, hmem, rfl⟩ := List.mem_map.1 hdue
    obtain ⟨he', harmed'⟩ := (a.mem_armed id' e').1 hmem
    have hle := (e.rank_le_iff e').1 (hleast id' e' he' harmed')
    change e.due ≤ e'.due
    omega

/-! ### Tickets -/

theorem valid_empty : empty.Valid where
  ticket_lt := by intro id e he; cases he
  ticket_inj := by intro id id' e e' he; cases he

theorem Valid.schedule {a : Agenda} (h : a.Valid) (now id delay : Nat) (repeats : Bool) :
    (a.schedule now id delay repeats).Valid where
  ticket_lt := by
    intro id' e he
    simp only [Agenda.schedule, Table.get?_put] at he ⊢
    split at he
    next => cases he; exact Nat.lt_succ_self _
    next => exact Nat.lt_succ_of_lt (h.ticket_lt id' e he)
  ticket_inj := by
    intro id₁ id₂ e₁ e₂ he₁ he₂ hticket
    simp only [Agenda.schedule, Table.get?_put] at he₁ he₂
    split at he₁
    next h₁ =>
      split at he₂
      next h₂ => rw [← h₁, h₂]
      next =>
        cases he₁
        have := h.ticket_lt id₂ e₂ he₂
        simp only at hticket
        omega
    next =>
      split at he₂
      next =>
        cases he₂
        have := h.ticket_lt id₁ e₁ he₁
        simp only at hticket
        omega
      next => exact h.ticket_inj id₁ id₂ e₁ e₂ he₁ he₂ hticket

theorem Valid.erase {a : Agenda} (h : a.Valid) (id : Nat) :
    Valid { a with entries := a.entries.erase id } where
  ticket_lt := by
    intro id' e he
    simp only [Table.get?_erase] at he
    split at he
    next => cases he
    next => exact h.ticket_lt id' e he
  ticket_inj := by
    intro id₁ id₂ e₁ e₂ he₁ he₂
    simp only [Table.get?_erase] at he₁ he₂
    split at he₁
    next => cases he₁
    next =>
      split at he₂
      next => cases he₂
      next => exact h.ticket_inj id₁ id₂ e₁ e₂ he₁ he₂

/-- A task that runs keeps its ticket. -/
theorem Valid.disarm {a : Agenda} (h : a.Valid) {id : Nat} {e : Entry}
    (he : a.entries.get? id = some e) :
    Valid { a with entries := a.entries.put id { e with armed := false } } := by
  have hold : ∀ id' e', (a.entries.put id { e with armed := false }).get? id' = some e' →
      ∃ e₀, a.entries.get? id' = some e₀ ∧ e₀.ticket = e'.ticket := by
    intro id' e' he'
    rw [Table.get?_put] at he'
    split at he'
    next heq => subst heq; cases he'; exact ⟨e, he, rfl⟩
    next => exact ⟨e', he', rfl⟩
  constructor
  · intro id' e' he'
    obtain ⟨e₀, he₀, hticket⟩ := hold id' e' he'
    rw [← hticket]
    exact h.ticket_lt id' e₀ he₀
  · intro id₁ id₂ e₁ e₂ he₁ he₂ hticket
    obtain ⟨d₁, hd₁, ht₁⟩ := hold id₁ e₁ he₁
    obtain ⟨d₂, hd₂, ht₂⟩ := hold id₂ e₂ he₂
    exact h.ticket_inj id₁ id₂ d₁ d₂ hd₁ hd₂ (by rw [ht₁, ht₂, hticket])

theorem Valid.run {a : Agenda} (h : a.Valid) {id : Nat} {e : Entry}
    (he : a.entries.get? id = some e) : (a.run id e).Valid := by
  unfold Agenda.run
  split
  · exact h.disarm he
  · exact h.erase id

/-- The agenda that `reschedule` leaves is the old one or the one with the task scheduled again. -/
theorem reschedule_eq (a : Agenda) (now id : Nat) :
    a.reschedule now id = (a, false) ∨
      ∃ interval, a.reschedule now id = (a.schedule now id interval true, true) := by
  unfold reschedule
  split
  · exact Or.inl rfl
  · exact Or.inr ⟨_, rfl⟩

theorem Valid.answer {a : Agenda} (h : a.Valid) (c : Scheduler.Call) : (a.answer c).1.Valid := by
  cases c with
  | schedule now id delay repeats => exact h.schedule now id delay repeats
  | cancel id => exact h.erase id
  | reschedule now id =>
      rcases a.reschedule_eq now id with heq | ⟨interval, heq⟩
      · simp only [Agenda.answer, heq]; exact h
      · simp only [Agenda.answer, heq]; exact h.schedule now id interval true
  | popReady now =>
      simp only [Agenda.answer, popReady]
      cases hready : a.ready? now with
      | none => exact h
      | some first =>
          obtain ⟨id, e⟩ := first
          exact h.run ((ready?_eq_some_iff h now id e).1 hready).1
  | nextDeadline => exact h
  | isScheduled id => exact h
  | size => exact h

theorem valid_after (calls : List Scheduler.Call) {a : Agenda} (h : a.Valid) :
    (a.after calls).Valid := by
  induction calls generalizing a with
  | nil => exact h
  | cons c calls ih => exact ih (h.answer c)

end Agenda

end NotebookEngine
