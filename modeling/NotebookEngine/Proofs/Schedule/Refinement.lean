/-
**The scheduler is an agenda.**

A place of the scheduler's queue counts only while the task of its number has its ticket.  The relation
between a scheduler and an agenda says that the queue holds exactly one such place for a task that
waits, and none for a task that does not.  Places that were left behind are not mentioned by it, so it
does not matter when they are thrown away.

Main definitions:

* `Scheduler.Refines` — a scheduler that stands for an agenda.

Main results:

* `Scheduler.Refines.head` — the first place that was not left behind is that of the task that comes
  first;
* `Scheduler.Refines.answer` — asked the same, both say the same and stay related;
* `Scheduler.refines_after`, `Scheduler.answers_eq` — so they do over any list of calls.
-/

import Mathlib.Data.List.TakeWhile
import NotebookEngine.Proofs.Schedule.Agenda

set_option autoImplicit false

namespace NotebookEngine

namespace Scheduler

/-! ### Places in order -/

theorem Place.before_iff (p q : Place) :
    p.before q = true ↔ p.due < q.due ∨ (p.due = q.due ∧ p.ticket < q.ticket) := by
  simp [Place.before]

theorem Place.before_trans {p q r : Place} (hpq : p.before q = true) (hqr : q.before r = true) :
    p.before r = true := by
  rw [Place.before_iff] at *
  omega

theorem mem_enqueue (p q : Place) (ps : List Place) : q ∈ enqueue p ps ↔ q = p ∨ q ∈ ps := by
  induction ps with
  | nil => simp [enqueue]
  | cons r rs ih =>
      rw [enqueue]
      split
      · exact List.mem_cons
      · rw [List.mem_cons, ih, List.mem_cons]
        exact or_left_comm

/-- A place with a new ticket comes after all that are due at its time. -/
theorem pairwise_enqueue {p : Place} {ps : List Place}
    (hps : ps.Pairwise fun q r => q.before r = true) (hnew : ∀ q ∈ ps, q.ticket < p.ticket) :
    (enqueue p ps).Pairwise fun q r => q.before r = true := by
  induction ps with
  | nil => exact List.pairwise_singleton _ p
  | cons r rs ih =>
      obtain ⟨hr, hrs⟩ := List.pairwise_cons.1 hps
      rw [enqueue]
      split
      next hpr =>
        refine List.Pairwise.cons ?_ hps
        intro q hq
        rcases List.mem_cons.1 hq with rfl | hq
        · exact hpr
        · exact Place.before_trans hpr (hr q hq)
      next hpr =>
        refine List.Pairwise.cons ?_ (ih hrs fun q hq => hnew q (List.mem_cons_of_mem r hq))
        intro q hq
        rcases (mem_enqueue p q rs).1 hq with rfl | hq
        · have hticket := hnew r List.mem_cons_self
          rw [Place.before_iff] at hpr ⊢
          omega
        · exact hr q hq

/-! ### The relation -/

/-- What the scheduler registers of a task. -/
def taskOf (e : Agenda.Entry) : Task := ⟨e.ticket, e.interval?⟩

/-- A scheduler that stands for an agenda. -/
structure Refines (s : Scheduler) (a : Agenda) : Prop where
  valid : a.Valid
  next : s.nextTicket = a.nextTicket
  tasks : ∀ id, s.tasks.get? id = (a.entries.get? id).map taskOf
  sorted : s.queue.Pairwise fun p q => p.before q = true
  ticket_lt : ∀ p ∈ s.queue, p.ticket < s.nextTicket
  /-- The queue has the place of each task that waits, and no other with the ticket of a task. -/
  queued : ∀ id e, a.entries.get? id = some e → ∀ due,
    ⟨due, e.ticket, id⟩ ∈ s.queue ↔ e.armed = true ∧ due = e.due

namespace Refines

variable {s : Scheduler} {a : Agenda}

/-- A place counts exactly if the task of its number has its ticket. -/
theorem isStale_eq_false_iff (h : s.Refines a) (p : Place) :
    s.isStale p = false ↔ ∃ e, a.entries.get? p.id = some e ∧ e.ticket = p.ticket := by
  rw [isStale, h.tasks]
  cases a.entries.get? p.id with
  | none => simp
  | some e => simp [taskOf]

theorem isScheduled_eq (h : s.Refines a) (id : Nat) : s.isScheduled id = a.entries.contains id := by
  rw [isScheduled, Table.contains, Table.contains, h.tasks, Option.isSome_map]

theorem size_eq (h : s.Refines a) : s.size = a.entries.size :=
  Table.size_eq_of_contains h.isScheduled_eq

theorem task_eq (h : s.Refines a) {id : Nat} {e : Agenda.Entry}
    (he : a.entries.get? id = some e) : s.tasks.get? id = some (taskOf e) := by
  rw [h.tasks, he]
  rfl

/-! ### Places that were left behind -/

/-- Throwing away the places in front that were left behind keeps the relation. -/
theorem live (h : s.Refines a) : Refines { s with queue := s.liveQueue } a where
  valid := h.valid
  next := h.next
  tasks := h.tasks
  sorted := h.sorted.sublist (List.dropWhile_sublist _)
  ticket_lt := fun p hp => h.ticket_lt p ((List.dropWhile_sublist _).subset hp)
  queued := by
    intro id e he due
    rw [← h.queued id e he due]
    refine ⟨fun hmem => (List.dropWhile_sublist _).subset hmem, fun hmem => ?_⟩
    rw [← List.takeWhile_append_dropWhile (p := s.isStale) (l := s.queue), List.mem_append] at hmem
    -- What is thrown away is stale, and the place of a task is not.
    rcases hmem with hstale | hlive
    · have hnot := (h.isStale_eq_false_iff ⟨due, e.ticket, id⟩).2 ⟨e, he, rfl⟩
      rw [List.mem_takeWhile_imp hstale] at hnot
      cases hnot
    · exact hlive

/-- With nothing left in the queue no task waits. -/
theorem nil (h : s.Refines a) (hnil : s.liveQueue = []) (id : Nat) (e : Agenda.Entry)
    (he : a.entries.get? id = some e) : e.armed = false := by
  cases harmed : e.armed with
  | false => rfl
  | true =>
      have hmem := (h.live.queued id e he e.due).2 ⟨harmed, rfl⟩
      rw [hnil] at hmem
      cases hmem

/-- The first place that was not left behind is that of the task that comes first. -/
theorem head (h : s.Refines a) {p : Place} {rest : List Place} (hcons : s.liveQueue = p :: rest) :
    ∃ e, a.entries.get? p.id = some e ∧ e.armed = true ∧ e.due = p.due ∧ e.ticket = p.ticket ∧
      ∀ id' e', a.entries.get? id' = some e' → e'.armed = true → e.rank ≤ e'.rank := by
  have hlive := h.live
  simp only [hcons] at hlive
  have hstale : s.isStale p = false := by
    have := List.head?_dropWhile_not s.isStale s.queue
    rw [show s.queue.dropWhile s.isStale = p :: rest from hcons] at this
    simpa using this
  obtain ⟨e, he, hticket⟩ := (h.isStale_eq_false_iff p).1 hstale
  have hplace : (⟨p.due, e.ticket, p.id⟩ : Place) ∈ p :: rest := by
    rw [hticket]
    exact List.mem_cons_self
  obtain ⟨harmed, hdue⟩ := (hlive.queued p.id e he p.due).1 hplace
  refine ⟨e, he, harmed, hdue.symm, hticket, ?_⟩
  intro id' e' he' harmed'
  have hmem := (hlive.queued id' e' he' e'.due).2 ⟨harmed', rfl⟩
  rw [Agenda.Entry.rank_le_iff]
  rcases List.mem_cons.1 hmem with heq | hrest
  · have hdue' : e'.due = p.due := congrArg Place.due heq
    have hticket' : e'.ticket = p.ticket := congrArg Place.ticket heq
    omega
  · have hbefore := (List.pairwise_cons.1 hlive.sorted).1 _ hrest
    rw [Place.before_iff] at hbefore
    simp only at hbefore
    omega

theorem ready?_eq_none (h : s.Refines a) {p : Place} {rest : List Place}
    (hcons : s.liveQueue = p :: rest) {now : Nat} (hnow : now < p.due) : a.ready? now = none := by
  obtain ⟨e, -, -, hdue, -, hleast⟩ := h.head hcons
  refine (a.ready?_eq_none_iff now).2 ?_
  intro id' e' he' harmed'
  have hrank := (e.rank_le_iff e').1 (hleast id' e' he' harmed')
  omega

theorem nextDeadline_eq (h : s.Refines a) : s.nextDeadline = a.nextDeadline := by
  rw [nextDeadline]
  cases hlive : s.liveQueue with
  | nil =>
      have hnone : a.armed = [] := by
        refine List.eq_nil_iff_forall_not_mem.2 ?_
        rintro ⟨id, e⟩ hmem
        obtain ⟨he, harmed⟩ := (a.mem_armed id e).1 hmem
        rw [h.nil hlive id e he] at harmed
        cases harmed
      rw [Agenda.nextDeadline, hnone]
      rfl
  | cons p rest =>
      obtain ⟨e, he, harmed, hdue, -, hleast⟩ := h.head hlive
      rw [Agenda.nextDeadline_eq he harmed hleast, hdue]
      rfl

/-! ### Each call keeps the relation -/

theorem schedule (h : s.Refines a) (now id delay : Nat) (repeats : Bool) :
    Refines (s.schedule now id delay repeats) (a.schedule now id delay repeats) where
  valid := h.valid.schedule now id delay repeats
  next := congrArg (· + 1) h.next
  tasks := by
    intro id'
    simp only [Scheduler.schedule, Agenda.schedule_eq, Table.get?_put]
    split
    · rw [h.next]; rfl
    · exact h.tasks id'
  sorted := pairwise_enqueue h.sorted h.ticket_lt
  ticket_lt := by
    intro p hp
    rcases (mem_enqueue _ p s.queue).1 hp with rfl | hp
    · exact Nat.lt_succ_self _
    · exact Nat.lt_succ_of_lt (h.ticket_lt p hp)
  queued := by
    intro id' e he due
    simp only [Agenda.schedule_eq, Table.get?_put] at he
    simp only [Scheduler.schedule, mem_enqueue, Place.mk.injEq]
    split at he
    next hid =>
      cases he
      -- The ticket is new, so no place in the queue has it yet.
      have hold : (⟨due, a.nextTicket, id'⟩ : Place) ∉ s.queue := fun hmem => by
        have hlt := h.ticket_lt _ hmem
        rw [h.next] at hlt
        exact Nat.lt_irrefl _ hlt
      simp [hold, h.next, hid]
    next hid =>
      rw [h.queued id' e he due]
      simp [Ne.symm hid]

theorem cancel (h : s.Refines a) (id : Nat) : Refines (s.cancel id).1 (a.cancel id).1 where
  valid := h.valid.erase id
  next := h.next
  tasks := by
    intro id'
    simp only [Scheduler.cancel, Agenda.cancel, Table.get?_erase]
    split
    · rfl
    · exact h.tasks id'
  sorted := h.sorted
  ticket_lt := h.ticket_lt
  queued := by
    intro id' e he
    simp only [Agenda.cancel, Table.get?_erase] at he
    split at he
    · cases he
    · exact h.queued id' e he

/-- Scheduling a task again looks at its interval alone, which both know. -/
theorem reschedule (h : s.Refines a) (now id : Nat) :
    (s.reschedule now id).2 = (a.reschedule now id).2 ∧
      Refines (s.reschedule now id).1 (a.reschedule now id).1 := by
  have hinterval : (s.tasks.get? id).bind Task.interval?
      = (a.entries.get? id).bind Agenda.Entry.interval? := by
    rw [h.tasks]
    cases a.entries.get? id with
    | none => rfl
    | some e => rfl
  rw [Scheduler.reschedule, Agenda.reschedule, hinterval]
  cases (a.entries.get? id).bind Agenda.Entry.interval? with
  | none => exact ⟨rfl, h⟩
  | some interval => exact ⟨rfl, h.schedule now id interval true⟩

/-- The relation once the first place is taken from the queue. -/
theorem run (h : s.Refines a) {p : Place} {rest : List Place} (hcons : s.liveQueue = p :: rest)
    {e : Agenda.Entry} (he : a.entries.get? p.id = some e) (hdue : e.due = p.due)
    (hticket : e.ticket = p.ticket) :
    Refines
      { s with queue := rest, tasks := if e.repeats then s.tasks else s.tasks.erase p.id }
      (a.run p.id e) := by
  have hlive := h.live
  simp only [hcons] at hlive
  have hsub : ∀ q ∈ rest, q ∈ p :: rest := fun q => List.mem_cons_of_mem p
  obtain ⟨hfirst, hsorted⟩ := List.pairwise_cons.1 hlive.sorted
  -- The places of the other tasks are still there; that of the task that runs was the only one.
  have hother : ∀ id' e', p.id ≠ id' → a.entries.get? id' = some e' → ∀ due,
      (⟨due, e'.ticket, id'⟩ : Place) ∈ rest ↔ e'.armed = true ∧ due = e'.due := by
    intro id' e' hid he' due
    rw [← hlive.queued id' e' he' due, List.mem_cons]
    refine ⟨Or.inr, fun hmem => hmem.resolve_left fun heq => hid ?_⟩
    exact (congrArg Place.id heq).symm
  have hgone : ∀ due, (⟨due, e.ticket, p.id⟩ : Place) ∉ rest := by
    intro due hmem
    have hdue' := ((hlive.queued p.id e he due).1 (hsub _ hmem)).2
    have hbefore := hfirst _ hmem
    rw [Place.before_iff] at hbefore
    simp only at hbefore
    omega
  refine ⟨h.valid.run he, ?_, ?_, hsorted, fun q hq => hlive.ticket_lt q (hsub q hq), ?_⟩
  · exact h.next
  · intro id'
    unfold Agenda.run
    by_cases hrep : e.repeats = true
    · simp only [hrep, if_true, Table.get?_put]
      split
      next hid => subst hid; exact (h.task_eq he).trans rfl
      next => exact h.tasks id'
    · simp only [hrep, Bool.false_eq_true, if_false, Table.get?_erase]
      split
      next => rfl
      next => exact h.tasks id'
  · intro id' e' he' due
    unfold Agenda.run at he'
    by_cases hrep : e.repeats = true
    · simp only [hrep, if_true, Table.get?_put] at he'
      split at he'
      next hid =>
        subst hid
        cases he'
        simpa using hgone due
      next hid => exact hother id' e' hid he' due
    · simp only [hrep, Bool.false_eq_true, if_false, Table.get?_erase] at he'
      split at he'
      next => cases he'
      next hid => exact hother id' e' hid he' due

/-- Both take the same task, and both keep it exactly if it repeats. -/
theorem popReady (h : s.Refines a) (now : Nat) :
    (s.popReady now).2 = (a.popReady now).2 ∧
      Refines (s.popReady now).1 (a.popReady now).1 := by
  rw [Scheduler.popReady]
  cases hlive : s.liveQueue with
  | nil =>
      have hnone : a.ready? now = none := by
        refine (a.ready?_eq_none_iff now).2 ?_
        intro id e he harmed
        rw [h.nil hlive id e he] at harmed
        cases harmed
      rw [Agenda.popReady, hnone]
      refine ⟨rfl, ?_⟩
      have := h.live
      rwa [hlive] at this
  | cons p rest =>
      simp only
      split
      next hnow =>
        rw [Agenda.popReady, h.ready?_eq_none hlive hnow]
        refine ⟨rfl, ?_⟩
        have := h.live
        rwa [hlive] at this
      next hnow =>
        obtain ⟨e, he, harmed, hdue, hticket, hleast⟩ := h.head hlive
        have hready : a.ready? now = some (p.id, e) :=
          (Agenda.ready?_eq_some_iff h.valid now p.id e).2 ⟨he, harmed, by omega, hleast⟩
        rw [Agenda.popReady, hready, h.task_eq he]
        exact ⟨rfl, h.run hlive he hdue hticket⟩

/-- Asked the same, both say the same and stay related. -/
theorem answer (h : s.Refines a) (c : Call) :
    (s.answer c).2 = (a.answer c).2 ∧ Refines (s.answer c).1 (a.answer c).1 := by
  cases c with
  | schedule now id delay repeats => exact ⟨rfl, h.schedule now id delay repeats⟩
  | cancel id => exact ⟨congrArg Answer.flag (h.isScheduled_eq id), h.cancel id⟩
  | reschedule now id =>
      exact ⟨congrArg Answer.flag (h.reschedule now id).1, (h.reschedule now id).2⟩
  | popReady now => exact ⟨congrArg Answer.task (h.popReady now).1, (h.popReady now).2⟩
  | nextDeadline => exact ⟨congrArg Answer.moment h.nextDeadline_eq, h⟩
  | isScheduled id => exact ⟨congrArg Answer.flag (h.isScheduled_eq id), h⟩
  | size => exact ⟨congrArg Answer.number h.size_eq, h⟩

end Refines

/-! ### Runs of calls -/

theorem refines_empty : Refines empty .empty where
  valid := Agenda.valid_empty
  next := rfl
  tasks := fun _ => rfl
  sorted := List.Pairwise.nil
  ticket_lt := by intro p hp; cases hp
  queued := by intro id e he; cases he

theorem refines_after (calls : List Call) {s : Scheduler} {a : Agenda} (h : s.Refines a) :
    Refines (s.after calls) (a.after calls) := by
  induction calls generalizing s a with
  | nil => exact h
  | cons c calls ih => exact ih (h.answer c).2

/-- Related to an agenda, a scheduler says what the agenda says, however long it is asked. -/
theorem answers_eq (calls : List Call) {s : Scheduler} {a : Agenda} (h : s.Refines a) :
    s.answers calls = a.answers calls := by
  induction calls generalizing s a with
  | nil => rfl
  | cons c calls ih => rw [answers, Agenda.answers, (h.answer c).1, ih (h.answer c).2]

end Scheduler

end NotebookEngine
