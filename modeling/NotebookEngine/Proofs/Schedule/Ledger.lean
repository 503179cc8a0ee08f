/-
**What becomes of every task.**

Each time a task is scheduled it gets a ticket, and the tickets are counted up from zero.  A ledger
writes down what became of them: which tasks ran, in order, and which were cancelled or replaced while
they waited.  Every ticket is then in one of three places, and only in one: it waits on the agenda, it
ran, or it was dropped.  So nothing that was dropped ever runs, nothing runs twice and nothing is lost.

Main definitions:

* `Agenda.waiting` — the tickets of the tasks that wait;
* `Ledger` — an agenda, what ran and what was dropped; `Ledger.after` — the ledger after a list of calls.

Main results:

* `Ledger.sound_after` — where the tickets are, and in which order the tasks ran;
* `Scheduler.answers_as_agenda` — the scheduler answers as the agenda, and its tasks run as the ledger
  says.
-/

import NotebookEngine.Proofs.Schedule.Refinement

set_option autoImplicit false

namespace NotebookEngine

/-! ### Tickets that wait -/

namespace Agenda

/-- The ticket of a task, if it waits. -/
def Entry.waiting (e : Entry) : List Nat := if e.armed then [e.ticket] else []

/-- The tickets of the tasks that wait. -/
def waiting (a : Agenda) : List Nat := a.entries.entries.flatMap fun e => e.2.waiting

/-- The ticket that waits under a number. -/
def waitingAt (a : Agenda) (id : Nat) : List Nat :=
  match a.entries.get? id with
  | some e => e.waiting
  | none => []

/-- The tickets that wait under all numbers but one, and the one that waits under that. -/
theorem waiting_perm_cancel (a : Agenda) (id : Nat) :
    a.waiting.Perm ((a.cancel id).1.waiting ++ a.waitingAt id) := by
  rw [waitingAt]
  cases he : a.entries.get? id with
  | none =>
      rw [cancel, Table.erase_eq_self he, List.append_nil]
  | some e =>
      have hperm := (Table.entries_perm_erase he).flatMap_right fun e => e.2.waiting
      exact hperm.trans List.perm_append_comm

/-- A task that is put on the agenda takes the place of the one under its number. -/
theorem waiting_perm_put (a : Agenda) (id : Nat) (e : Entry) (next : Nat) :
    (waiting ⟨a.entries.put id e, next⟩).Perm ((a.cancel id).1.waiting ++ e.waiting) := by
  have hperm := (a.entries.entries_put_perm id e).flatMap_right fun e => e.2.waiting
  exact hperm.trans List.perm_append_comm

/-- Scheduling adds the new ticket and drops the one that waited under the number. -/
theorem waiting_perm_schedule (a : Agenda) (now id delay : Nat) (repeats : Bool) :
    ((a.schedule now id delay repeats).waiting ++ a.waitingAt id).Perm
      (a.waiting ++ [a.nextTicket]) := by
  have hput := a.waiting_perm_put id
    ⟨dueTime now delay, a.nextTicket, if repeats then some delay else none, true⟩ (a.nextTicket + 1)
  have hcancel := a.waiting_perm_cancel id
  refine List.perm_iff_count.2 fun ticket => ?_
  have h₁ := hput.count_eq ticket
  have h₂ := hcancel.count_eq ticket
  simp only [List.count_append, Entry.waiting, if_true] at h₁ h₂ ⊢
  rw [schedule_eq]
  omega

/-- A task that runs no longer waits, whether it stays on the agenda or not. -/
theorem waiting_perm_run {a : Agenda} {id : Nat} {e : Entry} (he : a.entries.get? id = some e)
    (harmed : e.armed = true) : a.waiting.Perm ((a.run id e).waiting ++ [e.ticket]) := by
  have hcancel := a.waiting_perm_cancel id
  rw [waitingAt, he] at hcancel
  simp only [Entry.waiting, harmed, if_true] at hcancel
  refine hcancel.trans (List.Perm.append_right _ ?_)
  unfold run
  split
  · have hput := a.waiting_perm_put id { e with armed := false } a.nextTicket
    simp only [Entry.waiting, Bool.false_eq_true, if_false, List.append_nil] at hput
    exact hput.symm
  · exact List.Perm.refl _

end Agenda

/-! ### Ledgers -/

/-- An agenda with what became of the tasks that no longer wait on it. -/
structure Ledger where
  agenda : Agenda
  /-- The tasks that ran, in order. -/
  ran : List (Nat × Agenda.Entry)
  /-- The tickets of the tasks that were cancelled or replaced while they waited. -/
  dropped : List Nat

namespace Ledger

/-- The ledger of an agenda that is still empty. -/
def empty : Ledger := ⟨.empty, [], []⟩

/-- The task that a call runs. -/
def runs (l : Ledger) : Scheduler.Call → List (Nat × Agenda.Entry)
  | .popReady now => (l.agenda.ready? now).toList
  | _ => []

/-- The ticket that a call cancels or replaces. -/
def drops (l : Ledger) : Scheduler.Call → List Nat
  | .schedule _ id _ _ => l.agenda.waitingAt id
  | .cancel id => l.agenda.waitingAt id
  | .reschedule now id => if (l.agenda.reschedule now id).2 then l.agenda.waitingAt id else []
  | _ => []

/-- Write down what a call does. -/
def enter (l : Ledger) (c : Scheduler.Call) : Ledger :=
  ⟨(l.agenda.answer c).1, l.ran ++ l.runs c, l.dropped ++ l.drops c⟩

/-- The ledger after a list of calls. -/
def after (l : Ledger) (calls : List Scheduler.Call) : Ledger := calls.foldl enter l

theorem agenda_after (l : Ledger) (calls : List Scheduler.Call) :
    (l.after calls).agenda = l.agenda.after calls := by
  induction calls generalizing l with
  | nil => rfl
  | cons c calls ih => exact ih (l.enter c)

/-- Every ticket waits, ran or was dropped, once; and tasks due at one time run by their tickets. -/
structure Sound (l : Ledger) : Prop where
  valid : l.agenda.Valid
  tickets : (List.range l.agenda.nextTicket).Perm
    (l.agenda.waiting ++ (l.ran.map (·.2.ticket) ++ l.dropped))
  ordered : l.ran.Pairwise fun p q => p.2.due = q.2.due → p.2.ticket < q.2.ticket
  /-- What waits comes after what ran, if it is due at the same time. -/
  ran_lt : ∀ p ∈ l.ran, ∀ id e, l.agenda.entries.get? id = some e → e.armed = true →
    p.2.due = e.due → p.2.ticket < e.ticket

theorem sound_empty : empty.Sound where
  valid := Agenda.valid_empty
  tickets := List.Perm.refl _
  ordered := List.Pairwise.nil
  ran_lt := by intro p hp; cases hp

namespace Sound

variable {l : Ledger}

/-- The ticket of a task that ran was handed out before. -/
theorem ran_lt_next (h : l.Sound) {p : Nat × Agenda.Entry} (hp : p ∈ l.ran) :
    p.2.ticket < l.agenda.nextTicket := by
  refine List.mem_range.1 (h.tickets.mem_iff.2 ?_)
  exact List.mem_append_right _ (List.mem_append_left _ (List.mem_map.2 ⟨p, hp, rfl⟩))

theorem schedule (h : l.Sound) (now id delay : Nat) (repeats : Bool) :
    Sound ⟨l.agenda.schedule now id delay repeats, l.ran, l.dropped ++ l.agenda.waitingAt id⟩ where
  valid := h.valid.schedule now id delay repeats
  tickets := by
    have hschedule := l.agenda.waiting_perm_schedule now id delay repeats
    refine List.perm_iff_count.2 fun ticket => ?_
    have h₁ := hschedule.count_eq ticket
    have h₂ := h.tickets.count_eq ticket
    change List.count ticket (List.range (l.agenda.nextTicket + 1)) = _
    rw [List.range_succ]
    simp only [List.count_append] at h₁ h₂ ⊢
    omega
  ordered := h.ordered
  ran_lt := by
    intro p hp id' e he harmed hdue
    simp only [Agenda.schedule_eq, Table.get?_put] at he
    split at he
    next => cases he; exact h.ran_lt_next hp
    next => exact h.ran_lt p hp id' e he harmed hdue

theorem cancel (h : l.Sound) (id : Nat) :
    Sound ⟨(l.agenda.cancel id).1, l.ran, l.dropped ++ l.agenda.waitingAt id⟩ where
  valid := h.valid.erase id
  tickets := by
    have hcancel := l.agenda.waiting_perm_cancel id
    refine List.perm_iff_count.2 fun ticket => ?_
    have h₁ := hcancel.count_eq ticket
    have h₂ := h.tickets.count_eq ticket
    change List.count ticket (List.range l.agenda.nextTicket) = _
    simp only [List.count_append] at h₁ h₂ ⊢
    omega
  ordered := h.ordered
  ran_lt := by
    intro p hp id' e he harmed hdue
    simp only [Agenda.cancel, Table.get?_erase] at he
    split at he
    next => cases he
    next => exact h.ran_lt p hp id' e he harmed hdue

/-- The task that runs is the first that waits, so those left behind it come later. -/
theorem run (h : l.Sound) {now id : Nat} {e : Agenda.Entry}
    (hready : l.agenda.ready? now = some (id, e)) :
    Sound ⟨l.agenda.run id e, l.ran ++ [(id, e)], l.dropped⟩ := by
  obtain ⟨he, harmed, -, hleast⟩ := (Agenda.ready?_eq_some_iff h.valid now id e).1 hready
  have hwaits : ∀ id' e', (l.agenda.run id e).entries.get? id' = some e' → e'.armed = true →
      id ≠ id' ∧ l.agenda.entries.get? id' = some e' := by
    intro id' e' he' harmed'
    unfold Agenda.run at he'
    by_cases hid : id = id'
    · subst hid
      split at he'
      · rw [Table.get?_put_self] at he'
        cases he'
        cases harmed'
      · rw [Table.get?_erase, if_pos rfl] at he'
        cases he'
    · refine ⟨hid, ?_⟩
      split at he'
      · rwa [Table.get?_put, if_neg hid] at he'
      · rwa [Table.get?_erase, if_neg hid] at he'
  refine ⟨h.valid.run he, ?_, ?_, ?_⟩
  · have hrun := Agenda.waiting_perm_run he harmed
    refine List.perm_iff_count.2 fun ticket => ?_
    have h₁ := hrun.count_eq ticket
    have h₂ := h.tickets.count_eq ticket
    change List.count ticket (List.range l.agenda.nextTicket) = _
    simp only [List.map_append, List.map_cons, List.map_nil, List.count_append] at h₁ h₂ ⊢
    omega
  · refine List.pairwise_append.2 ⟨h.ordered, List.pairwise_singleton _ _, ?_⟩
    intro p hp q hq
    rw [List.mem_singleton.1 hq]
    exact h.ran_lt p hp id e he harmed
  · intro p hp id' e' he' harmed' hdue
    obtain ⟨hid, hold⟩ := hwaits id' e' he' harmed'
    rcases List.mem_append.1 hp with hp | hp
    · exact h.ran_lt p hp id' e' hold harmed' hdue
    · rw [List.mem_singleton.1 hp] at hdue ⊢
      have hrank := (e.rank_le_iff e').1 (hleast id' e' hold harmed')
      have hticket : e.ticket ≠ e'.ticket := fun heq =>
        hid (h.valid.ticket_inj id id' e e' he hold heq)
      simp only at hdue ⊢
      omega

theorem enter (h : l.Sound) (c : Scheduler.Call) : (l.enter c).Sound := by
  cases c with
  | schedule now id delay repeats =>
      simpa [Ledger.enter, Agenda.answer, runs, drops] using h.schedule now id delay repeats
  | cancel id => simpa [Ledger.enter, Agenda.answer, runs, drops] using h.cancel id
  | reschedule now id =>
      rcases l.agenda.reschedule_eq now id with heq | ⟨interval, heq⟩
      · simpa [Ledger.enter, Agenda.answer, runs, drops, heq] using h
      · simpa [Ledger.enter, Agenda.answer, runs, drops, heq] using h.schedule now id interval true
  | popReady now =>
      simp only [Ledger.enter, Agenda.answer, Agenda.popReady, runs, drops, List.append_nil]
      cases hready : l.agenda.ready? now with
      | none => simpa using h
      | some first => exact h.run hready
  | nextDeadline => simpa [Ledger.enter, Agenda.answer, runs, drops] using h
  | isScheduled id => simpa [Ledger.enter, Agenda.answer, runs, drops] using h
  | size => simpa [Ledger.enter, Agenda.answer, runs, drops] using h

end Sound

theorem sound_after (calls : List Scheduler.Call) {l : Ledger} (h : l.Sound) :
    (l.after calls).Sound := by
  induction calls generalizing l with
  | nil => exact h
  | cons c calls ih => exact ih (h.enter c)

end Ledger

/-! ### What the scheduler's answers say -/

namespace Scheduler

/-- The task that an answer hands out. -/
def Answer.task? : Answer → Option ReadyTask
  | .task task? => task?
  | _ => none

end Scheduler

/-- The tasks that an agenda hands out are those that the ledger says ran. -/
theorem Ledger.ran_after (l : Ledger) (calls : List Scheduler.Call) :
    (l.after calls).ran.map (fun p => ReadyTask.mk p.1 p.2.repeats)
      = l.ran.map (fun p => ReadyTask.mk p.1 p.2.repeats)
        ++ (l.agenda.answers calls).filterMap Scheduler.Answer.task? := by
  induction calls generalizing l with
  | nil => simp [after, Agenda.answers]
  | cons c calls ih =>
      have hstep : (l.runs c).map (fun p => ReadyTask.mk p.1 p.2.repeats)
          = (Scheduler.Answer.task? (l.agenda.answer c).2).toList := by
        cases c with
        | popReady now =>
            simp only [runs, Agenda.answer, Agenda.popReady, Scheduler.Answer.task?]
            cases l.agenda.ready? now with
            | none => rfl
            | some first => rfl
        | schedule now id delay repeats => rfl
        | cancel id => rfl
        | reschedule now id => rfl
        | nextDeadline => rfl
        | isScheduled id => rfl
        | size => rfl
      rw [show l.after (c :: calls) = (l.enter c).after calls from rfl, ih (l.enter c)]
      simp only [enter, List.map_append, hstep, List.append_assoc, Agenda.answers]
      congr 1
      rw [List.filterMap_cons]
      cases Scheduler.Answer.task? (l.agenda.answer c).2 with
      | none => rfl
      | some task => rfl

/-- A scheduler answers every list of calls as the agenda.  The agenda hands out no task exactly if none
that waits is due, and otherwise the one that waits with the least due time and ticket.  The tasks
handed out are those of the ledger, where every ticket waits, ran or was dropped, once, and tasks due
at one time ran in the order in which they were scheduled. -/
theorem Scheduler.answers_as_agenda (calls : List Scheduler.Call) :
    let l := Ledger.empty.after calls
    Scheduler.empty.answers calls = Agenda.empty.answers calls ∧
    l.agenda = Agenda.empty.after calls ∧
    (∀ now, (l.agenda.popReady now).2 = none ↔
      ∀ id e, l.agenda.entries.get? id = some e → e.armed = true → now < e.due) ∧
    (∀ now id e, l.agenda.ready? now = some (id, e) ↔
      l.agenda.entries.get? id = some e ∧ e.armed = true ∧ e.due ≤ now ∧
        ∀ id' e', l.agenda.entries.get? id' = some e' → e'.armed = true → e.rank ≤ e'.rank) ∧
    (Scheduler.empty.answers calls).filterMap Answer.task?
      = l.ran.map (fun p => ReadyTask.mk p.1 p.2.repeats) ∧
    (List.range l.agenda.nextTicket).Perm
      (l.agenda.waiting ++ (l.ran.map (·.2.ticket) ++ l.dropped)) ∧
    l.ran.Pairwise fun p q => p.2.due = q.2.due → p.2.ticket < q.2.ticket := by
  intro l
  have hsound : l.Sound := Ledger.sound_after calls Ledger.sound_empty
  have hanswers := answers_eq calls refines_empty
  refine ⟨hanswers, Ledger.agenda_after _ calls, ?_, ?_, ?_, hsound.tickets, hsound.ordered⟩
  · intro now
    rw [← Agenda.ready?_eq_none_iff, Agenda.popReady]
    cases l.agenda.ready? now with
    | none => simp
    | some first => simp
  · exact Agenda.ready?_eq_some_iff hsound.valid
  · rw [hanswers]
    exact (Ledger.ran_after Ledger.empty calls).symm

end NotebookEngine
