/-
**The queue of tasks that are due later.**

Tasks run in the order of their due times; tasks due at one time in the order in which they were
scheduled.  Cancelling or rescheduling a task leaves its old place in the queue behind; such a place is
recognised by its ticket and passed over.

Main definitions:

* `Scheduler` — the queue and the registered tasks;
* `Scheduler.schedule`, `Scheduler.cancel`, `Scheduler.reschedule` — registering tasks;
* `Scheduler.popReady` — the next task that is due.
-/

import NotebookEngine.Data.Table

set_option autoImplicit false

namespace NotebookEngine

/-! ### Times -/

/-- The last moment that the clock can show, in nanoseconds. -/
def lastMoment : Nat := (Nat.pow 2 63 - 1) * 1000000000 + 999999999

/-- The moment when a task is due; a delay beyond the end of time makes it due at once. -/
def dueTime (now delay : Nat) : Nat := if now + delay ≤ lastMoment then now + delay else now

/-! ### Queues -/

/-- A place in the queue. -/
structure Scheduler.Place where
  due : Nat
  ticket : Nat
  id : Nat
  deriving DecidableEq, Inhabited

/-- Whether one place comes before another. -/
def Scheduler.Place.before (p q : Scheduler.Place) : Bool :=
  p.due < q.due || (p.due = q.due && p.ticket < q.ticket)

/-- A registered task: the ticket of its valid place, and the interval of a task that repeats. -/
structure Scheduler.Task where
  ticket : Nat
  interval? : Option Nat
  deriving DecidableEq, Inhabited

/-- The tasks of a run. -/
structure Scheduler where
  /-- The places in order, some of them left behind. -/
  queue : List Scheduler.Place
  /-- The registered tasks. -/
  tasks : Table Scheduler.Task
  nextTicket : Nat
  deriving Inhabited

/-- A task that is due. -/
structure ReadyTask where
  id : Nat
  /-- Whether the task stays registered and is to be scheduled again. -/
  repeats : Bool
  deriving DecidableEq, Inhabited

namespace Scheduler

/-- The queue without tasks. -/
def empty : Scheduler := ⟨[], .empty, 0⟩

/-- The queue with one more place. -/
def enqueue (p : Place) : List Place → List Place
  | [] => [p]
  | q :: qs => if p.before q then p :: q :: qs else q :: enqueue p qs

/-- Register a task at the moment `now`, in place of what was registered under its number. -/
def schedule (s : Scheduler) (now id delay : Nat) (repeats : Bool) : Scheduler :=
  { queue := enqueue ⟨dueTime now delay, s.nextTicket, id⟩ s.queue
    tasks := s.tasks.put id ⟨s.nextTicket, if repeats then some delay else none⟩
    nextTicket := s.nextTicket + 1 }

/-- Whether a task is registered. -/
def isScheduled (s : Scheduler) (id : Nat) : Bool := s.tasks.contains id

/-- Unregister a task; whether there was one. -/
def cancel (s : Scheduler) (id : Nat) : Scheduler × Bool :=
  ({ s with tasks := s.tasks.erase id }, s.isScheduled id)

/-- Whether a place was left behind. -/
def isStale (s : Scheduler) (p : Place) : Bool :=
  match s.tasks.get? p.id with
  | some task => task.ticket ≠ p.ticket
  | none => true

/-- The queue from its first valid place on. -/
def liveQueue (s : Scheduler) : List Place := s.queue.dropWhile s.isStale

/-- The next task that is due at the moment `now`. A task that does not repeat is unregistered. -/
def popReady (s : Scheduler) (now : Nat) : Scheduler × Option ReadyTask :=
  match s.liveQueue with
  | [] => ({ s with queue := [] }, none)
  | p :: rest =>
    if now < p.due then ({ s with queue := p :: rest }, none)
    else
      let repeats := match s.tasks.get? p.id with
        | some task => task.interval?.isSome
        | none => false
      ({ s with queue := rest, tasks := if repeats then s.tasks else s.tasks.erase p.id },
        some ⟨p.id, repeats⟩)

/-- Schedule the next run of a task that repeats; whether it is still registered. -/
def reschedule (s : Scheduler) (now id : Nat) : Scheduler × Bool :=
  match (s.tasks.get? id).bind Task.interval? with
  | none => (s, false)
  | some interval => (s.schedule now id interval true, true)

/-- The moment when the next task is due. -/
def nextDeadline (s : Scheduler) : Option Nat := s.liveQueue.head?.map Place.due

/-- The number of registered tasks. -/
def size (s : Scheduler) : Nat := s.tasks.size

end Scheduler

end NotebookEngine
