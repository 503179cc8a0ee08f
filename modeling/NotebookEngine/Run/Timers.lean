/-
**Timers and tasks.**

A timer is an operation of the host with a task that is scheduled for it, and a function that the task
calls.  The host knows the operation and the task; the function is kept under the operation's number.

Main definitions:

* `Callbacks` — the functions that wait for their tasks;
* `Callbacks.begin`, `Callbacks.cancel`, `Callbacks.post` — timers and single tasks;
* `Callbacks.take` — the function of a task that runs.
-/

import NotebookEngine.Run.Host

set_option autoImplicit false

namespace NotebookEngine

/-- The functions that wait for their tasks. -/
structure Callbacks (α : Type) where
  /-- The functions, by the operations of their tasks, in the order in which they were put in. -/
  functions : List (Nat × α)
  /-- The operations whose tasks repeat. -/
  repeating : List Nat
  deriving Inhabited

namespace Callbacks

variable {α : Type}

/-- No functions. -/
def empty : Callbacks α := ⟨[], []⟩

/-- The function that waits for a task. -/
def find? (c : Callbacks α) (id : Nat) : Option α := (c.functions.find? fun e => e.1 = id).map Prod.snd

/-- Whether a function waits for a task. -/
def contains (c : Callbacks α) (id : Nat) : Bool := c.functions.any fun e => e.1 = id

/-- Let a function wait for a task; it takes the place of one that does already. -/
def put (c : Callbacks α) (id : Nat) (f : α) : Callbacks α :=
  if c.contains id then
    { c with functions := c.functions.map fun e => if e.1 = id then (id, f) else e }
  else { c with functions := c.functions ++ [(id, f)] }

/-- Forget the function that waits for a task. -/
def erase (c : Callbacks α) (id : Nat) : Callbacks α :=
  { c with functions := c.functions.filter fun e => e.1 ≠ id }

/-- Note that a task repeats. -/
def markRepeating (c : Callbacks α) (id : Nat) : Callbacks α :=
  if c.repeating.contains id then c else { c with repeating := c.repeating ++ [id] }

/-- Begin a timer: its operation, whose function waits. The task is not scheduled yet. -/
def begin (c : Callbacks α) (h : Host) (kind : String) (repeats : Bool) (f : Nat → α) :
    Nat × Callbacks α × Host :=
  let (id, h) := h.beginOperation kind
  let c := c.put id (f id)
  (id, if repeats then c.markRepeating id else c, h)

/-- Cancel a timer, if its function still waits. -/
def cancel (c : Callbacks α) (h : Host) (id : Nat) : Callbacks α × Host :=
  if c.contains id then
    let c := c.erase id
    ({ c with repeating := c.repeating.filter (· ≠ id) }, h.cancel id)
  else (c, h)

/-- Schedule a single task for an operation that has begun already. -/
def post (c : Callbacks α) (h : Host) (now id : Nat) (f : α) : Callbacks α × Host :=
  (c.put id f, h.schedule now id 0 false)

/-- The function of a task that runs; unless the task repeats, the function no longer waits. -/
def take (c : Callbacks α) (id : Nat) : Option α × Callbacks α :=
  match c.find? id with
  | none => (none, c)
  | some f => (some f, if c.repeating.contains id then c else c.erase id)

end Callbacks

end NotebookEngine
