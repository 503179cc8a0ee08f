/-
**Asynchronous operations and the cells they belong to.**

Every timer, immediate and continuation is an operation.  It is created while another operation runs,
its trigger, and belongs to the cell that its triggers lead back to.  A cell has drained when none of
its operations is in flight.  Completed operations stay known, so that what they triggered later still
finds its cell.

Main definitions:

* `Operation`, `Tracker` — the operations of a run;
* `Tracker.findCell` — the cell of an operation;
* `Tracker.created`, `Tracker.completed` — the two signals;
* `Tracker.isDrained` — whether a cell has no operation in flight;
* `NullTracker` — what takes the place of a tracker where nothing is to be tracked.
-/

import NotebookEngine.Data.Table

set_option autoImplicit false

namespace NotebookEngine

/-! ### Operations -/

/-- How far an operation has come. -/
inductive OperationStatus where
  | inFlight
  | completed
  deriving DecidableEq, Inhabited

/-- The word for a status. -/
def OperationStatus.word : OperationStatus → String
  | .inFlight => "in-flight"
  | .completed => "completed"

/-- An operation that is tracked. -/
structure Operation where
  id : Nat
  /-- What kind of work it is. -/
  kind : String
  /-- The operation that was running when this one was created. -/
  trigger : Nat
  status : OperationStatus
  /-- The cell that the operation belongs to. -/
  cell : Nat
  /-- The operations that this one triggered, in order. -/
  children : List Nat
  deriving DecidableEq, Inhabited

/-- The kind of the scopes in which cells run; a scope is never counted. -/
def scopeKind : String := "__async_context"

/-- The kind of native sockets, whose end is never seen. -/
def socketKind : String := "TLSWRAP"

/-- Whether operations of a kind are left out of account. -/
def isUncounted (kind : String) : Bool := kind = socketKind || kind = scopeKind

/-! ### Trackers -/

/-- The operations of a run. -/
structure Tracker where
  /-- The operations in flight. -/
  current : Table Unit
  /-- Every operation that was ever tracked. -/
  operations : Table Operation
  /-- The operations whose trigger is not tracked itself, in order. -/
  roots : List Nat
  /-- The cells that operations are bound to. -/
  bindings : Table Nat
  /-- The number of operations in flight of each cell. -/
  counts : Table Int
  /-- Whether signals are heeded. -/
  tracking : Bool
  deriving Inhabited

namespace Tracker

/-- A tracker that has seen nothing. -/
def new : Tracker := ⟨.empty, .empty, [], .empty, .empty, false⟩

/-- Begin to heed signals. -/
def start (t : Tracker) : Tracker := { t with tracking := true }

/-- Heed signals no longer. -/
def stop (t : Tracker) : Tracker := { t with tracking := false }

/-- Bind an operation to a cell. -/
def bind (t : Tracker) (id cell : Nat) : Tracker := { t with bindings := t.bindings.put id cell }

/-! ### Questions -/

/-- The cell of an operation, following at most `n` triggers. -/
def findCellFrom (t : Tracker) : Nat → Nat → Option Nat
  | 0, _ => none
  | n + 1, id =>
    match t.bindings.get? id with
    | some cell => some cell
    | none =>
      match t.operations.get? id with
      | none => none
      | some op => if op.trigger = id then none else t.findCellFrom n op.trigger

/-- The cell that an operation belongs to. -/
def findCell (t : Tracker) (id : Nat) : Option Nat := t.findCellFrom (t.operations.size + 1) id

/-- The number of operations of a cell that are in flight. -/
def count (t : Tracker) (cell : Nat) : Int := (t.counts.get? cell).getD 0

/-- Whether a cell has no operation in flight. -/
def isDrained (t : Tracker) (cell : Nat) : Bool := t.count cell ≤ 0

/-- The number of operations in flight. -/
def inFlight (t : Tracker) : Nat := t.current.size

/-- Whether an operation was ever tracked. -/
def knows (t : Tracker) (id : Nat) : Bool := t.operations.contains id

/-! ### Signals -/

/-- The tracker after an operation of a cell was recorded. -/
def record (t : Tracker) (id : Nat) (kind : String) (trigger cell : Nat) : Tracker :=
  let withParent :=
    match t.operations.get? trigger with
    | some parent =>
      { t with
        operations := t.operations.put trigger { parent with children := parent.children ++ [id] } }
    | none => { t with roots := t.roots ++ [id] }
  { withParent with
    operations := withParent.operations.put id ⟨id, kind, trigger, .inFlight, cell, []⟩
    current := t.current.put id ()
    bindings := t.bindings.put id cell
    counts := t.counts.put cell (t.count cell + 1) }

/-- An operation was created while `trigger` was running. -/
def created (t : Tracker) (id : Nat) (kind : String) (trigger : Nat) : Tracker :=
  if !t.tracking || isUncounted kind then t
  else
    match t.findCell trigger with
    | none => t
    | some cell => t.record id kind trigger cell

/-- An operation has come to its end. -/
def completed (t : Tracker) (id : Nat) : Tracker :=
  if !t.tracking || !t.current.contains id then t
  else
    let t :=
      { t with
        current := t.current.erase id
        operations := t.operations.modify id fun op => { op with status := .completed } }
    match t.findCell id with
    | none => t
    | some cell => { t with counts := t.counts.modify cell (· - 1) }

end Tracker

/-! ### Tracking nothing -/

/-- What takes the place of a tracker where nothing is to be tracked: it is told and asked the same, heeds
no signal, and takes every cell for drained. -/
structure NullTracker where
  deriving DecidableEq, Inhabited

namespace NullTracker

def start (t : NullTracker) : NullTracker := t

def stop (t : NullTracker) : NullTracker := t

def bind (t : NullTracker) (_id _cell : Nat) : NullTracker := t

def created (t : NullTracker) (_id : Nat) (_kind : String) (_trigger : Nat) : NullTracker := t

def completed (t : NullTracker) (_id : Nat) : NullTracker := t

def tracking (_ : NullTracker) : Bool := false

def findCell (_ : NullTracker) (_id : Nat) : Option Nat := none

def count (_ : NullTracker) (_cell : Nat) : Int := 0

/-- Every cell has drained. -/
def isDrained (_ : NullTracker) (_cell : Nat) : Bool := true

def inFlight (_ : NullTracker) : Nat := 0

def knows (_ : NullTracker) (_id : Nat) : Bool := false

/-- There is nothing to be shown. -/
def dump (_ : NullTracker) : String := ""

end NullTracker

end NotebookEngine
