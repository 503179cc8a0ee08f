/-
**The host side of a run.**

The running program tells its host what it does: it enters and leaves cells, begins and ends
operations, schedules tasks, writes output, fails.  The host keeps account and queues the events that
the owner of the run is to be told about.

Main definitions:

* `Settings`, `Event`, `Host` — the limits of a run, what it tells, and its state;
* `Host.beginOperation`, `Host.endOperation`, `Host.schedule`, `Host.cancel` — operations;
* `Host.enterCell`, `Host.leaveCell`, `Host.pollDrained` — cells;
* `Host.write`, `Host.display`, `Host.captureLocals` — output;
* `Host.report`, `Host.fail`, `Host.finish` — errors and the end.
-/

import NotebookEngine.Tracking.Snapshot
import NotebookEngine.Schedule.Scheduler
import NotebookEngine.Schedule.Delay
import NotebookEngine.Output.Ansi
import NotebookEngine.Output.Streams
import NotebookEngine.Stack.CellPlaces
import NotebookEngine.Json.Reader

set_option autoImplicit false

namespace NotebookEngine

/-! ### Settings and events -/

/-- The limits of a run. -/
structure Settings where
  /-- The number of outputs that are shown. -/
  maxOutputs : Nat
  /-- Whether output also passes through to the process. -/
  echo : Bool
  /-- The milliseconds without progress after which a run is given up. -/
  maxStall? : Option Nat
  deriving DecidableEq, Inhabited

/-- The settings of a run that asks for none. -/
def Settings.default : Settings := ⟨1000, false, none⟩

/-- What the owner of a run is told. -/
inductive Event where
  | started (cell : String)
  | ended (cell : String)
  | display (cell : String) (kind? : Option String) (data : Json)
  | error (cell text : String)
  | capped
  | completed
  deriving Inhabited

/-- The operation that is current while no task or cell runs. -/
def rootOperation : Nat := 1

/-! ### The state -/

/-- The state of a run. -/
structure Host where
  settings : Settings
  /-- The maps that take error places back to cells. -/
  places : CellPlaces
  /-- The identities of the code cells. -/
  cells : List String
  started : List Bool
  drained : List Bool
  tracker : Tracker
  scheduler : Scheduler
  /-- The number that the next operation gets. -/
  nextOperation : Nat
  /-- The operation that runs. -/
  current : Nat
  /-- The operations to return to when cells are left. -/
  saved : List Nat
  /-- Whether the run holds the streams. -/
  holdsStreams : Bool
  streams : Streams
  outputs : Nat
  capped : Bool
  /-- Whether the text of the program has run to its end. -/
  textEnded : Bool
  finished : Bool
  environment : List (String × Json)
  /-- The events that were not taken yet. -/
  events : List Event
  errors : Nat
  deriving Inhabited

namespace Host

/-- The state before a run. -/
def new (settings : Settings) (file : String) : Host :=
  { settings := settings, places := ⟨file, none, none⟩, cells := [], started := [],
    drained := [], tracker := .new, scheduler := .empty, nextOperation := rootOperation + 1,
    current := rootOperation, saved := [], holdsStreams := false, streams := .fresh, outputs := 0,
    capped := false, textEnded := false, finished := false, environment := [], events := [],
    errors := 0 }

/-- Queue an event. -/
def tell (h : Host) (e : Event) : Host := { h with events := h.events ++ [e] }

/-- Name the code cells of the notebook. -/
def setCells (h : Host) (ids : List String) : Host :=
  { h with
    cells := ids
    started := List.replicate ids.length false
    drained := List.replicate ids.length false }

/-- Set the maps that take places back to cells. -/
def setMaps (h : Host) (generated? compiled? : Option SourceMap) : Host :=
  { h with places := { h.places with generated? := generated?, compiled? := compiled? } }

/-- Hold the streams and begin to track. Streams that were held already end up released. -/
def begin (h : Host) : Host :=
  let streams := h.streams.acquire
  { h with
    streams := if h.holdsStreams then streams.release else streams
    holdsStreams := true
    tracker := h.tracker.start }

/-- Take the queued events. -/
def takeEvents (h : Host) : List Event × Host := (h.events, { h with events := [] })

/-- Take the captured variables. -/
def takeEnvironment (h : Host) : List (String × Json) × Host :=
  (h.environment, { h with environment := [] })

/-- The cell that the current operation belongs to; the first cell if it belongs to none. -/
def currentCell (h : Host) : Option String := h.cells[(h.tracker.findCell h.current).getD 0]?

/-! ### Operations -/

/-- Begin an operation of a kind; its number. -/
def beginOperation (h : Host) (kind : String) : Nat × Host :=
  let id := h.nextOperation
  (id, { h with nextOperation := id + 1, tracker := h.tracker.created id kind h.current })

/-- End an operation. -/
def endOperation (h : Host) (id : Nat) : Host := { h with tracker := h.tracker.completed id }

/-- Schedule a task, unless the run is over. -/
def schedule (h : Host) (now id : Nat) (delay : Float) (repeats : Bool) : Host :=
  if h.finished then h
  else { h with scheduler := h.scheduler.schedule now id (Delay.ofMillis delay) repeats }

/-- Cancel a task and end its operation. -/
def cancel (h : Host) (id : Nat) : Host :=
  { h with scheduler := (h.scheduler.cancel id).1, tracker := h.tracker.completed id }

/-- Make another operation current. -/
def setCurrent (h : Host) (id : Nat) : Host := { h with current := id }

/-! ### Cells -/

/-- Enter a cell: its scope, or nothing if the cell must not run. -/
def enterCell (h : Host) (index : Nat) : Option Nat × Host :=
  if h.finished then (none, h)
  else
    match h.cells[index]? with
    | none => (none, h)
    | some cell =>
      let scope := h.nextOperation
      let tracker := (h.tracker.created scope scopeKind h.current).bind scope index
      (some scope,
        { h.tell (.started cell) with
          started := h.started.set index true
          nextOperation := scope + 1
          tracker := tracker
          saved := h.current :: h.saved
          current := scope })

/-- Leave a cell's scope, if it is the current one. -/
def leaveCell (h : Host) (scope : Nat) : Host :=
  if h.current = scope then
    { h with current := h.saved.headD rootOperation, saved := h.saved.tail }
  else h

/-- The text of the program has run to its end. -/
def endText (h : Host) : Host := { h with textEnded := true }

/-- Whether a cell has started, was not reported yet, and has no operation in flight. -/
def isNewlyDrained (h : Host) (index : Nat) : Bool :=
  h.started[index]?.getD false && !(h.drained[index]?.getD false) && h.tracker.isDrained index

/-- The cells that have drained since the last time. -/
def pollDrained (h : Host) : List Nat × Host :=
  let newly := (List.range h.cells.length).filter h.isNewlyDrained
  (newly, { h with drained := newly.foldl (fun ds i => ds.set i true) h.drained })

/-- A cell has ended. -/
def cellEnded (h : Host) (index : Nat) : Host :=
  match h.cells[index]? with
  | some cell => h.tell (.ended cell)
  | none => h

/-- Whether the text has ended and every cell has drained. -/
def isDone (h : Host) : Bool := h.textEnded && h.drained.all id

/-! ### Output -/

/-- Ask for one more output: whether it must be dropped. -/
def countOutput (h : Host) : Bool × Host :=
  if h.capped then (true, h)
  else if h.settings.maxOutputs ≤ h.outputs then (true, { h.tell .capped with capped := true })
  else (false, { h with outputs := h.outputs + 1 })

/-- The identity of the current cell, empty if there is none. -/
def currentCellId (h : Host) : String := h.currentCell.getD ""

/-- Let a text pass through to the process. -/
def passThrough (h : Host) (channel : Channel) (text : String) : Host :=
  { h with streams := h.streams.passThrough channel text }

/-- Write a text to a stream. -/
def write (h : Host) (channel : Channel) (text : String) : Host :=
  if !h.streams.captured then h.passThrough channel text
  else
    match h.countOutput with
    | (true, h) => h
    | (false, h) =>
      let h := match channel with
        | .output => h.tell (.display h.currentCellId (some "text") (.str (Ansi.strip text)))
        | .error => h.tell (.error h.currentCellId text)
      if h.settings.echo then h.passThrough channel text else h

/-- Display a value, given as JSON text; a text that is no JSON is shown as it is. -/
def display (h : Host) (json kind : String) : Host :=
  if h.finished then h
  else
    match h.countOutput with
    | (true, h) => h
    | (false, h) =>
      let data := match Json.parse json with
        | .ok v => v
        | .error _ => .str json
      h.tell (.display h.currentCellId (if kind.isEmpty then none else some kind) data)

/-- Record the variables of a cell, given as JSON text; later ones replace earlier ones. -/
def captureLocals (h : Host) (json : String) : Host :=
  match Json.parse json with
  | .ok (.obj fields) =>
    { h with environment := fields.foldl (fun env (k, v) => Json.put k v env) h.environment }
  | _ => h

/-! ### Errors and the end -/

/-- Report an error, unless the run is over. -/
def report (h : Host) (cell? : Option String) (e : RawError) : Host :=
  if h.finished then h
  else
    let current := (CellPlaces.nonempty cell?).or h.currentCell
    let shown := h.places.shown current e
    { h.tell (.error (shown.cell?.getD "") shown.display) with errors := h.errors + 1 }

/-- End the run. Only the first time has any effect. -/
def finish (h : Host) : Host :=
  if h.finished then h
  else
    { h.tell .completed with
      finished := true
      streams := if h.holdsStreams then h.streams.release else h.streams
      holdsStreams := false
      tracker := h.tracker.stop
      scheduler := .empty }

/-- Report an error of the running program and end the run. -/
def fail (h : Host) (cell? : Option String) (message stack : String) : Host :=
  let e : RawError :=
    ⟨CellPlaces.nonempty (some message), none, CellPlaces.nonempty (some stack)⟩
  (h.report cell? e).finish

/-- A picture of the work in flight. -/
def dump (h : Host) : String := h.tracker.dump

end Host

end NotebookEngine
