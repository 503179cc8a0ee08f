/-
**Driving a run to its end.**

A running program goes on by itself only as far as its jobs reach.  The driver lets it settle, hands out
what its host has to tell, ends the cells that have drained, and then runs the next task that is due.
When nothing is due it waits for the next task; when nothing will ever be due, the run has stalled and is
ended.  No round follows once its program cannot be driven on.

What runs is left open: anything that keeps a host and has jobs and tasks can be driven.

Main definitions:

* `Guest`, `Runner` — what the driver needs of a running program, and how one is started;
* `Notice`, `Session` — what a run's owner gets to see, and a run in progress;
* `Session.flush`, `Session.settle` — handing out events, and running jobs;
* `Session.turn`, `Session.drive` — one round, and all of them.
-/

import NotebookEngine.Files.Tree
import NotebookEngine.Run.Host

set_option autoImplicit false

namespace NotebookEngine

/-- What the driver needs of a running program. -/
structure Guest (σ : Type) where
  /-- Do something with the program's host. -/
  onHost : {α : Type} → (Host → α × Host) → σ → α × σ
  /-- The time on the program's clock, in nanoseconds. -/
  clock : σ → Nat
  /-- Let the clock go on to a moment. -/
  waitUntil : Nat → σ → σ
  /-- Run the next job, if there is one: whether there was, and what it failed with. -/
  job : σ → (Bool × Option (String × String)) × σ
  /-- Take the messages and traces of what was rejected without being handled. -/
  takeRejections : σ → List (String × String) × σ
  /-- Run the function that waits for a task. -/
  task : Nat → σ → σ
  /-- Capture the variables of a cell. -/
  capture : Nat → σ → σ
  /-- Why the program cannot be driven on, if it cannot. -/
  fault? : σ → Option String := fun _ => none

/-- What runs a notebook's program, and how it starts. -/
structure Runner (σ : Type) where
  guest : Guest σ
  /-- Before the program runs: its host, and the files that it can read. -/
  start : Host → FileTree → σ
  /-- Read the program of all cells and start it, given its text, its file and its directory. -/
  launch : String → String → String → σ → σ
  /-- The files as they are. -/
  files : σ → FileTree

/-- What a run's owner gets to see. -/
inductive Notice where
  | event (e : Event)
  /-- Text that passed through to a stream. -/
  | passed (channel : Channel) (text : String)
  | warning (text : String)
  deriving Inhabited

/-- Something that a run's owner gets to see, and the time on the program's clock. -/
structure Notice.Timed where
  moment : Nat
  notice : Notice
  deriving Inhabited

/-- A run in progress, with what its owner has seen so far. -/
structure Session (σ : Type) where
  state : σ
  notices : Array Notice.Timed

namespace Session

variable {σ : Type}

/-! ### The host -/

/-- Do something with the host. -/
def ask {α : Type} (g : Guest σ) (f : Host → α × Host) (x : Session σ) : α × Session σ :=
  let ⟨state, notices⟩ := x
  let (a, state) := g.onHost f state
  (a, ⟨state, notices⟩)

/-- Change the host. -/
def tell (g : Guest σ) (f : Host → Host) (x : Session σ) : Session σ :=
  (x.ask g fun h => ((), f h)).2

/-- Let the program do something. -/
def change (f : σ → σ) (x : Session σ) : Session σ := { x with state := f x.state }

/-- Show something to the owner of the run. -/
def tellOwner (g : Guest σ) (news : List Notice) (x : Session σ) : Session σ :=
  let moment := g.clock x.state
  { x with notices := news.foldl (fun ns n => ns.push ⟨moment, n⟩) x.notices }

/-! ### Handing out events -/

/-- The texts that have passed through a stream, as notices. -/
def passedNotices (channel : Channel) (text : String) : List Notice :=
  if text.isEmpty then [] else [.passed channel text]

/-- An event as a notice, after the warning that belongs to it. -/
def eventNotices (limit : Nat) (e : Event) : List Notice :=
  match e with
  | .capped => [.warning ("Output capped after " ++ toString limit ++ " outputs"), .event e]
  | e => [.event e]

/-- Hand out what the host has to tell. -/
def flush (g : Guest σ) (x : Session σ) : Session σ :=
  let ((events, (output, errors), limit), x) := x.ask g fun h =>
    let (events, h) := h.takeEvents
    let (passed, streams) := h.streams.take
    ((events, passed, h.settings.maxOutputs), { h with streams })
  x.tellOwner g (passedNotices .output output ++ passedNotices .error errors ++
    events.flatMap (eventNotices limit))

/-- Whether the run is over. -/
def isFinished (g : Guest σ) (x : Session σ) : Bool × Session σ := x.ask g fun h => (h.finished, h)

/-- Whether the program cannot be driven on. -/
def isStuck (g : Guest σ) (x : Session σ) : Bool := (g.fault? x.state).isSome

/-! ### Jobs -/

/-- Run the jobs that wait, and those that come up meanwhile. -/
def runJobs (g : Guest σ) : Nat → Session σ → Session σ
  | 0, x => x
  | fuel + 1, ⟨state, notices⟩ =>
    match g.job state with
    | ((false, _), state) => ⟨state, notices⟩
    | ((true, none), state) => runJobs g fuel ⟨state, notices⟩
    | ((true, some (message, stack)), state) =>
      let x : Session σ := ⟨state, notices⟩
      let x := x.tellOwner g [.warning ("Promise job failed: " ++ message)]
      runJobs g fuel (x.tell g fun h => h.fail none message stack)

/-- A bound on the number of rounds and jobs that no run meets. -/
def roundLimit : Nat := Nat.pow 2 62

/-- Run all jobs; what was rejected and still is not handled fails the run. -/
def settle (g : Guest σ) (x : Session σ) : Session σ :=
  let ⟨state, notices⟩ := x.runJobs g roundLimit
  let (rejections, state) := g.takeRejections state
  rejections.foldl (fun x (message, stack) => x.tell g fun h => h.fail none message stack)
    ⟨state, notices⟩

/-! ### Cells and tasks -/

/-- End a cell that has drained; its variables are captured once more. -/
def endCell (g : Guest σ) (i : Nat) (x : Session σ) : Session σ :=
  if x.isStuck g then x
  else
    let x := x.change (g.capture i)
    if x.isStuck g then x else x.tell g fun h => h.cellEnded i

/-- End the cells that have drained. -/
def endCells (g : Guest σ) (x : Session σ) : Session σ :=
  let (newly, x) := x.ask g Host.pollDrained
  let x := newly.foldl (fun x i => x.endCell g i) x
  if x.isStuck g then x else x.tell g fun h => if h.isDone then h.finish else h

/-- Run a task under its operation. -/
def runTask (g : Guest σ) (task : ReadyTask) (x : Session σ) : Session σ :=
  let x := x.tell g fun h => h.setCurrent task.id
  let x := x.change (g.task task.id)
  if x.isStuck g then x
  else
    let x := x.settle g
    let now := g.clock x.state
    x.tell g fun h =>
      let (scheduler, again) :=
        if task.repeats then h.scheduler.reschedule now task.id else (h.scheduler, false)
      let h := { h with scheduler }
      (if again then h else h.endOperation task.id).setCurrent rootOperation

/-- The run has stalled: it ends with a warning. -/
def stall (g : Guest σ) (x : Session σ) : Session σ :=
  let (dump, x) := x.ask g fun h => (h.dump, h)
  let warning :=
    "Evaluation stalled with no pending work; finishing. Remaining operations:\n" ++ dump
  (x.tellOwner g [.warning warning]).tell g Host.finish

/-- Run the next task that is due, or wait for it. -/
def next (g : Guest σ) (x : Session σ) : Session σ :=
  let now := g.clock x.state
  let (ready?, x) := x.ask g fun h =>
    let (scheduler, ready?) := h.scheduler.popReady now
    (ready?, { h with scheduler })
  match ready? with
  | some task => x.runTask g task
  | none =>
    let ((deadline?, limit?), x) := x.ask g fun h =>
      ((h.scheduler.nextDeadline, h.settings.maxStall?), h)
    match deadline?, limit? with
    | some deadline, some limit =>
      if deadline - now > limit * 1000000 then x.stall g else x.change (g.waitUntil deadline)
    | some deadline, none => x.change (g.waitUntil deadline)
    | none, _ => x.stall g

/-! ### Rounds -/

/-- One round: whether it was the last, and the run after it. It is the last one when the run is over or
its program cannot be driven on. -/
def turn (g : Guest σ) (x : Session σ) : Bool × Session σ :=
  match ((x.settle g).flush g).isFinished g with
  | (true, x) => (true, x)
  | (false, x) =>
    let x := x.endCells g
    if x.isStuck g then (true, x)
    else
      match (x.flush g).isFinished g with
      | (true, x) => (true, x)
      | (false, x) =>
        let x := x.next g
        (x.isStuck g, x)

/-- Rounds until the last one, but no more than a number of them. -/
def rounds (g : Guest σ) : Nat → Session σ → Session σ
  | 0, x => x
  | n + 1, x =>
    match x.turn g with
    | (true, x) => x
    | (false, x) => rounds g n x

/-- Drive a run until it is over, or cannot be driven on. -/
def drive (g : Guest σ) (x : Session σ) : Session σ := x.rounds g roundLimit

end Session

end NotebookEngine
