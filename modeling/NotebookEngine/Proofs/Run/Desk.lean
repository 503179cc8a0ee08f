/-
**A run as far as its timers go.**

What a program computes does not matter to its timers and awaited values, only what it asks for: timers
are started and cleared, values are awaited and settle, and other things are asked of the host.  A desk
holds what these requests are about, the functions that wait on the program's side and the host on the
other.  What the program does with control, each time it is given it, is taken from a script, so that
what holds for every script holds for every program.

Two requests give the program control before they are done: the conversion of a timer's delay to a
number, and the subscription to an awaited value.

Main definitions:

* `Doings` — what a program does while it has control;
* `Desk`, `Doings.run` — what its requests are about, and what they do to it;
* `Desk.guest` — a program that does what a script says, as it is driven;
* `Session.Step`, `Session.steps` — what the driver does between two tasks, and by running one;
* `Desk.InStep` — the agreement of the program's side and the host's side.

Main results:

* `Desk.exists_steps_rounds` — the rounds of the driver are such steps.
-/

import NotebookEngine.Proofs.Run.HostCalls
import NotebookEngine.Run.Drive
import NotebookEngine.Run.Timers

set_option autoImplicit false

namespace NotebookEngine

/-! ### What a program does -/

/-- What a program does while it has control. -/
inductive Doings where
  | done
  /-- Time passes. -/
  | pass (nanoseconds : Nat) (rest : Doings)
  /-- A timer is started; its delay is converted to a number by what the program does meanwhile. -/
  | timer (kind : String) (repeats : Bool) (conversion : Doings) (delay : Float) (rest : Doings)
  /-- The timer that an argument names is cleared; the argument may name none. -/
  | clear (id? : Option Nat) (rest : Doings)
  /-- A value is awaited; what the program does while it is subscribed to may make that fail. -/
  | await (subscription : Doings) (subscribes : Bool) (rest : Doings)
  /-- An awaited value has settled. -/
  | settle (id : Nat) (rest : Doings)
  /-- Something else is asked of the host. -/
  | ask (call : Host.Call) (rest : Doings)

/-- What the requests of a program are about. -/
structure Desk where
  callbacks : Callbacks Unit
  host : Host
  clock : Nat
  /-- What the program does each time it is given control; `none` stands for nothing left to do. -/
  script : List (Option Doings)
  /-- The operations of the timers that were started. -/
  timers : List Nat
  /-- The operations of the values that were awaited. -/
  awaits : List Nat
  /-- Those of them whose values have not settled. -/
  unsettled : List Nat
  /-- Those of them whose values could not be subscribed to. -/
  broken : List Nat
  /-- The timers that were cleared while their own delays were converted. -/
  cutShort : List Nat
  /-- Those of them that repeat. -/
  endless : List Nat

/-- Whether a call of the host is about none of some operations, and about no task. -/
def Host.Call.isApart (mine : List Nat) : Host.Call → Bool
  | .cancel _ | .schedule .. | .popReady _ | .reschedule .. => false
  | .endOperation id => !mine.contains id
  | _ => true

namespace Desk

/-- The kind of the operations that wait for values. -/
def awaitKind : String := "PROMISE"

/-- The desk of a run whose cells are named, at its start. -/
def opened (settings : Settings) (file : String) (cells : List String)
    (script : List (Option Doings)) : Desk where
  callbacks := .empty
  host := ((Host.new settings file).setCells cells).begin
  clock := 0
  script := script
  timers := []
  awaits := []
  unsettled := []
  broken := []
  cutShort := []
  endless := []

/-- Begin a timer, whose task is not scheduled yet. -/
def beginTimer (d : Desk) (kind : String) (repeats : Bool) : Nat × Desk :=
  let (id, callbacks, host) := d.callbacks.begin d.host kind repeats fun _ => ()
  (id, { d with callbacks, host, timers := id :: d.timers })

/-- Schedule the task of a timer. -/
def scheduleTimer (d : Desk) (id : Nat) (delay : Float) (repeats : Bool) : Desk :=
  { d with
    host := d.host.schedule d.clock id delay repeats
    cutShort := if d.callbacks.contains id then d.cutShort else id :: d.cutShort
    endless := if d.callbacks.contains id || !repeats then d.endless else id :: d.endless }

/-- Clear a timer. -/
def clear (d : Desk) (id : Nat) : Desk :=
  let (callbacks, host) := d.callbacks.cancel d.host id
  { d with callbacks, host }

/-- Begin to await a value that is not subscribed to yet. -/
def beginAwait (d : Desk) : Nat × Desk :=
  let (id, host) := d.host.beginOperation awaitKind
  (id, { d with host, awaits := id :: d.awaits })

/-- The outcome of subscribing to an awaited value. -/
def subscribed (d : Desk) (id : Nat) : Bool → Desk
  | true => { d with unsettled := id :: d.unsettled }
  | false => { d with broken := id :: d.broken }

/-- Schedule the continuation of an awaited value that has settled. -/
def settle (d : Desk) (id : Nat) : Desk :=
  if d.unsettled.contains id then
    let (callbacks, host) := d.callbacks.post d.host d.clock id ()
    { d with callbacks, host, unsettled := d.unsettled.filter (· ≠ id) }
  else d

/-- Ask something else of the host. -/
def ask (d : Desk) (c : Host.Call) : Desk :=
  if c.isApart (d.timers ++ d.awaits) then { d with host := d.host.perform c } else d

end Desk

/-- What a program's requests do. -/
def Doings.run : Doings → Desk → Desk
  | .done, d => d
  | .pass nanoseconds rest, d => rest.run { d with clock := d.clock + nanoseconds }
  | .timer kind repeats conversion delay rest, d =>
    let (id, d) := d.beginTimer kind repeats
    rest.run ((conversion.run d).scheduleTimer id delay repeats)
  | .clear id? rest, d =>
    match id? with
    | some id => rest.run (d.clear id)
    | none => rest.run d
  | .await subscription subscribes rest, d =>
    let (id, d) := d.beginAwait
    rest.run ((subscription.run d).subscribed id subscribes)
  | .settle id rest, d => rest.run (d.settle id)
  | .ask call rest, d => rest.run (d.ask call)

namespace Desk

/-! ### A program that is driven -/

/-- Do what the script says next, if it says anything; whether it does. -/
def goOn (d : Desk) : Bool × Desk :=
  match d.script with
  | some p :: script => (true, p.run { d with script })
  | none :: script => (false, { d with script })
  | [] => (false, d)

/-- Run the function that waits for a task. -/
def task (id : Nat) (d : Desk) : Desk :=
  match d.callbacks.take id with
  | (none, callbacks) => { d with callbacks }
  | (some (), callbacks) => { d with callbacks }.goOn.2

/-- A program that does what its script says. -/
def guest : Guest Desk where
  onHost f d :=
    let (a, host) := f d.host
    (a, { d with host })
  clock d := d.clock
  waitUntil moment d := { d with clock := max d.clock moment }
  job d :=
    let (more, d) := d.goOn
    ((more, none), d)
  takeRejections d := ([], d)
  task := task
  capture _ d := d.goOn.2

end Desk

/-! ### What the driver does -/

/-- What the driver does between two tasks, and by running one. -/
inductive Session.Step where
  | settle
  | flush
  | endCells
  | next

namespace Session

variable {σ : Type}

/-- The session after a step of the driver. -/
def step (g : Guest σ) (x : Session σ) : Step → Session σ
  | .settle => x.settle g
  | .flush => x.flush g
  | .endCells => x.endCells g
  | .next => x.next g

/-- The session after a list of steps. -/
def steps (g : Guest σ) (x : Session σ) (l : List Step) : Session σ := l.foldl (step g) x

theorem steps_append (g : Guest σ) (x : Session σ) (l m : List Step) :
    x.steps g (l ++ m) = (x.steps g l).steps g m := List.foldl_append

end Session

@[simp] theorem Session.steps_nil {σ : Type} (g : Guest σ) (x : Session σ) : x.steps g [] = x := rfl

@[simp] theorem Session.steps_cons {σ : Type} (g : Guest σ) (x : Session σ) (s : Session.Step)
    (l : List Session.Step) : x.steps g (s :: l) = (x.step g s).steps g l := rfl

theorem Desk.isFinished_guest (x : Session Desk) :
    x.isFinished Desk.guest = (x.state.host.finished, x) := rfl

theorem Desk.isStuck_guest (x : Session Desk) : x.isStuck Desk.guest = false := rfl

/-- A round of the driver is made of these steps. -/
theorem Desk.exists_steps_turn (x : Session Desk) :
    ∃ l, (x.turn Desk.guest).2 = x.steps Desk.guest l := by
  unfold Session.turn
  split
  next y hy =>
    rw [isFinished_guest] at hy
    obtain ⟨-, rfl⟩ := Prod.mk.inj hy
    exact ⟨[.settle, .flush], by simp [Session.step]⟩
  next y hy =>
    rw [isFinished_guest] at hy
    obtain ⟨-, rfl⟩ := Prod.mk.inj hy
    dsimp only
    rw [isStuck_guest, if_neg Bool.false_ne_true]
    split
    next z hz =>
      rw [isFinished_guest] at hz
      obtain ⟨-, rfl⟩ := Prod.mk.inj hz
      exact ⟨[.settle, .flush, .endCells, .flush], by simp [Session.step]⟩
    next z hz =>
      rw [isFinished_guest] at hz
      obtain ⟨-, rfl⟩ := Prod.mk.inj hz
      exact ⟨[.settle, .flush, .endCells, .flush, .next], by simp [Session.step]⟩

/-- So are all rounds. -/
theorem Desk.exists_steps_rounds (n : Nat) (x : Session Desk) :
    ∃ l, x.rounds Desk.guest n = x.steps Desk.guest l := by
  induction n generalizing x with
  | zero => exact ⟨[], rfl⟩
  | succ n ih =>
      obtain ⟨l, hl⟩ := exists_steps_turn x
      rw [Session.rounds]
      cases hturn : x.turn guest with
      | mk done y =>
          rw [hturn] at hl
          simp only at hl
          cases done with
          | true => exact ⟨l, hl⟩
          | false =>
              obtain ⟨m, hm⟩ := ih y
              exact ⟨l ++ m, by rw [Session.steps_append, ← hl]; exact hm⟩

/-! ### The agreement -/

/-- The program's side and the host's side agree. -/
structure Desk.InStep (d : Desk) : Prop where
  /-- Functions wait for exactly the tasks that are registered. -/
  tasks : ∀ id, d.callbacks.contains id = d.host.scheduler.isScheduled id
  /-- Those are known to repeat whose tasks are registered to repeat. -/
  repeating : ∀ id, id ∈ d.callbacks.repeating ↔
    ∃ task, d.host.scheduler.tasks.get? id = some task ∧ task.interval?.isSome = true
  /-- A timer of a cell is in flight exactly while its function waits. -/
  timers : ∀ id ∈ d.timers, d.host.tracker.knows id = true →
    (d.host.tracker.current.contains id = true ↔ d.callbacks.contains id = true)
  /-- A value awaited in a cell is in flight exactly until it settles, and then while its continuation
  waits. -/
  awaits : ∀ id ∈ d.awaits, d.host.tracker.knows id = true →
    (d.host.tracker.current.contains id = true ↔
      id ∈ d.unsettled ∨ d.callbacks.contains id = true)

/-- A registered task has a place in the queue that counts, so it will be due. -/
def Desk.WillRun (d : Desk) (id : Nat) : Prop :=
  ∃ p ∈ d.host.scheduler.queue, p.id = id ∧ d.host.scheduler.isStale p = false

end NotebookEngine
