/-
**A running program as its driver sees it.**

Main definitions:

* `Engine.guest` — jobs, tasks and captures of a running program;
* `Engine.Machine.start` — a machine before its program runs;
* `Engine.Machine.runProgram` — starting the program of all cells;
* `Engine.runner` — what an evaluation needs of them.
-/

import NotebookEngine.Engine.Machine
import NotebookEngine.Engine.Realm
import NotebookEngine.Run.Drive

set_option autoImplicit false

namespace NotebookEngine

namespace Engine

open Act

namespace Machine

/-- A machine before its program runs. -/
def start (host : Host) (files : FileTree) : Machine := ⟨Realm.initial.world host files, ∅⟩

/-- Do something with the host. -/
def onHost {α : Type} (f : Host → α × Host) (m : Machine) : α × Machine :=
  let ⟨world, suspended⟩ := m
  let (a, host) := f world.host
  (a, ⟨{ world with host }, suspended⟩)

/-- Call a function by its name among the globals, as one that nothing else has called. -/
def enter (name : String) (arguments : List Value) (m : Machine) :
    Option (Except Value Value) × Machine :=
  let ⟨world, suspended⟩ := m
  perform Realm.initial.answers
    ⟨{ world with
        frames := []
        depth := 0 }, suspended⟩
    (Library.callGlobal name arguments)

/-- The message and the trace of a thrown value. -/
def partsOf (v : Value) (m : Machine) : (String × String) × Machine :=
  let write (parts : String × String) : List Value := [.string parts.1, .string parts.2]
  let (r, m) := perform Realm.initial.answers m do newArray (write (← errorParts v))
  match r with
  | some (.ok (.object a)) =>
    match (m.world.object a).own? (.index 0), (m.world.object a).own? (.index 1) with
    | some ⟨.value (.string message) _, _, _⟩, some ⟨.value (.string stack) _, _, _⟩ =>
      ((message, stack), m)
    | _, _ => (("", ""), m)
  | _ => (("", ""), m)

/-- What an action failed with, if it failed. -/
def failureOf (r : Option (Except Value Value)) (m : Machine) : Option (String × String) × Machine :=
  match r with
  | some (.error e) =>
    let (parts, m) := m.partsOf e
    (some parts, m)
  | _ => (none, m)

/-- Do something; what it fails with ends the run. -/
def orFail (r : Option (Except Value Value)) (m : Machine) : Machine :=
  match m.failureOf r with
  | (some (message, stack), m) => (m.onHost fun h => ((), h.fail none message stack)).2
  | (none, m) => m

/-! ### Jobs and tasks -/

/-- Take the next job. -/
def takeJob (w : World) : Option Job × World :=
  match w.jobs with
  | j :: jobs => (some j, { w with jobs })
  | [] =>
    match w.laterJobs.reverse with
    | j :: jobs =>
      (some j, { w with
        jobs
        laterJobs := [] })
    | [] => (none, w)

/-- Run the next job, if there is one. -/
def job (m : Machine) : (Bool × Option (String × String)) × Machine :=
  let ⟨world, suspended⟩ := m
  match takeJob world with
  | (none, world) => ((false, none), ⟨world, suspended⟩)
  | (some j, world) =>
    let (r, m) := perform Realm.initial.answers
      ⟨{ world with
          frames := []
          depth := 0 }, suspended⟩
      do
        Library.runJob j
        pure .undefined
    let (failure?, m) := m.failureOf r
    ((true, failure?), m)

/-- Take what was rejected without being handled. -/
def takeRejections (m : Machine) : List (String × String) × Machine :=
  let ⟨world, suspended⟩ := m
  (world.rejections.map fun r => (r.message, r.stack), ⟨{ world with rejections := [] }, suspended⟩)

/-- Run the function that waits for a task. -/
def task (id : Nat) (m : Machine) : Machine :=
  let (r, m) := m.enter "__ember_run" [.ofNat id]
  m.orFail r

/-- Capture the variables of a cell. -/
def capture (index : Nat) (m : Machine) : Machine :=
  (m.enter "__ember_capture" [.ofNat index]).2

/-- Let the clock go on to a moment. -/
def waitUntil (moment : Nat) (m : Machine) : Machine :=
  let ⟨world, suspended⟩ := m
  ⟨{ world with clock := max world.clock moment }, suspended⟩

/-! ### The program -/

/-- Read the program of all cells and start it; if it cannot be read, the run is over. -/
def runProgram (text file directory : String) (m : Machine) : Machine :=
  let (read?, m) := perform Realm.initial.answers m do
    let f ← evalText CellPlaces.scriptName text (Scope.start true)
    if !(← isCallable f) then Library.throwForeign f "function"
    pure f
  match read? with
  | some (.ok f) =>
    let (r, m) := m.enter "__ember_start" ([f, .string file, .string directory] ++ Realm.tools)
    m.orFail r
  | r =>
    let (failure?, m) := m.failureOf r
    let (message, stack) := failure?.getD ("", "")
    let e : RawError := ⟨some message, none, CellPlaces.nonempty (some stack)⟩
    (m.onHost fun h => ((), (h.report none e).finish)).2

end Machine

/-- A running program as its driver sees it. -/
def guest : Guest Machine where
  onHost := Machine.onHost
  clock m := m.world.clock
  waitUntil := Machine.waitUntil
  job := Machine.job
  takeRejections := Machine.takeRejections
  task := Machine.task
  capture := Machine.capture
  fault? m := m.world.bench.fault?

/-- What runs programs. -/
def runner : Runner Machine where
  guest := guest
  start := Machine.start
  launch := Machine.runProgram
  files m := m.world.files

end Engine

end NotebookEngine
