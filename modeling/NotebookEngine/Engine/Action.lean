/-
**Actions of a running program.**

An action reads and changes the state, and gives a value or throws one.  What comes after it is passed
along as a function, so that a function of the program can be left in the middle and gone on with later:
it is enough to keep what comes after.  A run of an action is a process, which says step by step what is
to be done; the machine carries it out (`Engine.Machine`).

The parts of a program contain one another.  An action asks for such a part by a request, and does not
call itself; the machine answers requests on a bound of the depth to which they are nested.

Main definitions:

* `Engine.Process` — what is to be done next;
* `Engine.Act` — actions;
* `Engine.Request`, `Engine.Act.request` — parts of a program to be run;
* `Engine.throwFault` — throwing an error of the engine;
* `Engine.loop` — doing the same again and again.
-/

import NotebookEngine.Engine.Landmark
import NotebookEngine.Engine.World

set_option autoImplicit false

namespace NotebookEngine

namespace Engine

/-! ### Processes -/

/-- How a part of a program ended. -/
inductive Flow where
  | normal (v : Value)
  | break (label : Option String)
  | continue (label : Option String)
  | return (v : Value)
  deriving Inhabited

/-- Why a function that can be suspended has given control back. -/
inductive Step where
  | finished (outcome : Except Value Value)
  /-- It waits for a promise. -/
  | awaiting
  | yielded (v : Value)
  /-- It hands on what another iterator gave, as it is. -/
  | relayed (result : Value)
  deriving Inhabited

/-- What is to be done next. -/
inductive Process where
  | finish (outcome : Except Value Value) (w : World)
  /-- The bound was met. -/
  | exhausted (w : World)
  /-- Go on; nothing else is kept meanwhile. -/
  | pause (w : World) (next : World → Process)
  /-- Run a function that can be suspended, under a number. -/
  | begin (id : Nat) (body : World → Process) (w : World) (next : Step → World → Process)
  /-- Let a suspended function go on. -/
  | resume (id : Nat) (how : Resumption) (w : World) (next : Step → World → Process)
  /-- Suspend the function that runs. -/
  | suspend (step : Step) (w : World) (next : Resumption → World → Process)

instance : Inhabited Process := ⟨.exhausted default⟩

/-! ### Requests -/

/-- How the parts of a pattern receive their values. -/
inductive Intent where
  /-- Variables get their first value. -/
  | declare
  /-- Variables and properties are assigned to. -/
  | assign
  deriving DecidableEq, Inhabited

/-- A part of a program to be run. -/
inductive Request where
  | expression (n : Script.Node) (s : Scope)
  | statement (n : Script.Node) (s : Scope)
  | pattern (n : Script.Node) (v : Value) (intent : Intent) (s : Scope)
  | call (f this : Value) (arguments : List Value)
  | construct (f : Ref) (arguments : List Value) (target : Ref)

/-- How requests are answered. -/
abbrev Answerer := Request → World → (Except Value Flow → World → Process) → Process

/-! ### Actions -/

/-- An action that gives a value or throws one. -/
def Act (α : Type) : Type :=
  Answerer → World → (Except Value α → World → Process) → Process

namespace Act

/-- Give a value. -/
@[inline] protected def pure {α : Type} (a : α) : Act α := fun _ w k => k (.ok a) w

/-- One action after another, unless the first throws. -/
@[inline] protected def bind {α β : Type} (x : Act α) (f : α → Act β) : Act β := fun r w k =>
  x r w fun
    | .ok a, w => f a r w k
    | .error e, w => k (.error e) w

instance : Monad Act where
  pure := Act.pure
  bind := Act.bind

/-- Throw a value. -/
def raise {α : Type} (v : Value) : Act α := fun _ w k => k (.error v) w

/-- An action, and another one if it throws. -/
@[inline] def handle {α : Type} (x : Act α) (h : Value → Act α) : Act α := fun r w k =>
  x r w fun
    | .ok a, w => k (.ok a) w
    | .error e, w => h e r w k

instance : MonadExcept Value Act where
  throw := raise
  tryCatch := handle

/-- The outcome of an action. -/
@[inline] def outcome {α : Type} (x : Act α) : Act (Except Value α) := fun r w k =>
  x r w fun o w => k (.ok o) w

/-- Give an outcome. -/
def ofOutcome {α : Type} (o : Except Value α) : Act α := fun _ w k => k o w

/-- Read the state. -/
@[inline] def read {α : Type} (f : World → α) : Act α := fun _ w k =>
  let a := f w
  k (.ok a) w

/-- Change the state. -/
@[inline] def change (f : World → World) : Act Unit := fun _ w k => k (.ok ()) (f w)

/-- Change the state and give a value. -/
@[inline] def update {α : Type} (f : World → α × World) : Act α := fun _ w k =>
  match f w with
  | (a, w) => k (.ok a) w

/-- Let the machine carry on from here. -/
@[inline] def pause : Act Unit := fun _ w k => .pause w fun w => k (.ok ()) w

/-- Have a part of the program run. -/
def request (q : Request) : Act Flow := fun r w k => r q w k

/-- Run a function that can be suspended, under a number, until it gives control back. -/
def begin (id : Nat) (body : Act Value) : Act Step := fun r w k =>
  .begin id (fun w => body r w fun o w => .finish o w) w fun step w => k (.ok step) w

/-- Let a suspended function go on until it gives control back. -/
def resume (id : Nat) (how : Resumption) : Act Step := fun _ w k =>
  .resume id how w fun step w => k (.ok step) w

/-- Suspend the function that runs. -/
def suspend (step : Step) : Act Resumption := fun _ w k =>
  .suspend step w fun how w => k (.ok how) w

end Act

open Act

/-- Have an expression evaluated. -/
def evaluate (n : Script.Node) (s : Scope) : Act Value := do
  match ← request (.expression n s) with
  | .normal v => pure v
  | _ => pure .undefined

/-- Call a function. -/
def call (f this : Value) (arguments : List Value) : Act Value := do
  match ← request (.call f this arguments) with
  | .normal v => pure v
  | _ => pure .undefined

/-- Have an object made. -/
def construct (f : Ref) (arguments : List Value) (target : Ref) : Act Value := do
  match ← request (.construct f arguments target) with
  | .normal v => pure v
  | _ => pure .undefined

/-- Give the parts of a value to the parts of a pattern. -/
def assignPattern (n : Script.Node) (v : Value) (intent : Intent) (s : Scope) : Act Unit := do
  let _ ← request (.pattern n v intent s)
  pure ()

/-! ### Repetition -/

/-- A bound that no run meets. -/
def endless : Nat := Nat.pow 2 62

/-- Do the same again, from the state that the last time gave, until there is a result. -/
def loopFor {α β : Type} (f : α → Act (Except α β)) : Nat → α → Act β
  | 0, _ => fun _ w _ => .exhausted w
  | fuel + 1, a => do
    match ← f a with
    | .error a =>
      pause
      loopFor f fuel a
    | .ok b => pure b

/-- Do the same again until there is a result. -/
def loop {α β : Type} (a : α) (f : α → Act (Except α β)) : Act β := loopFor f endless a

/-- Do something for each number below a bound. -/
def forNumbers (n : Nat) (f : Nat → Act Unit) : Act Unit :=
  loop 0 fun i => do
    if i < n then
      f i
      pure (.error (i + 1))
    else pure (.ok ())

/-! ### The heap -/

/-- The object at a place. -/
def object (r : Ref) : Act Object := read fun w => w.object r

/-- Change an object. -/
def modifyObject (r : Ref) (f : Object → Object) : Act Unit := change fun w => w.modify r f

/-- Put a new object on the heap. -/
def allocate (o : Object) : Act Ref := update fun w =>
  let r := w.heap.size
  (r, { w with heap := w.heap.push o })

/-- A new cell. -/
def newCell (c : Cell) : Act Nat := update fun w =>
  let n := w.cells.size
  (n, { w with cells := w.cells.push c })

/-- Put something into a cell. -/
def setCell (n : Nat) (c : Cell) : Act Unit :=
  change fun w => { w with cells := w.cells.setIfInBounds n c }

/-- What a cell holds. -/
def getCell (n : Nat) : Act Cell := read fun w => w.cells[n]?.getD .empty

/-- A cell's value, undefined if it has none. -/
def cellValue (n : Nat) : Act Value := do
  match ← getCell n with
  | .value v => pure v
  | _ => pure .undefined

/-- A new symbol. -/
def newSymbol (description : Option String) : Act Nat := update fun w =>
  let n := w.symbols.size
  (n, { w with symbols := w.symbols.push description })

/-! ### Errors -/

/-- An error with a message, and the trace of the calls in progress. -/
def makeErrorAt (c : ErrorClass) (message trace : String) : Act Value := do
  let r ← allocate
    { Object.make (some c.proto.ref) .error with
      properties :=
        #[(.text "message", .method (.string message)), (.text "stack", .method (.string trace))] }
  pure (.object r)

/-- An error with a message. -/
def makeError (c : ErrorClass) (message : String) : Act Value := do
  makeErrorAt c message (← read fun w => w.trace 0)

/-- Throw an error of the engine. -/
def throwFault {α : Type} (c : ErrorClass) (message : String) : Act α := do
  throw (← makeError c message)

/-- Throw an error about a value of the wrong type. -/
def throwType {α : Type} (message : String) : Act α := throwFault .typeError message

/-- Throw an error about a value out of range. -/
def throwRange {α : Type} (message : String) : Act α := throwFault .rangeError message

/-! ### Calls in progress -/

/-- The number of calls that may be nested. -/
def depthLimit : Nat := 5000

/-- Note where in the text the innermost call is. -/
def putPlace (place : Place) : Act Unit := change fun w =>
  match w.frames with
  | a :: rest => { w with frames := { a with place } :: rest }
  | [] => w

/-- Note the place of a landmark, if there is one. -/
def passPlace (place? : Option Nat) : Act Unit :=
  match place? with
  | some n => putPlace (.exactly n)
  | none => pure ()

/-- Where in the text the innermost call is. -/
def currentPlace : Act Place := read fun w => (w.frames.head?.map Activation.place).getD default

/-- Note that a stretch of program has been passed over. -/
def passStretch (n : Script.Node) : Act Unit := passPlace (lastPlace? n)

/-- Do something as a call. -/
def inCall {α : Type} (a : Activation) (x : Act α) : Act α := do
  let (frames, depth) ← read fun w => (w.frames, w.depth)
  if depth ≥ depthLimit then throwRange "Maximum call stack size exceeded"
  change fun w => { w with frames := a :: w.frames, depth := depth + 1 }
  pause
  let o ← outcome x
  change fun w => { w with frames, depth }
  ofOutcome o

/-- Do something, and put the calls in progress back afterwards. -/
def keepingCalls {α : Type} (x : Act α) : Act α := do
  let (frames, depth, coroutine) ← read fun w => (w.frames, w.depth, w.coroutine)
  let o ← outcome x
  change fun w => { w with frames, depth, coroutine }
  ofOutcome o

/-! ### The host -/

/-- Ask the host for something. -/
def askHost {α : Type} (f : Host → α × Host) : Act α := update fun w =>
  let (a, host) := f w.host
  (a, { w with host })

/-- Tell the host something. -/
def tellHost (f : Host → Host) : Act Unit := change fun w => { w with host := f w.host }

/-- Let a job wait until the current one has ended. -/
def enqueue (j : Job) : Act Unit := change fun w => { w with laterJobs := j :: w.laterJobs }

end Engine

end NotebookEngine
