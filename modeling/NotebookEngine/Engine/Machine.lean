/-
**The machine that carries processes out.**

A request is answered by the part of the library or of the program that it names, on a bound of the depth
to which requests are nested.  The machine takes the steps of a process one after another; it keeps the
functions that are suspended by their numbers, and those that wait for others to give control back in a
stack.

Main definitions:

* `Engine.answer`, `Engine.answerer` — how requests are answered;
* `Engine.Machine` — a running program with its suspended functions;
* `Engine.Machine.perform` — carrying an action out.
-/

import NotebookEngine.Engine.Library.Workbench
import NotebookEngine.Engine.Statements
import Std.Data.HashMap.Basic

set_option autoImplicit false

namespace NotebookEngine

namespace Engine

open Act
open Library (callNative)

/-! ### Calls -/

/-- Call a function as something that is in progress under its name. -/
def callEntry (o : Object) (x : Act Value) : Act Value := inCall ⟨functionName o, none, default, []⟩ x

/-- Call a value. -/
def callAny (answers : Array Answer) (f this : Value) (arguments : List Value) : Act Value := do
  match f with
  | .object r =>
    let o ← object r
    match o.kind with
    | .function (.closure c) _ => callClosure r c this arguments
    | .function (.library i) _ =>
      match answers[i]? with
      | some a => callEntry o (a ⟨this, arguments, none, r⟩)
      | none => pure .undefined
    | .function (.bound target this given) _ => call (.object target) this (given ++ arguments)
    | .function (.native n) _ => callEntry o (callNative n arguments)
    | .proxy _ true _ =>
      let (target, handler) ← proxyEnds r
      match ← method? (.object handler) (.text "apply") with
      | none => call (.object target) this arguments
      | some trap => call trap (.object handler) [.object target, this, ← newArray arguments]
    | _ => throwType "not a function"
  | _ => throwType "not a function"

/-- Have a constructor make an object, for which another one may give the prototype. -/
def constructAny (answers : Array Answer) (f : Ref) (arguments : List Value) (target : Ref) :
    Act Value := do
  let o ← object f
  match o.kind with
  | .function (.closure c) true => constructClosure f c arguments target
  | .function (.library i) true =>
    match answers[i]? with
    | some a => callEntry o (a ⟨.undefined, arguments, some target, f⟩)
    | none => pure .undefined
  | .function (.bound inner _ given) true =>
    construct inner (given ++ arguments) (if target = f then inner else target)
  | .proxy _ _ true =>
    let (inner, handler) ← proxyEnds f
    match ← method? (.object handler) (.text "construct") with
    | none => construct inner arguments target
    | some trap =>
      match ← call trap (.object handler) [.object inner, ← newArray arguments, .object target] with
      | .object r => pure (.object r)
      | _ => throwType "not an object"
  | _ => throwType "not a constructor"

/-! ### Requests -/

/-- Answer a request. -/
def answer (answers : Array Answer) : Request → Act Flow
  | .expression n s => do pure (.normal (← evaluateExpression n s))
  | .statement n s => runStatement n s
  | .pattern n v intent s => do
    runPattern n v intent s
    pure (.normal .undefined)
  | .call f this arguments => do pure (.normal (← callAny answers f this arguments))
  | .construct f arguments target => do pure (.normal (← constructAny answers f arguments target))

/-- The answers of requests that are nested no deeper than a bound. -/
def answerer (answers : Array Answer) : Nat → Answerer
  | 0 => fun _ w _ => .exhausted w
  | depth + 1 => fun q w k => answer answers q (answerer answers depth) w k

/-! ### The machine -/

/-- A function that is suspended: how it goes on. -/
abbrev Suspended := Resumption → World → Process

/-- One that waits for a function to give control back: the function's number, and how it goes on. -/
abbrev Waiting := Nat × (Step → World → Process)

/-- A running program with its suspended functions. -/
structure Machine where
  world : World
  suspended : Std.HashMap Nat Suspended

namespace Machine

/-- Take the steps of a process until it is over: the outcome, nothing if a bound was met. -/
def run : Nat → Process → List Waiting → Std.HashMap Nat Suspended →
    Option (Except Value Value) × Machine
  | 0, _, _, table => (none, ⟨default, table⟩)
  | fuel + 1, p, waiting, table =>
    match p with
    | .finish o w =>
      match waiting with
      | [] => (some o, ⟨w, table⟩)
      | (_, next) :: rest => run fuel (next (.finished o) w) rest table
    | .exhausted w => (none, ⟨w, table⟩)
    | .pause w next => run fuel (next w) waiting table
    | .begin id body w next => run fuel (body w) ((id, next) :: waiting) table
    | .resume id how w next =>
      match table.get? id with
      | some go => run fuel (go how w) ((id, next) :: waiting) (table.erase id)
      | none => run fuel (next (.finished (.ok .undefined)) w) waiting table
    | .suspend step w go =>
      match waiting with
      | [] => (none, ⟨w, table⟩)
      | (id, next) :: rest => run fuel (next step w) rest (table.insert id go)

/-- The depth to which requests may be nested. -/
def nesting : Nat := 1000000

/-- Carry an action out: what it gives, or what it throws; nothing if a bound was met. -/
def perform (answers : Array Answer) (m : Machine) (x : Act Value) :
    Option (Except Value Value) × Machine :=
  run endless (x (answerer answers nesting) m.world .finish) [] m.suspended

end Machine

end Engine

end NotebookEngine
