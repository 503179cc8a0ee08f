/-
**Functions that can be suspended, and calls.**

An asynchronous function is suspended where it awaits, a generator where it yields.  An asynchronous
generator does both, and keeps what it is asked for until its turn comes.

Main definitions:

* `Engine.startAsync`, `Engine.startGenerator` — calls that may be suspended;
* `Engine.resumeGenerator`, `Engine.askGenerator` — going on with a generator;
* `Engine.yieldValue`, `Engine.delegate` — giving values;
* `Engine.callClosure`, `Engine.constructClosure` — calling the functions of a program.
-/

import NotebookEngine.Engine.Functions

set_option autoImplicit false

namespace NotebookEngine

namespace Engine

open Act
open Script (Node Form FunctionMode)

/-! ### Being told to return -/

/-- Unwind a suspended function that was told to return a value. -/
def unwind {α : Type} (v : Value) : Act α := do
  throw (.object (← allocate (.make none (.returning v))))

/-- The value that a function was told to return, if that is what a thrown value means. -/
def returning? (e : Value) : Act (Option Value) := do
  match e with
  | .object r =>
    match (← object r).kind with
    | .returning v => pure (some v)
    | _ => pure none
  | _ => pure none

/-! ### Asynchronous functions -/

/-- Note which suspended function runs. -/
def setCoroutine (id : Nat) : Act Unit := change fun w => { w with coroutine := id }

/-- Run a body that may be suspended; the promise of what it gives. -/
def startAsync (body : Act Value) : Act Value := do
  let p ← newPromise
  let id ← newCoroutine .function
  let _ ← keepingCalls (begin id do
    setCoroutine id
    match ← outcome body with
    | .ok v => resolvePromise p v
    | .error e => settlePromise p (.error e)
    pure .undefined)
  pure (.object p)

/-! ### Generators -/

/-- The state of a generator. -/
def generatorOf (g : Ref) : Act Generator := do
  match (← object g).kind with
  | .generator s => pure s
  | _ => throwType "not a generator"

/-- Change the state of a generator. -/
def setGenerator (g : Ref) (s : Generator) : Act Unit :=
  modifyObject g fun o => { o with kind := .generator s }

/-- A generator for a body, which waits to be asked. -/
def startGenerator (f : Ref) (isAsync : Bool) (body : Act Value) : Act Value := do
  let proto ← protoFor f (if isAsync then .asyncGeneratorPrototype else .generatorPrototype)
  let g ← allocate (.make (some proto) .plain)
  let id ← newCoroutine (.generator g)
  setGenerator g ⟨id, .fresh, isAsync, []⟩
  let _ ← keepingCalls (begin id do
    setCoroutine id
    match ← suspendHere .awaiting with
    | .throw e => throw e
    | .return v => pure v
    | .next _ =>
      match ← outcome body with
      | .ok v => pure v
      | .error e =>
        match ← returning? e with
        | some v => pure v
        | none => throw e)
  pure (.object g)

/-- Go on with a generator. -/
def resumeGenerator (g : Ref) (how : Resumption) : Act Value := do
  let s ← generatorOf g
  let ended : Act Value :=
    match how with
    | .next _ => iterResult .undefined true
    | .throw e => throw e
    | .return v => iterResult v true
  let goOn : Act Value := do
    setGenerator g { s with progress := .running }
    match ← keepingCalls (resume s.coroutine how) with
    | .yielded v =>
      setGenerator g { s with progress := .suspended }
      iterResult v false
    | .relayed result =>
      setGenerator g { s with progress := .suspended }
      pure result
    | .awaiting => pure .undefined
    | .finished (.ok v) =>
      setGenerator g { s with progress := .done }
      iterResult v true
    | .finished (.error e) =>
      setGenerator g { s with progress := .done }
      throw e
  match s.progress, how with
  | .running, _ => throwType "cannot invoke a running generator"
  | .done, _ => ended
  | .fresh, .next _ => goOn
  | .fresh, _ =>
    setGenerator g { s with progress := .done }
    ended
  | .suspended, _ => goOn

/-! ### Asynchronous generators -/

/-- Answer the first thing that an asynchronous generator was asked for. -/
def answerRequest (g : Ref) (o : Except Value Value) (done : Bool) : Act Unit := do
  let s ← generatorOf g
  match s.requests with
  | [] => pure ()
  | (_, cap) :: rest =>
    setGenerator g { s with requests := rest }
    match o with
    | .ok v => let _ ← call cap.resolve .undefined [← iterResult v done]
    | .error e => let _ ← call cap.reject .undefined [e]

/-- Take note of why an asynchronous generator gave control back: whether it can go on. -/
def takeStep (g : Ref) (step : Step) : Act Bool := do
  let s ← generatorOf g
  match step with
  | .awaiting => pure false
  | .yielded v | .relayed v =>
    setGenerator g { s with progress := .suspended }
    answerRequest g (.ok v) false
    pure true
  | .finished o =>
    setGenerator g { s with progress := .done }
    answerRequest g o true
    pure true

/-- Go on with an asynchronous generator as long as it is asked for something and need not wait. -/
def serveRequests (g : Ref) : Act Unit :=
  loop () fun _ => do
    let s ← generatorOf g
    match s.requests, s.progress with
    | [], _ => pure (.ok ())
    | _, .running => pure (.ok ())
    | (how, _) :: _, .done =>
      match how with
      | .next _ =>
        answerRequest g (.ok .undefined) true
        pure (.error ())
      | .throw e =>
        answerRequest g (.error e) true
        pure (.error ())
      | .return v =>
        setGenerator g { s with progress := .running }
        match ← outcome (promiseOf v) with
        | .ok p =>
          let fulfilled ← newNative (.generatorReturn g false) 1
          let rejected ← newNative (.generatorReturn g true) 1
          promiseThen p fulfilled rejected none
          pure (.ok ())
        | .error e =>
          setGenerator g { s with progress := .done }
          answerRequest g (.error e) true
          pure (.error ())
    | (how, _) :: _, progress =>
      match progress, how with
      | .fresh, .throw _ | .fresh, .return _ =>
        setGenerator g { s with progress := .done }
        pure (.error ())
      | _, _ =>
        setGenerator g { s with progress := .running }
        let step ← keepingCalls (resume s.coroutine how)
        if ← takeStep g step then pure (.error ()) else pure (.ok ())

/-- Ask an asynchronous generator for something: the promise of the answer. -/
def askGenerator (this : Value) (how : Resumption) : Act Value := do
  let cap ← ownCapability
  match this with
  | .object g =>
    match (← object g).kind with
    | .generator s =>
      setGenerator g { s with requests := s.requests ++ [(how, cap)] }
      if s.progress ≠ .running then serveRequests g
      pure cap.promise
    | _ =>
      let _ ← call cap.reject .undefined [← makeError .typeError "not an AsyncGenerator object"]
      pure cap.promise
  | _ =>
    let _ ← call cap.reject .undefined [← makeError .typeError "not an AsyncGenerator object"]
    pure cap.promise

/-- Let a suspended function go on, as a job. -/
def resumeJob (id : Nat) (how : Resumption) : Act Unit := do
  let step ← keepingCalls (resume id how)
  match ← read fun w => w.owners[id]?.getD .function with
  | .function => pure ()
  | .generator g => if ← takeStep g step then serveRequests g

/-! ### Giving values -/

/-- What a generator does with how it is told to go on. -/
def goOnWith (isAsync : Bool) (how : Resumption) : Act Value := do
  match how with
  | .next v => pure v
  | .throw e => throw e
  | .return v => if isAsync then unwind (← awaitValue v) else unwind v

/-- Give a value, and wait to be asked again. -/
def yieldValue (isAsync : Bool) (v : Value) : Act Value := do
  let v ← if isAsync then awaitValue v else pure v
  goOnWith isAsync (← suspendHere (.yielded v))

/-- The iterator of a value that can be gone over asynchronously. -/
def asyncIteratorOf (v : Value) : Act Iterator := do
  match ← method? v WellknownSymbol.asyncIterator.key with
  | some f => iteratorBy v f
  | none =>
    let i ← iteratorOf v
    let r ← allocate
      (.make (some Wellknown.fromSyncPrototype.ref) (.iterator (.synchronous i.object i.next)))
    pure ⟨.object r, ← getText r "next"⟩

/-- Give all the values of another iterator; the value it ends with. -/
def delegate (isAsync : Bool) (v : Value) : Act Value := do
  let i ← if isAsync then asyncIteratorOf v else iteratorOf v
  let settle (v : Value) : Act Value := if isAsync then awaitValue v else pure v
  let after (v : Value) (finish : Value → Act Value) : Act (Except Resumption Value) := do
    match v with
    | .object r =>
      if (← getText r "done").truth then pure (.ok (← finish (← getText r "value")))
      else
        let step ← if isAsync then do pure (Step.yielded (← getText r "value")) else pure (.relayed v)
        pure (.error (← suspendHere step))
    | _ => throwType "iterator must return an object"
  loop (Resumption.next .undefined) fun how => do
    match how with
    | .next x => after (← settle (← call i.next i.object [x])) pure
    | .throw e =>
      match ← method? i.object (.text "throw") with
      | some f => after (← settle (← call f i.object [e])) pure
      | none =>
        i.close
        throwType "iterator does not have a throw method"
    | .return x =>
      match ← method? i.object (.text "return") with
      | some f => after (← settle (← call f i.object [x])) unwind
      | none => unwind x

/-! ### Calls -/

/-- The call in progress that a function of a program makes. -/
def activationOf (o : Object) (c : Closure) : Activation :=
  ⟨functionName o, some c.scope.source, c.code.start, c.code.parameters ++ [c.code.body]⟩

/-- Call a function of a program. -/
def callClosure (f : Ref) (c : Closure) (this : Value) (arguments : List Value) : Act Value := do
  if c.code.role = .base || c.code.role = .derived then
    throwType "class constructors must be invoked with 'new'"
  inCall (activationOf (← object f) c) do
    let enter : Act Scope := do
      enterFunction f c (some (← thisOf c this)) arguments .undefined
    match c.code.mode with
    | ⟨false, false⟩ => pure ((← runBody c.code (← enter)).getD .undefined)
    | ⟨true, false⟩ =>
      startAsync do pure ((← runBody c.code (← enter)).getD .undefined)
    | ⟨isAsync, true⟩ =>
      let s ← enter
      startGenerator f isAsync do pure ((← runBody c.code s).getD .undefined)

/-- Have a function of a program make an object. -/
def constructClosure (f : Ref) (c : Closure) (arguments : List Value) (target : Ref) :
    Act Value := do
  inCall (activationOf (← object f) c) do
    if c.code.role = .derived then
      let s ← enterFunction f c none arguments (.object target)
      match ← runBody c.code s with
      | some (.object r) => pure (.object r)
      | some .undefined | none => readName s "this"
      | _ => throwType "derived class constructor must return an object or undefined"
    else
      let proto ← protoFor target .objectPrototype
      let this := Value.object (← allocate (.make (some proto) .plain))
      initializeMembers this c.members
      let s ← enterFunction f c (some this) arguments (.object target)
      match ← runBody c.code s with
      | some (.object r) => pure (.object r)
      | _ => pure this

end Engine

end NotebookEngine
