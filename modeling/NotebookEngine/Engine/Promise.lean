/-
**Promises.**

A promise stands for a value that may come later.  What waits for it is kept with it, and becomes a job
when it is settled.  A promise that is rejected while nothing waits for it is noted, and the note is
taken back when something begins to wait after all.

Main definitions:

* `Engine.newPromise`, `Engine.settlePromise`, `Engine.resolvePromise` — promises and their outcomes;
* `Engine.awaitReaction`, `Engine.promiseOf` — waiting for a promise;
* `Engine.newCapability` — a promise with the functions that settle it;
* `Engine.errorParts` — how an error is told.
-/

import NotebookEngine.Engine.Assignment

set_option autoImplicit false

namespace NotebookEngine

namespace Engine

open Act

/-! ### Functions made while a program runs -/

/-- A function with a name and a length. -/
def newFunctionObject (f : Callable) (name : String) (length : Nat) (constructs : Bool) : Act Ref :=
  allocate
    { Object.make (some Wellknown.functionPrototype.ref) (.function f constructs) with
      properties := #[(.text "length", .fixed (.ofNat length)), (.text "name", .fixed (.string name))] }

/-- A function of the library that is made while a program runs. -/
def newNative (n : Native) (length : Nat) : Act Value := do
  pure (.object (← newFunctionObject (.native n) "" length false))

/-! ### How errors are told -/

/-- The text of an object's property, if it is a text. -/
def textProperty? (r : Ref) (name : String) : Act (Option String) := do
  match ← outcome (getText r name) with
  | .ok (.string s) => pure (some s)
  | _ => pure none

/-- The message and the trace of a thrown value. -/
def errorParts (v : Value) : Act (String × String) := do
  let other : Act (String × String) := do
    match ← outcome (toText v) with
    | .ok s => pure (s, "")
    | .error _ => pure ("", "")
  match v with
  | .object r =>
    match (← object r).kind with
    | .error =>
      let name := (← textProperty? r "name").getD "Error"
      let message := name ++ ": " ++ (← textProperty? r "message").getD ""
      match ← textProperty? r "stack" with
      | some stack => pure (message, message ++ "\n" ++ stack)
      | none => pure (message, "")
    | _ => other
  | _ => other

/-! ### Rejections that nothing handles -/

/-- The name of the property that tells the number of a rejection. -/
def rejectionKey : Key := .text "__ember_rejection"

/-- Note that a promise was rejected while nothing waited for it. -/
def noteRejection (p : Ref) (reason : Value) : Act Unit := do
  let id ← read fun w => w.nextRejection + 1
  change fun w => { w with nextRejection := id }
  let _ ← outcome (setFrom p rejectionKey (.ofNat id) (.object p))
  let (message, stack) ← errorParts reason
  change fun w => { w with rejections := w.rejections ++ [⟨id, message, stack⟩] }

/-- Take the note of a rejection back. -/
def forgetRejection (p : Ref) : Act Unit := do
  match ← outcome (getOf p rejectionKey) with
  | .ok (.number x) =>
    let id := x.toUInt64.toNat
    change fun w => { w with rejections := w.rejections.filter fun r => r.id ≠ id }
  | _ => pure ()

/-! ### Promises and their outcomes -/

/-- A promise that is not settled. -/
def newPromise : Act Ref :=
  allocate (.make (some Wellknown.promisePrototype.ref) (.promise (.pending []) false))

/-- Settle a promise that has not been settled. -/
def settlePromise (p : Ref) (o : Except Value Value) : Act Unit := do
  match (← object p).kind with
  | .promise (.pending reactions) handled =>
    let standing : Standing := match o with
      | .ok v => .fulfilled v
      | .error e => .rejected e
    modifyObject p fun ob => { ob with kind := .promise standing handled }
    match o with
    | .error e => if !handled then noteRejection p e
    | .ok _ => pure ()
    for r in reactions.reverse do
      enqueue (.react r o)
  | _ => pure ()

/-- Settle a promise with a value, or as the promise that the value is. -/
def resolvePromise (p : Ref) (v : Value) : Act Unit := do
  match v with
  | .object r =>
    if r = p then
      settlePromise p (.error (← makeError .typeError "promise self resolution"))
    else
      match ← outcome (getText r "then") with
      | .error e => settlePromise p (.error e)
      | .ok f =>
        if ← isCallable f then enqueue (.adopt p v f) else settlePromise p (.ok v)
  | _ => settlePromise p (.ok v)

/-- The functions that settle a promise, of which only the first call has an effect. -/
def settlers (p : Ref) : Act (Value × Value) := do
  let done ← newCell (.value (.bool false))
  let resolve ← newNative (.settle p done false) 1
  let reject ← newNative (.settle p done true) 1
  pure (resolve, reject)

/-- What the functions that settle a promise do. -/
def callSettler (p : Ref) (done : Nat) (rejects : Bool) (v : Value) : Act Value := do
  match ← cellValue done with
  | .bool true => pure .undefined
  | _ =>
    setCell done (.value (.bool true))
    if rejects then settlePromise p (.error v) else resolvePromise p v
    pure .undefined

/-- Let a reaction wait for a promise. -/
def awaitReaction (p : Ref) (r : Reaction) : Act Unit := do
  match (← object p).kind with
  | .promise standing handled =>
    match standing with
    | .pending rs => modifyObject p fun o => { o with kind := .promise (.pending (r :: rs)) true }
    | .fulfilled v =>
      enqueue (.react r (.ok v))
      modifyObject p fun o => { o with kind := .promise standing true }
    | .rejected e =>
      if !handled then forgetRejection p
      enqueue (.react r (.error e))
      modifyObject p fun o => { o with kind := .promise standing true }
  | _ => pure ()

/-! ### Capabilities -/

/-- A promise of the usual kind with the functions that settle it. -/
def ownCapability : Act Capability := do
  let p ← newPromise
  let (resolve, reject) ← settlers p
  pure ⟨.object p, resolve, reject⟩

/-- A promise made by a constructor, with the functions that settle it. -/
def newCapability (c : Value) : Act Capability := do
  match c with
  | .object r =>
    if r = Wellknown.promiseConstructor.ref then ownCapability
    else if ← isConstructor c then
      let resolve ← newCell (.value .undefined)
      let reject ← newCell (.value .undefined)
      let executor ← newNative (.executor resolve reject) 2
      let promise ← construct r [executor] r
      let resolveValue ← cellValue resolve
      let rejectValue ← cellValue reject
      if (← isCallable resolveValue) && (← isCallable rejectValue) then
        pure ⟨promise, resolveValue, rejectValue⟩
      else throwType "not a function"
    else throwType "not a constructor"
  | _ => throwType "not an object"

/-- Whether a value is a promise. -/
def isPromise (v : Value) : Act Bool := do
  match v with
  | .object r =>
    match (← object r).kind with
    | .promise _ _ => pure true
    | _ => pure false
  | _ => pure false

/-- A promise for a value, made by a constructor; a promise of that constructor stays as it is. -/
def promiseBy (c v : Value) : Act Value := do
  let isOwn ← match v with
    | .object r => do
      if ← isPromise v then pure ((← getText r "constructor").same c) else pure false
    | _ => pure false
  if isOwn then pure v
  else
    let cap ← newCapability c
    let _ ← call cap.resolve .undefined [v]
    pure cap.promise

/-- A promise for a value. -/
def promiseOf (v : Value) : Act Ref := do
  match ← promiseBy (.object Wellknown.promiseConstructor.ref) v with
  | .object p => pure p
  | _ => newPromise

/-- Wait for a promise with functions, and settle another one with what they give. -/
def promiseThen (p : Ref) (fulfilled rejected : Value) (target? : Option Capability) : Act Unit := do
  let keep (f : Value) : Act Value := do pure (if ← isCallable f then f else .undefined)
  awaitReaction p (.handlers target? (← keep fulfilled) (← keep rejected))

/-- The constructor that an object's derived objects are made by. -/
def speciesOf (r : Ref) (default : Ref) : Act Ref := do
  match ← getText r "constructor" with
  | .undefined => pure default
  | .object c =>
    match ← getOf c WellknownSymbol.species.key with
    | .undefined | .null => pure default
    | .object s => if (← object s).isConstructor then pure s else throwType "not a constructor"
    | _ => throwType "not a constructor"
  | _ => throwType "not an object"

/-! ### Suspended functions -/

/-- A number for a function that can be suspended. -/
def newCoroutine (owner : Owner) : Act Nat := update fun w =>
  let n := w.owners.size
  (n, { w with owners := w.owners.push owner })

/-- Suspend the function that runs; when it goes on, it is a call in progress again. -/
def suspendHere (step : Step) : Act Resumption := do
  let (own, id) ← read fun w => (w.frames.head?.toList, w.coroutine)
  let how ← suspend step
  change fun w => { w with frames := own ++ w.frames, depth := w.depth + 1, coroutine := id }
  pure how

/-- Wait for a value. -/
def awaitValue (v : Value) : Act Value := do
  let id ← read World.coroutine
  let p ← promiseOf v
  awaitReaction p (.resume id)
  match ← suspendHere .awaiting with
  | .next x => pure x
  | .throw e => throw e
  | .return x => pure x

end Engine

end NotebookEngine
