/-
**Promises of the library.**

Main definitions:

* `Library.nativeThen` — waiting for a promise with functions;
* `Library.promises` — promises;
* `Library.runJob` — carrying out a job;
* `Library.callNative` — the functions that are made while a program runs.
-/

import NotebookEngine.Engine.Library.Iterators

set_option autoImplicit false

namespace NotebookEngine

namespace Engine

namespace Library

open Act

/-! ### Waiting -/

/-- Wait for a promise with functions: the promise of what they give. -/
def nativeThen (this fulfilled rejected : Value) : Act Value := do
  match this with
  | .object p =>
    if !(← isPromise this) then throwType "Promise object expected"
    let species ← speciesOf p Wellknown.promiseConstructor.ref
    let cap ← newCapability (.object species)
    promiseThen p fulfilled rejected (some cap)
    pure cap.promise
  | _ => throwType "Promise object expected"

/-- The promise of a value, by the constructor that a method is called on. -/
def resolveBy (c : Call) (v : Value) : Act Value := do
  match c.this with
  | .object _ => promiseBy c.this v
  | _ => throwType "not an object"

/-! ### Several promises -/

/-- Reject a promise with what an action throws. -/
def orReject (cap : Capability) (x : Act Value) : Act Value := do
  match ← outcome x with
  | .ok v => pure v
  | .error e =>
    let _ ← call cap.reject .undefined [e]
    pure cap.promise

/-- The object that tells how a promise was settled. -/
def settledObject (rejects : Bool) (v : Value) : Act Value := do
  let r ← newPlain
  modifyObject r fun o =>
    (o.putNamed (.text "status") (.plain (.string (if rejects then "rejected" else "fulfilled")))).putNamed
      (.text (if rejects then "reason" else "value")) (.plain v)
  pure (.object r)

/-- The error that holds the errors of several promises. -/
def aggregate (values : Ref) : Act Value := do
  let errors ← newArray (← plainItems values)
  let e ← makeError .aggregateError ""
  match e with
  | .object r =>
    modifyObject r fun o => (o.eraseNamed (.text "message")).putNamed (.text "errors") (.method errors)
  | _ => pure ()
  pure e

/-- Note how one of several promises was settled; with the last one, settle the promise of all. -/
def gather (how : Gathering) (rejects : Bool) (index : Nat) (values : Ref) (left : Nat)
    (target : Capability) (done : Nat) (v : Value) : Act Value := do
  match ← cellValue done with
  | .bool true => pure .undefined
  | _ =>
    setCell done (.value (.bool true))
    let v ← if how = .allSettled then settledObject rejects v else pure v
    modifyObject values fun o => o.put (.index index) (.plain v)
    countDown how values left target
where
  /-- Count one promise less; with the last one, settle the promise of all. -/
  countDown (how : Gathering) (values : Ref) (left : Nat) (target : Capability) : Act Value := do
    let n ← toNumber (← cellValue left)
    setCell left (.value (.number (n - 1)))
    if n == 1 then
      match how with
      | .any => call target.reject .undefined [← aggregate values]
      | _ => call target.resolve .undefined [.object values]
    else pure .undefined

/-- Wait for several promises together. -/
def gatherAll (how : Gathering) (c : Call) : Act Value := do
  let cap ← newCapability c.this
  orReject cap do
    let resolve ← get c.this (.text "resolve")
    needFunction resolve
    let values ← allocate (.make (some Wellknown.arrayPrototype.ref) (.array #[] 0 true true))
    let left ← newCell (.value (.number 1))
    let i ← iteratorOf (c.argument 0)
    let count ← loop 0 fun n => do
      match ← i.step with
      | none => pure (.ok n)
      | some v =>
        let attempt ← outcome do
          modifyObject values fun o => o.put (.index n) (.plain .undefined)
          let p ← call resolve c.this [v]
          let done ← newCell (.value (.bool false))
          setCell left (.value (.number ((← toNumber (← cellValue left)) + 1)))
          let own ← newNative (.gathered how false n values left cap done) 1
          let other ← newNative (.gathered how true n values left cap done) 1
          match how with
          | .all => invoke p "then" [own, cap.reject]
          | .allSettled => invoke p "then" [own, other]
          | .any => invoke p "then" [cap.resolve, other]
        match attempt with
        | .ok _ => pure (.error (n + 1))
        | .error e => i.abandon e
    let _ := count
    let _ ← gather.countDown how values left cap
    pure cap.promise

/-! ### Jobs -/

/-- The name of a module without the marks for the place that it is imported from. -/
def moduleName (name : String) : String :=
  let rec plain : List Char → List Char
    | '.' :: '/' :: cs => plain cs
    | cs => cs
  String.ofList (plain name.toList)

/-- Carry out a job. -/
def runJob (j : Job) : Act Unit := do
  match j with
  | .react (.resume id) o => resumeJob id (match o with
      | .ok v => .next v
      | .error e => .throw e)
  | .react (.handlers target? fulfilled rejected) o =>
    let result ← outcome do
      match o with
      | .ok v => if fulfilled.isUndefined then pure v else call fulfilled .undefined [v]
      | .error e => if rejected.isUndefined then throw e else call rejected .undefined [e]
    match target?, result with
    | some t, .ok v => let _ ← call t.resolve .undefined [v]
    | some t, .error e => let _ ← call t.reject .undefined [e]
    | none, _ => pure ()
  | .adopt p thenable action =>
    let (resolve, reject) ← settlers p
    match ← outcome (call action thenable [resolve, reject]) with
    | .ok _ => pure ()
    | .error e => let _ ← call reject .undefined [e]
  | .load p name =>
    match ← outcome (toText name) with
    | .ok name =>
      let message := "could not load module '" ++ moduleName name ++ "'"
      settlePromise p (.error (← makeError .referenceError message))
    | .error e => settlePromise p (.error e)

/-! ### Promises -/

/-- What the constructor of promises holds. -/
def promiseStatics : List Entry :=
  [.method "resolve" 1 fun c => resolveBy c (c.argument 0),
   .method "reject" 1 fun c => do
      let cap ← newCapability c.this
      let _ ← call cap.reject .undefined [c.argument 0]
      pure cap.promise,
   .method "all" 1 (gatherAll .all),
   .method "allSettled" 1 (gatherAll .allSettled),
   .method "any" 1 (gatherAll .any),
   .method "try" 1 fun c => do
      let cap ← newCapability c.this
      match ← outcome (call (c.argument 0) .undefined c.arguments.tail) with
      | .ok v => let _ ← call cap.resolve .undefined [v]
      | .error e => let _ ← call cap.reject .undefined [e]
      pure cap.promise,
   .method "race" 1 fun c => do
      let cap ← newCapability c.this
      orReject cap do
        let resolve ← get c.this (.text "resolve")
        needFunction resolve
        iterate (c.argument 0) fun v => do
          let p ← call resolve c.this [v]
          let _ ← invoke p "then" [cap.resolve, cap.reject]
        pure cap.promise,
   .method "withResolvers" 0 fun c => do
      let cap ← newCapability c.this
      let r ← newPlain
      modifyObject r fun o =>
        ((o.putNamed (.text "promise") (.plain cap.promise)).putNamed (.text "resolve")
          (.plain cap.resolve)).putNamed (.text "reject") (.plain cap.reject)
      pure (.object r),
   speciesEntry]

/-- Promises. -/
def promises : Family :=
  { name := "Promise", length := 1, proto := .promisePrototype, place? := some .promiseConstructor
    parent? := none
    make := fun c => do
      needNew c
      needFunction (c.argument 0)
      let p ← makeOf c .promisePrototype (.promise (.pending []) false)
      let (resolve, reject) ← settlers p
      match ← outcome (call (c.argument 0) .undefined [resolve, reject]) with
      | .ok _ => pure ()
      | .error e => let _ ← call reject .undefined [e]
      pure (.object p)
    statics := promiseStatics, constants := []
    methods :=
      [.method "then" 2 fun c => nativeThen c.this (c.argument 0) (c.argument 1),
       .method "catch" 1 fun c => invoke c.this "then" [.undefined, c.argument 0],
       .method "finally" 1 fun c => do
          match c.this with
          | .object p =>
            let species ← speciesOf p Wellknown.promiseConstructor.ref
            let f := c.argument 0
            if ← isCallable f then
              let fulfilled ← newNative (.finally f (.object species) false) 1
              let rejected ← newNative (.finally f (.object species) true) 1
              invoke c.this "then" [fulfilled, rejected]
            else invoke c.this "then" [f, f]
          | _ => throwType "not an object"]
    tag? := some "Promise" }

/-- What a function does that runs whatever the outcome of a promise. -/
def runFinally (action constructor : Value) (rejects : Bool) (v : Value) : Act Value := do
  let result ← call action .undefined []
  let p ← promiseBy constructor result
  invoke p "then" [← newNative (.give v rejects) 0]

end Library

end Engine

end NotebookEngine
