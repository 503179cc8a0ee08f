/-
**Iterators of the library.**

Main definitions:

* `Library.stepWalk` — the next item of what an iterator of the library goes over;
* `Library.iteratorFamily`, `Library.iteratorEntries` — what iterators can do.
-/

import NotebookEngine.Engine.Library.Collections
import NotebookEngine.Engine.Library.Arrays

set_option autoImplicit false

namespace NotebookEngine

namespace Engine

namespace Library

open Act

/-! ### Iterators of arrays, texts and collections -/

/-- Change what an iterator goes over. -/
def setWalk (r : Ref) (w : Walk) : Act Unit := modifyObject r fun o => { o with kind := .iterator w }

/-- The next item of an array, a collection or a text, nothing at the end. -/
def stepWalk (r : Ref) (w : Walk) : Act (Option Value) := do
  match w with
  | .items source next part =>
    if next < (← lengthOf source) then
      setWalk r (.items source (next + 1) part)
      match part with
      | .keys => pure (some (.ofNat next))
      | .values => pure (some (← item source next))
      | .entries => pure (some (← newArray [.ofNat next, ← item source next]))
    else
      setWalk r .over
      pure none
  | .entries source next part =>
    let entries ← entriesOf source
    loop next fun i => do
      if h : i < entries.entries.size then
        match entries.entries[i] with
        | none => pure (.error (i + 1))
        | some (k, v) =>
          setWalk r (.entries source (i + 1) part)
          match part with
          | .keys => pure (.ok (some k))
          | .values => pure (.ok (some v))
          | .entries => pure (.ok (some (← newArray [k, v])))
      else
        setWalk r .over
        pure (.ok none)
  | .letters (ch :: rest) =>
    setWalk r (.letters rest)
    pure (some (.string (String.ofList [ch])))
  | _ => pure none

/-- What the iterator that a method is called on goes over. Iterators of a kind, which a title tells, have
one prototype. -/
def thisWalk (c : Call) (proto : Wellknown) (title : String) : Act (Ref × Walk) := do
  match c.this with
  | .object r =>
    match ← object r with
    | ⟨parent, _, .iterator w, _⟩ =>
      if parent = some proto.ref then pure (r, w) else throwType (title ++ " object expected")
    | _ => throwType (title ++ " object expected")
  | _ => throwType (title ++ " object expected")

/-- The method that gives the next item. -/
def nextEntry (proto : Wellknown) (title : String) : Entry :=
  .method "next" 0 fun c => do
    let (r, w) ← thisWalk c proto title
    match ← stepWalk r w with
    | some v => iterResult v false
    | none => iterResult .undefined true

/-! ### Generators -/

/-- The generator that a method is called on. -/
def thisGenerator (c : Call) : Act Ref := do
  match c.this with
  | .object r =>
    match (← object r).kind with
    | .generator g => if g.isAsync then throwType "not a generator" else pure r
    | _ => throwType "not a generator"
  | _ => throwType "not a generator"

/-- What generators can do. -/
def generatorMethods : List Entry :=
  [.method "next" 1 fun c => do resumeGenerator (← thisGenerator c) (.next (c.argument 0)),
   .method "return" 1 fun c => do resumeGenerator (← thisGenerator c) (.return (c.argument 0)),
   .method "throw" 1 fun c => do resumeGenerator (← thisGenerator c) (.throw (c.argument 0))]

/-- What asynchronous generators can do. -/
def asyncGeneratorMethods : List Entry :=
  [.method "next" 1 fun c => askGenerator c.this (.next (c.argument 0)),
   .method "return" 1 fun c => askGenerator c.this (.return (c.argument 0)),
   .method "throw" 1 fun c => askGenerator c.this (.throw (c.argument 0))]

/-! ### Iterators used as asynchronous ones -/

/-- Settle a promise with the result of an iterator once its value has come. -/
def settleResult (cap : Capability) (result : Act Value) : Act Value := do
  let attempt ← outcome do
    match ← result with
    | .object r =>
      let done := (← getText r "done").truth
      let p ← promiseOf (← getText r "value")
      let wrap ← newNative (.iterated done) 1
      promiseThen p wrap .undefined (some cap)
    | _ => throwType "iterator must return an object"
  match attempt with
  | .ok _ => pure cap.promise
  | .error e =>
    let _ ← call cap.reject .undefined [e]
    pure cap.promise

/-- The iterator that is used as an asynchronous one. -/
def thisSynchronous (c : Call) : Act Iterator := do
  match (← thisWalk c .fromSyncPrototype "Async-from-Sync Iterator").2 with
  | .synchronous i next => pure ⟨i, next⟩
  | _ => throwType "Async-from-Sync Iterator object expected"

/-- What iterators that are used as asynchronous ones can do. -/
def fromSyncMethods : List Entry :=
  [.method "next" 1 fun c => do
      let i ← thisSynchronous c
      settleResult (← ownCapability) (call i.next i.object [c.argument 0]),
   .method "return" 1 fun c => do
      let i ← thisSynchronous c
      settleResult (← ownCapability) do
        match ← method? i.object (.text "return") with
        | some f => call f i.object [c.argument 0]
        | none => iterResult (c.argument 0) true,
   .method "throw" 1 fun c => do
      let i ← thisSynchronous c
      settleResult (← ownCapability) do
        match ← method? i.object (.text "throw") with
        | some f => call f i.object [c.argument 0]
        | none => throw (c.argument 0)]

/-! ### Iterators made from others -/

/-- The iterator that a method is called on, as it is. -/
def directIterator (v : Value) : Act Iterator := do
  match v with
  | .object r => pure ⟨v, ← getText r "next"⟩
  | _ => throwType "not an object"

/-- An iterator made from another. -/
def helperIterator (w : Walk) : Act Value := do
  pure (.object (← allocate (.make (some Wellknown.helperIteratorPrototype.ref) (.iterator w))))

/-- The iterator of the items that a function gives for one item: an object that is no iterable is an
iterator itself. -/
def innerIterator (v : Value) : Act Iterator := do
  match v with
  | .object _ =>
    match ← method? v WellknownSymbol.iterator.key with
    | some f => iteratorBy v f
    | none => directIterator v
  | _ => throwType "not an object"

/-- A number of items, which must not be negative. -/
def itemLimit (v : Value) : Act Float := do
  let x ← toNumber v
  if x.isNaN then throwRange "must be positive"
  let x := wholePart x
  if x < 0 then throwRange "must be positive" else pure x

/-- The next item of an iterator made from another. -/
def stepHelper (r : Ref) (w : Walk) : Act (Option Value) := do
  match w with
  | .mapped o n f index =>
    match ← Iterator.step ⟨o, n⟩ with
    | some v =>
      setWalk r (.mapped o n f (index + 1))
      pure (some (← Iterator.guard ⟨o, n⟩ false (call f .undefined [v, .ofNat index])))
    | none =>
      setWalk r .over
      pure none
  | .filtered o n f index =>
    loop index fun index => do
      match ← Iterator.step ⟨o, n⟩ with
      | some v =>
        setWalk r (.filtered o n f (index + 1))
        if (← Iterator.guard ⟨o, n⟩ false (call f .undefined [v, .ofNat index])).truth then
          pure (.ok (some v))
        else pure (.error (index + 1))
      | none =>
        setWalk r .over
        pure (.ok none)
  | .flattened o n f index inner =>
    loop (index, inner) fun (index, inner) => do
      match inner with
      | some i =>
        match ← Iterator.guard ⟨o, n⟩ false (Iterator.step ⟨i.1, i.2⟩) with
        | some v =>
          setWalk r (.flattened o n f index inner)
          pure (.ok (some v))
        | none => pure (.error (index, none))
      | none =>
        match ← Iterator.step ⟨o, n⟩ with
        | some v =>
          let i ← Iterator.guard ⟨o, n⟩ false do
            innerIterator (← call f .undefined [v, .ofNat index])
          pure (.error (index + 1, some (i.object, i.next)))
        | none =>
          setWalk r .over
          pure (.ok none)
  | .taken o n left =>
    if left ≤ 0 then
      setWalk r .over
      Iterator.close ⟨o, n⟩
      pure none
    else
      setWalk r (.taken o n (left - 1))
      Iterator.step ⟨o, n⟩
  | .dropped o n left =>
    setWalk r (.dropped o n 0)
    loop left fun left => do
      match ← Iterator.step ⟨o, n⟩ with
      | some v => if left > 0 then pure (.error (left - 1)) else pure (.ok (some v))
      | none => pure (.ok none)
  | _ => stepWalk r w

/-- What iterators made from others can do. -/
def helperMethods : List Entry :=
  [.method "next" 0 fun c => do
      let (r, w) ← thisWalk c .helperIteratorPrototype "Iterator Helper"
      match ← outcome (stepHelper r w) with
      | .ok (some v) => iterResult v false
      | .ok none => iterResult .undefined true
      | .error e =>
        setWalk r .over
        throw e,
   .method "return" 0 fun c => do
      let (r, w) ← thisWalk c .helperIteratorPrototype "Iterator Helper"
      setWalk r .over
      match w with
      | .flattened o n _ _ inner =>
        match inner with
        | some i => Iterator.guard ⟨o, n⟩ false (Iterator.close ⟨i.1, i.2⟩)
        | none => pure ()
        Iterator.close ⟨o, n⟩
      | .mapped o n _ _ | .filtered o n _ _ | .taken o n _ | .dropped o n _ =>
        Iterator.close ⟨o, n⟩
      | _ => pure ()
      iterResult .undefined true]

/-- The value that a method of iterators is called on must be an object. -/
def needIterator (c : Call) : Act Unit := do let _ ← needObject c.this

/-- A method that makes an iterator from another with a function. -/
def helperEntry (name : String) (walk : Iterator → Value → Walk) : Entry :=
  .method name 1 fun c => do
    needIterator c
    needFunction (c.argument 0)
    helperIterator (walk (← directIterator c.this) (c.argument 0))

/-- A method that makes an iterator from another with a number of items. -/
def limitEntry (name : String) (walk : Iterator → Float → Walk) : Entry :=
  .method name 1 fun c => do
    needIterator c
    let n ← itemLimit (c.argument 0)
    helperIterator (walk (← directIterator c.this) n)

/-- A method that calls a function with every item until an item and the function's answer give a
result. -/
def searchEntry (name : String) (result? : Value → Value → Option Value) (otherwise : Value) : Entry :=
  .method name 1 fun c => do
    needIterator c
    needFunction (c.argument 0)
    let i ← directIterator c.this
    loop 0 fun n => do
      match ← i.step with
      | none => pure (.ok otherwise)
      | some v =>
        let answer ← i.guard false (call (c.argument 0) .undefined [v, .ofNat n])
        match result? v answer with
        | none => pure (.error (n + 1))
        | some result =>
          i.close
          pure (.ok result)

/-- What every iterator can do. -/
def iteratorMethods : List Entry :=
  [.symbolic .iterator 0 fun c => pure c.this,
   helperEntry "map" fun i f => .mapped i.object i.next f 0,
   helperEntry "filter" fun i f => .filtered i.object i.next f 0,
   helperEntry "flatMap" fun i f => .flattened i.object i.next f 0 none,
   limitEntry "take" fun i n => .taken i.object i.next n,
   limitEntry "drop" fun i n => .dropped i.object i.next n,
   .method "toArray" 0 fun c => do
      let i ← directIterator c.this
      let items ← loop [] fun items => do
        match ← i.step with
        | none => pure (.ok items.reverse)
        | some v => pure (.error (v :: items))
      newArray items,
   searchEntry "forEach" (fun _ _ => none) .undefined,
   searchEntry "some" (fun _ answer => if answer.truth then some (.bool true) else none) (.bool false),
   searchEntry "every" (fun _ answer => if answer.truth then none else some (.bool false)) (.bool true),
   searchEntry "find" (fun v answer => if answer.truth then some v else none) .undefined,
   .method "reduce" 1 fun c => do
      needIterator c
      needFunction (c.argument 0)
      let i ← directIterator c.this
      let hasStart := c.arguments.length > 1
      let start? ← if hasStart then pure (some (c.argument 1)) else i.step
      match start? with
      | none => throwType "empty iterator"
      | some start =>
        loop (start, if hasStart then 0 else 1) fun (acc, n) => do
          match ← i.step with
          | none => pure (.ok acc)
          | some v =>
            let acc ← i.guard false (call (c.argument 0) .undefined [acc, v, .ofNat n])
            pure (.error (acc, n + 1))]

/-- Iterators. -/
def iteratorFamily : Family :=
  { name := "Iterator", length := 0, proto := .iteratorPrototype, place? := none, parent? := none
    make := fun c => do
      requireNew c
      if c.target? = some c.self then throwType "abstract class not constructable"
      pure (.object (← makeOf c .iteratorPrototype .plain))
    statics :=
      [.method "from" 1 fun c => do
        match c.argument 0 with
        | .object _ | .string _ => pure ()
        | _ => throwType "Iterator.from called on non-object"
        match ← method? (c.argument 0) WellknownSymbol.iterator.key with
        | some f => do pure (← iteratorBy (c.argument 0) f).object
        | none =>
          let i ← directIterator (c.argument 0)
          helperIterator (.dropped i.object i.next 0)]
    constants := [], methods := iteratorMethods, tag? := some "Iterator" }

end Library

end Engine

end NotebookEngine
