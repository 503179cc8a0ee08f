/-
**Arrays of the library.**

The methods of arrays work on every object that has a length and numbered properties.

Main definitions:

* `Library.arrays` — arrays.
-/

import NotebookEngine.Engine.Library.Sorting
import NotebookEngine.Engine.Library.Entry

set_option autoImplicit false

namespace NotebookEngine

namespace Engine

namespace Library

open Act

/-! ### Items -/

/-- The object that a method is called on, and its length. -/
def thisList (c : Call) : Act (Ref × Nat) := do
  let r ← toObject c.this
  pure (r, ← lengthOf r)

/-- Whether an item is there. -/
def hasItem (r : Ref) (i : Nat) : Act Bool := hasProperty r (.index i)

/-- An item. -/
def item (r : Ref) (i : Nat) : Act Value := getOf r (.index i)

/-- An item, if it is there. -/
def item? (r : Ref) (i : Nat) : Act (Option Value) := do
  if ← hasItem r i then pure (some (← item r i)) else pure none

/-- Set an item. -/
def setItem (r : Ref) (i : Nat) (v : Value) : Act Unit := put r (.index i) v

/-- Remove an item. -/
def removeItem (r : Ref) (i : Nat) : Act Unit := do
  if !(← deleteFrom r (.index i)) then throwType "could not delete property"

/-- Set the length. -/
def setLength (r : Ref) (n : Nat) : Act Unit := putText r "length" (.ofNat n)

/-- Go over the items that are there, from the first to the last. -/
def forItems (r : Ref) (n : Nat) (f : Nat → Value → Act Unit) : Act Unit :=
  forNumbers n fun i => do
    match ← item? r i with
    | some v => f i v
    | none => pure ()

/-- Set an item, or remove it. -/
def moveItem (r : Ref) (i : Nat) (v? : Option Value) : Act Unit :=
  match v? with
  | some v => setItem r i v
  | none => removeItem r i

/-- Move `count` items from one place on to another, in the order that keeps them apart. -/
def moveItems (r : Ref) (target source count : Nat) (backwards : Bool) : Act Unit :=
  forNumbers count fun i => do
    let k := if backwards then count - 1 - i else i
    moveItem r (target + k) (← item? r (source + k))

/-- The greatest length that a list may have. -/
def longest : Nat := Nat.pow 2 53 - 1

/-- Throw if a list would get too long. -/
def needRoom (n : Nat) : Act Unit := if n > longest then throwType "Array loo long" else pure ()

/-- Throw if a new array would get too long. -/
def needSize (n : Nat) : Act Unit :=
  if n ≥ Nat.pow 2 31 then throwRange "Invalid array length" else pure ()

/-- Go over the items that are there, with a state, until there is a result. -/
def searchItems {α : Type} (n : Nat) (f : Nat → Act (Option α)) : Act (Option α) :=
  loop 0 fun i => do
    if i < n then
      match ← f i with
      | some a => pure (.ok (some a))
      | none => pure (.error (i + 1))
    else pure (.ok none)

/-- Go over the items from the last to the first until there is a result. -/
def searchBack {α : Type} (n : Nat) (f : Nat → Act (Option α)) : Act (Option α) :=
  loop n fun i => do
    if i > 0 then
      match ← f (i - 1) with
      | some a => pure (.ok (some a))
      | none => pure (.error (i - 1))
    else pure (.ok none)

/-- The items of a copy, those that are missing undefined. -/
def copiedItems (r : Ref) (start stop : Nat) : Act (List Value) :=
  loop (start, []) fun (i, acc) => do
    if i < stop then pure (.error (i + 1, ((← item? r i).getD .undefined) :: acc))
    else pure (.ok acc.reverse)

/-- An array for the result of a method, made by the constructor of the array it is called on. -/
def resultArray (r : Ref) (length : Nat) : Act Ref := do
  let plain : Act Ref := do
    if length > 4294967295 then throwRange "invalid array length"
    allocate (.make (some Wellknown.arrayPrototype.ref) (.array #[] length true true))
  if !(← isArray (.object r)) then plain
  else
    match ← getText r "constructor" with
    | .undefined => plain
    | .object f =>
      if f = Wellknown.arrayConstructor.ref then plain
      else
        match ← getOf f WellknownSymbol.species.key with
        | .undefined | .null => plain
        | .object s =>
          if s = Wellknown.arrayConstructor.ref then plain
          else
            match ← construct s [.ofNat length] s with
            | .object made => pure made
            | _ => plain
        | _ => throwType "not a constructor"
    | _ => throwType "not a constructor"

/-- Replace some items of an array: the items that were replaced. Nothing is done, and nothing given, unless
all items of the array are there and may be changed. -/
def replaceDense (r : Ref) (start count : Nat) (added : List Value) : Act (Option (List Value)) :=
  update fun w =>
    match w.object r with
    | ⟨_, true, .array items length true true, properties⟩ =>
      let numbered := properties.any fun (k, _) =>
        match k with
        | .index _ => true
        | _ => false
      if items.size = length && start + count ≤ length && !numbered && items.all Option.isSome then
        let replaced := (items.extract start (start + count)).toList.filterMap id
        let items := items.extract 0 start ++ (added.map some).toArray ++
          items.extract (start + count) length
        (some replaced, w.modify r fun o => { o with kind := .array items items.size true true })
      else (none, w)
    | _ => (none, w)

/-- Give an object a numbered property. -/
def defineItem (r : Ref) (i : Nat) (v : Value) : Act Unit := defineOn r (.index i) v

/-- Call the function that a method was given with an item. -/
def callWith (c : Call) (r : Ref) (i : Nat) (v : Value) : Act Value :=
  call (c.argument 0) (c.argument 1) [v, .ofNat i, .object r]

/-! ### Flattening and joining -/

/-- Put the `n` items of a list into an array from a place on, with the items of arrays among them in their
stead, to some depth; a function may be asked for what stands for an item. The next free place. -/
def flattenInto (target : Ref) :
    Nat → (Nat → Value → Act Value) → Ref → Nat → Nat → Act Nat
  | 0, f, r, n, start =>
    loop (0, start) fun (i, k) => do
      if i < n then
        match ← item? r i with
        | some v =>
          defineItem target k (← f i v)
          pure (.error (i + 1, k + 1))
        | none => pure (.error (i + 1, k))
      else pure (.ok k)
  | depth + 1, f, r, n, start =>
    loop (0, start) fun (i, k) => do
      if i < n then
        match ← item? r i with
        | some v =>
          let v ← f i v
          if ← isArray v then
            let inner ← toObject v
            let k ← flattenInto target depth (fun _ v => pure v) inner (← lengthOf inner) k
            pure (.error (i + 1, k))
          else
            defineItem target k v
            pure (.error (i + 1, k + 1))
        | none => pure (.error (i + 1, k))
      else pure (.ok k)

/-- The texts of items with a text between them. -/
def joinItems (r : Ref) (n : Nat) (sep : String) : Act String :=
  loop (0, "") fun (i, text) => do
    if i < n then
      let v ← item r i
      let part ← if v.isNothing then pure "" else toText v
      let text := if i = 0 then part else Script.append (Script.append text sep) part
      pure (.error (i + 1, text))
    else pure (.ok text)

/-- Whether a value's items are to be put in when arrays are put one after the other. -/
def isSpreadable (v : Value) : Act Bool := do
  match v with
  | .object r =>
    match ← getOf r WellknownSymbol.isConcatSpreadable.key with
    | .undefined => isArray v
    | s => pure s.truth
  | _ => pure false

/-- An iterator over the items of an object. -/
def itemIterator (c : Call) (part : Part) : Act Value := do
  let r ← toObject c.this
  pure (.object (← allocate
    (.make (some Wellknown.arrayIteratorPrototype.ref) (.iterator (.items r 0 part)))))

/-- Replace some of `n` items one by one, those that follow moved to where they belong. -/
def replaceItems (r : Ref) (n start count : Nat) (added : List Value) : Act Unit := do
  let size := n - count + added.length
  if added.length ≠ count then
    moveItems r (start + added.length) (start + count) (n - (start + count)) (added.length > count)
    forNumbers (n - size) fun i => removeItem r (n - 1 - i)
  let _ ← added.foldlM (fun i v => do
    setItem r i v
    pure (i + 1)) start
  setLength r size

/-! ### Methods that change the array -/

/-- The methods that change the array they are called on. -/
def changingMethods : List Entry :=
  [.method "push" 1 fun c => do
      let (r, n) ← thisList c
      needRoom (n + c.arguments.length)
      let n ← c.arguments.foldlM (fun n v => do
        setItem r n v
        pure (n + 1)) n
      setLength r n
      pure (.ofNat n),
   .method "pop" 0 fun c => do
      let (r, n) ← thisList c
      if n = 0 then
        setLength r 0
        pure .undefined
      else
        let v ← item r (n - 1)
        removeItem r (n - 1)
        setLength r (n - 1)
        pure v,
   .method "shift" 0 fun c => do
      let (r, n) ← thisList c
      if n = 0 then
        setLength r 0
        pure .undefined
      else
        match ← replaceDense r 0 1 [] with
        | some replaced => pure (replaced.headD .undefined)
        | none =>
          let first ← item r 0
          moveItems r 0 1 (n - 1) false
          removeItem r (n - 1)
          setLength r (n - 1)
          pure first,
   .method "unshift" 1 fun c => do
      let (r, n) ← thisList c
      let k := c.arguments.length
      needRoom (n + k)
      if (← replaceDense r 0 0 c.arguments).isSome then return .ofNat (n + k)
      if k > 0 then
        moveItems r k 0 n true
        let _ ← c.arguments.foldlM (fun i v => do
          setItem r i v
          pure (i + 1)) 0
      setLength r (n + k)
      pure (.ofNat (n + k)),
   .method "reverse" 0 fun c => do
      let (r, n) ← thisList c
      forNumbers (n / 2) fun i => do
        let j := n - 1 - i
        let low? ← item? r i
        let high? ← item? r j
        if low?.isSome || high?.isSome then
          moveItem r i high?
          moveItem r j low?
      pure (.object r),
   .method "sort" 1 fun c => do
      needComparison (c.argument 0)
      let (r, n) ← thisList c
      let (found, missing) ← loop (0, #[], 0) fun (i, found, missing) => do
        if i ≥ n then pure (.ok (found, missing))
        else
          match ← item? r i with
          | none => pure (.error (i + 1, found, missing))
          | some .undefined => pure (.error (i + 1, found, missing + 1))
          | some v => pure (.error (i + 1, found.push ⟨v, none, i⟩, missing))
      let sorted ← sortSlots (comparing (c.argument 0)) found
      forNumbers sorted.size fun i => do
        let slot := Slots.slot sorted i
        if slot.place ≠ i then setItem r i slot.value
      forNumbers missing fun i => setItem r (sorted.size + i) .undefined
      forNumbers (n - sorted.size - missing) fun i => removeItem r (sorted.size + missing + i)
      pure (.object r),
   .method "splice" 2 fun c => do
      let (r, n) ← thisList c
      let start ← relativeIndex (c.argument 0) n 0
      let count ← match c.arguments with
        | [] => pure 0
        | [_] => pure (n - start)
        | _ :: k :: _ => do
          let x ← toWhole k
          pure (min (n - start) (if x > 0 then (clampIndex x n) else 0))
      let added := c.arguments.drop 2
      needRoom (n - count + added.length)
      let removed ← resultArray r count
      forNumbers count fun i => do
        match ← item? r (start + i) with
        | some v => defineItem removed i v
        | none => pure ()
      setLength removed count
      if (← replaceDense r start count added).isNone then replaceItems r n start count added
      pure (.object removed),
   .method "fill" 1 fun c => do
      let (r, n) ← thisList c
      let start ← relativeIndex (c.argument 1) n 0
      let stop ← relativeIndex (c.argument 2) n n
      forNumbers (stop - start) fun i => setItem r (start + i) (c.argument 0)
      pure (.object r),
   .method "copyWithin" 2 fun c => do
      let (r, n) ← thisList c
      let target ← relativeIndex (c.argument 0) n 0
      let start ← relativeIndex (c.argument 1) n 0
      let stop ← relativeIndex (c.argument 2) n n
      let count := min (stop - start) (n - target)
      moveItems r target start count (start < target && target < start + count)
      pure (.object r)]

/-! ### Methods that call a function -/

/-- The methods that call a function for every item. -/
def visitingMethods : List Entry :=
  [.method "forEach" 1 fun c => do
      let (r, n) ← thisList c
      needFunction (c.argument 0)
      forItems r n fun i v => do let _ ← callWith c r i v
      pure .undefined,
   .method "map" 1 fun c => do
      let (r, n) ← thisList c
      needFunction (c.argument 0)
      let result ← resultArray r n
      forItems r n fun i v => do defineItem result i (← callWith c r i v)
      pure (.object result),
   .method "filter" 1 fun c => do
      let (r, n) ← thisList c
      needFunction (c.argument 0)
      let result ← resultArray r 0
      let _ ← loop (0, 0) fun (i, k) => do
        if i < n then
          match ← item? r i with
          | some v =>
            if (← callWith c r i v).truth then
              defineItem result k v
              pure (.error (i + 1, k + 1))
            else pure (.error (i + 1, k))
          | none => pure (.error (i + 1, k))
        else pure (.ok k)
      pure (.object result),
   .method "some" 1 fun c => do
      let (r, n) ← thisList c
      needFunction (c.argument 0)
      let found ← searchItems n fun i => do
        if ← hasItem r i then
          if (← callWith c r i (← item r i)).truth then pure (some ()) else pure none
        else pure none
      pure (.bool found.isSome),
   .method "every" 1 fun c => do
      let (r, n) ← thisList c
      needFunction (c.argument 0)
      let found ← searchItems n fun i => do
        if ← hasItem r i then
          if (← callWith c r i (← item r i)).truth then pure none else pure (some ())
        else pure none
      pure (.bool found.isNone),
   .method "find" 1 fun c => do
      let (r, n) ← thisList c
      needFunction (c.argument 0)
      pure ((← searchItems n fun i => do
        let v ← item r i
        if (← callWith c r i v).truth then pure (some v) else pure none).getD .undefined),
   .method "findIndex" 1 fun c => do
      let (r, n) ← thisList c
      needFunction (c.argument 0)
      let found ← searchItems n fun i => do
        if (← callWith c r i (← item r i)).truth then pure (some i) else pure none
      pure (found.elim (.number (-1)) .ofNat),
   .method "findLast" 1 fun c => do
      let (r, n) ← thisList c
      needFunction (c.argument 0)
      pure ((← searchBack n fun i => do
        let v ← item r i
        if (← callWith c r i v).truth then pure (some v) else pure none).getD .undefined),
   .method "findLastIndex" 1 fun c => do
      let (r, n) ← thisList c
      needFunction (c.argument 0)
      let found ← searchBack n fun i => do
        if (← callWith c r i (← item r i)).truth then pure (some i) else pure none
      pure (found.elim (.number (-1)) .ofNat),
   .method "reduce" 1 fun c => do
      let (r, n) ← thisList c
      needFunction (c.argument 0)
      let start ← if c.arguments.length > 1 then pure (some (0, c.argument 1))
        else searchItems n fun i => do
          if ← hasItem r i then pure (some (i + 1, ← item r i)) else pure none
      match start with
      | none => throwType "empty array"
      | some (i, v) =>
        loop (i, v) fun (i, acc) => do
          if i < n then
            if ← hasItem r i then
              let acc ← call (c.argument 0) .undefined [acc, ← item r i, .ofNat i, .object r]
              pure (.error (i + 1, acc))
            else pure (.error (i + 1, acc))
          else pure (.ok acc),
   .method "reduceRight" 1 fun c => do
      let (r, n) ← thisList c
      needFunction (c.argument 0)
      let start ← if c.arguments.length > 1 then pure (some (n, c.argument 1))
        else searchBack n fun i => do
          if ← hasItem r i then pure (some (i, ← item r i)) else pure none
      match start with
      | none => throwType "empty array"
      | some (i, v) =>
        loop (i, v) fun (i, acc) => do
          if i > 0 then
            if ← hasItem r (i - 1) then
              let acc ← call (c.argument 0) .undefined
                [acc, ← item r (i - 1), .ofNat (i - 1), .object r]
              pure (.error (i - 1, acc))
            else pure (.error (i - 1, acc))
          else pure (.ok acc),
   .method "flatMap" 1 fun c => do
      let (r, n) ← thisList c
      needFunction (c.argument 0)
      let result ← resultArray r 0
      let _ ← flattenInto result 1 (callWith c r) r n 0
      pure (.object result)]

/-! ### Other methods -/

/-- The methods that only read. -/
def readingMethods : List Entry :=
  [.method "at" 1 fun c => do
      let (r, n) ← thisList c
      let x ← toWhole (c.argument 0)
      let x := if x < 0 then x + Float.ofNat n else x
      if x < 0 || x ≥ Float.ofNat n then pure .undefined
      else do pure ((← item? r x.toUInt64.toNat).getD .undefined),
   .method "with" 2 fun c => do
      let (r, n) ← thisList c
      let x ← toWhole (c.argument 0)
      let x := if x < 0 then x + Float.ofNat n else x
      if x < 0 || x ≥ Float.ofNat n then
        throwRange ("invalid array index: " ++ Script.numberText x)
      else
        needSize n
        let i := x.toUInt64.toNat
        newArray ((← copiedItems r 0 i) ++ c.argument 1 :: (← copiedItems r (i + 1) n)),
   .method "concat" 1 fun c => do
      let r ← toObject c.this
      let result ← resultArray r 0
      let n ← (.object r :: c.arguments).foldlM (fun n v => do
        match v with
        | .object s =>
          if ← isSpreadable v then
            let m ← lengthOf s
            needRoom (n + m)
            forItems s m fun i x => defineItem result (n + i) x
            pure (n + m)
          else
            defineItem result n v
            pure (n + 1)
        | _ =>
          defineItem result n v
          pure (n + 1)) 0
      setLength result n
      pure (.object result),
   .method "slice" 2 fun c => do
      let (r, n) ← thisList c
      let start ← relativeIndex (c.argument 0) n 0
      let stop ← relativeIndex (c.argument 1) n n
      let result ← resultArray r (stop - start)
      forNumbers (stop - start) fun i => do
        match ← item? r (start + i) with
        | some v => defineItem result i v
        | none => pure ()
      setLength result (stop - start)
      pure (.object result),
   .method "flat" 0 fun c => do
      let (r, n) ← thisList c
      let depth ← if (c.argument 0).isUndefined then pure 1 else do
        let x ← toWhole (c.argument 0)
        pure (if x ≤ 0 then 0 else if x > 1000 then 1000 else x.toUInt64.toNat)
      let result ← resultArray r 0
      let _ ← flattenInto result depth (fun _ v => pure v) r n 0
      pure (.object result),
   .method "includes" 1 fun c => do
      let (r, n) ← thisList c
      let start ← relativeIndex (c.argument 1) n 0
      let found ← searchItems (n - start) fun i => do
        if (← item r (start + i)).alike (c.argument 0) then pure (some ()) else pure none
      pure (.bool found.isSome),
   .method "indexOf" 1 fun c => do
      let (r, n) ← thisList c
      let start ← relativeIndex (c.argument 1) n 0
      let found ← searchItems (n - start) fun i => do
        if ← hasItem r (start + i) then
          if (← item r (start + i)).strictlyEqual (c.argument 0) then pure (some (start + i))
          else pure none
        else pure none
      pure (found.elim (.number (-1)) .ofNat),
   .method "lastIndexOf" 1 fun c => do
      let (r, n) ← thisList c
      let stop ← if c.arguments.length > 1 then do
          let x ← toWhole (c.argument 1)
          let x := if x < 0 then x + Float.ofNat n else x
          pure (if x < 0 then 0 else min n (clampIndex (x + 1) n))
        else pure n
      let found ← searchBack stop fun i => do
        if ← hasItem r i then
          if (← item r i).strictlyEqual (c.argument 0) then pure (some i) else pure none
        else pure none
      pure (found.elim (.number (-1)) .ofNat),
   .method "join" 1 fun c => do
      let (r, n) ← thisList c
      let sep ← if (c.argument 0).isUndefined then pure "," else toText (c.argument 0)
      pure (.string (← joinItems r n sep)),
   .method "toString" 0 fun c => do
      let r ← toObject c.this
      let f ← getText r "join"
      if ← isCallable f then call f (.object r) [] else invoke c.this "toString" [],
   .method "toLocaleString" 0 fun c => do
      let (r, n) ← thisList c
      let text ← loop (0, "") fun (i, text) => do
        if i < n then
          let v ← item r i
          let part ← if v.isNothing then pure "" else do toText (← invoke v "toLocaleString" [])
          pure (.error (i + 1, if i = 0 then part else text ++ "," ++ part))
        else pure (.ok text)
      pure (.string text),
   .method "toReversed" 0 fun c => do
      let (r, n) ← thisList c
      needSize n
      newArray (← loop (n, []) fun (i, acc) => do
        if i = 0 then pure (.ok acc.reverse)
        else pure (.error (i - 1, ((← item? r (i - 1)).getD .undefined) :: acc))),
   .method "toSorted" 1 fun c => do
      needComparison (c.argument 0)
      let (r, n) ← thisList c
      needSize n
      newArray (← sortValues (c.argument 0) (← copiedItems r 0 n)),
   .method "toSpliced" 2 fun c => do
      let (r, n) ← thisList c
      let start ← relativeIndex (c.argument 0) n 0
      let count ← match c.arguments with
        | [] => pure 0
        | [_] => pure (n - start)
        | _ :: k :: _ => do
          let x ← toWhole k
          pure (min (n - start) (if x > 0 then (clampIndex x n) else 0))
      let added := c.arguments.drop 2
      let size := n - count + added.length
      if size > longest then throwType "invalid array length"
      needSize size
      newArray ((← copiedItems r 0 start) ++ added ++ (← copiedItems r (start + count) n)),
   .method "keys" 0 fun c => itemIterator c .keys,
   .method "entries" 0 fun c => itemIterator c .entries,
   .method "values" 0 fun c => itemIterator c .values]

/-! ### Arrays -/

/-- What a constructor of arrays fills with items. -/
def newListFor (c : Call) (length? : Option Nat) : Act Ref := do
  match c.this with
  | .object f =>
    if (← object f).isConstructor && f ≠ Wellknown.arrayConstructor.ref then
      let arguments := length?.elim [] fun n => [Value.ofNat n]
      match ← construct f arguments f with
      | .object r => pure r
      | _ => throwType "not an object"
    else allocate (.make (some Wellknown.arrayPrototype.ref) (.array #[] 0 true true))
  | _ => allocate (.make (some Wellknown.arrayPrototype.ref) (.array #[] 0 true true))

/-- An array of the items of a value, each of which is waited for. -/
def awaitedList (c : Call) : Act Value := do
  let source := c.argument 0
  let f := c.argument 1
  if !f.isUndefined then needFunction f
  let convert (v : Value) (i : Nat) : Act Value := do
    if f.isUndefined then pure v else awaitValue (← call f (c.argument 2) [v, .ofNat i])
  let goesOver := (← method? source WellknownSymbol.asyncIterator.key).isSome ||
    (← method? source WellknownSymbol.iterator.key).isSome
  if goesOver then
    let r ← newListFor c none
    let i ← asyncIteratorOf source
    let n ← loop 0 fun n => do
      match ← awaitValue (← call i.next i.object []) with
      | .object result =>
        if (← getText result "done").truth then pure (.ok n)
        else
          match ← outcome (do defineItem r n (← convert (← getText result "value") n)) with
          | .ok _ => pure (.error (n + 1))
          | .error e => i.abandon e
      | _ => throwType "iterator must return an object"
    setLength r n
    pure (.object r)
  else
    let list ← toObject source
    let n ← lengthOf list
    let r ← newListFor c (some n)
    forNumbers n fun i => do defineItem r i (← convert (← awaitValue (← item list i)) i)
    setLength r n
    pure (.object r)

/-- What the constructor of arrays holds. -/
def arrayStatics : List Entry :=
  [.method "isArray" 1 fun c => do pure (.bool (← isArray (c.argument 0))),
   .method "of" 0 fun c => do
      let r ← newListFor c (some c.arguments.length)
      let n ← c.arguments.foldlM (fun i v => do
        defineItem r i v
        pure (i + 1)) 0
      setLength r n
      pure (.object r),
   .method "from" 1 fun c => do
      let f := c.argument 1
      if !f.isUndefined then needFunction f
      let convert (v : Value) (i : Nat) : Act Value :=
        if f.isUndefined then pure v else call f (c.argument 2) [v, .ofNat i]
      let source := c.argument 0
      let g ← get source WellknownSymbol.iterator.key
      if !g.isNothing then
        if !(← isCallable g) then throwType "value is not iterable"
        let r ← newListFor c none
        let i ← iteratorBy source g
        let n ← loop 0 fun n => do
          match ← i.step with
          | none => pure (.ok n)
          | some v =>
            match ← outcome (do defineItem r n (← convert v n)) with
            | .ok _ => pure (.error (n + 1))
            | .error e => i.abandon e
        setLength r n
        pure (.object r)
      else
        let list ← toObject source
        let n ← lengthOf list
        let r ← newListFor c (some n)
        forNumbers n fun i => do defineItem r i (← convert (← item list i) i)
        setLength r n
        pure (.object r),
   .method "fromAsync" 1 fun c => startAsync (awaitedList c),
   ⟨WellknownSymbol.species.key, "get [Symbol.species]", 0, .getter, fun c => pure c.this⟩]

/-- The names of methods that a text with `with` does not take for variables. -/
def unscopableNames : List String :=
  ["at", "copyWithin", "entries", "fill", "find", "findIndex", "findLast", "findLastIndex", "flat",
   "flatMap", "includes", "keys", "toReversed", "toSorted", "toSpliced", "values"]

/-- Arrays. -/
def arrays : Family :=
  { name := "Array", length := 1, proto := .arrayPrototype, place? := some .arrayConstructor
    parent? := none
    make := fun c => do
      let kind : Kind ← match c.arguments with
        | [.number x] => do
          let n ← validLength (.number x)
          pure (.array #[] n true true)
        | vs => pure (.array (vs.map some).toArray vs.length true true)
      pure (.object (← makeOf c .arrayPrototype kind))
    statics := arrayStatics, constants := []
    methods := changingMethods ++ visitingMethods ++ readingMethods, tag? := none
    aliases := [(WellknownSymbol.iterator.key, "values")] }

end Library

end Engine

end NotebookEngine
