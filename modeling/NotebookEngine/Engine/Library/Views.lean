/-
**Views of the library.**

A view is like an array of numbers of one kind whose length does not change.  What arrays do with their
items by reading and writing them one by one, views do in the same way.

Main definitions:

* `Library.thisView` — the view that a method is called on, and its length;
* `Library.buildView` — a new view, of a buffer or of the numbers that a value gives;
* `Library.viewLike` — a new view made by the constructor of another one;
* `Library.views`, `Library.viewFamilies`, `Library.atomics` — families and functions.
-/

import NotebookEngine.Engine.Library.Arrays
import NotebookEngine.Engine.Library.Buffers

set_option autoImplicit false

namespace NotebookEngine

namespace Engine

namespace Library

open Act

/-! ### Items -/

/-- The view that an object is. -/
def viewOf (r : Ref) : Act View := do
  match (← object r).kind with
  | .view v => pure v
  | _ => throwType "not a TypedArray"

/-- The view that a value is. -/
def needView (v : Value) : Act (Ref × View) := do
  match v with
  | .object r => pure (r, ← viewOf r)
  | _ => throwType "not a TypedArray"

/-- The number of items of a view, all of which must be there. -/
def presentLength (v : View) : Act Nat := do
  if ← read fun w => w.viewFits v then read fun w => w.viewLength v
  else throwType "ArrayBuffer is detached or resized"

/-- The view that a method is called on, and its length. -/
def thisView (c : Call) : Act (Ref × View × Nat) := do
  let (r, v) ← needView c.this
  pure (r, v, ← presentLength v)

/-- An item of a view. -/
def viewItem (v : View) (i : Nat) : Act Value := read fun w => (w.viewItem? v i).getD .undefined

/-- The items of a view from a place on, before another. -/
def viewItems (v : View) (start stop : Nat) : Act (List Value) := read fun w =>
  ((List.range (stop - start)).map fun i => (w.viewItem? v (start + i)).getD .undefined)

/-- Put values into an object as its items, from a place on. -/
def setItems (r : Ref) (start : Nat) (vs : List Value) : Act Unit :=
  loop (start, vs) fun (i, vs) => do
    match vs with
    | [] => pure (.ok ())
    | v :: vs =>
      setItem r i v
      pure (.error (i + 1, vs))

/-! ### New views -/

/-- A new view of zeros. -/
def zeroView (c : Call) (e : Element) (n : Nat) : Act Ref := do
  let buffer ← newBuffer (← zeroBuffer (n * e.width) none false)
  makeOf c e.proto (.view ⟨buffer, 0, some n, e⟩)

/-- A new view that holds the numbers that values are. -/
def filledView (c : Call) (e : Element) (vs : List Value) : Act Ref := do
  let r ← zeroView c e vs.length
  setItems r 0 vs
  pure r

/-- A new view of the bytes of a buffer. -/
def bufferView (c : Call) (e : Element) (r : Ref) (b : Buffer) : Act Ref := do
  let offset ← toIndex (c.argument 1)
  needAttached b
  let size := b.bytes.size
  if offset % e.width ≠ 0 || offset > size then throwRange "invalid offset"
  let length? ← match c.argument 2 with
    | .undefined =>
      if b.limit?.isSome then pure none
      else if size % e.width ≠ 0 then throwRange "invalid length"
      else pure (some ((size - offset) / e.width))
    | l => do
      let n ← toIndex l
      if offset + n * e.width > size then throwRange "invalid length" else pure (some n)
  makeOf c e.proto (.view ⟨r, offset, length?, e⟩)

/-- The values that an object gives, by going over it or as its items. -/
def givenItems (r : Ref) : Act (List Value) := do
  match ← method? (.object r) WellknownSymbol.iterator.key with
  | some _ => iterableItems (.object r)
  | none => listItems (.object r)

/-- A new view: of a buffer, of the numbers of another view or of a list, or of zeros. -/
def buildView (e : Element) (c : Call) : Act Value := do
  match c.argument 0 with
  | .object r =>
    match (← object r).kind with
    | .buffer b => do pure (.object (← bufferView c e r b))
    | .view v =>
      let n ← presentLength v
      pure (.object (← filledView c e (← viewItems v 0 n)))
    | _ => do pure (.object (← filledView c e (← givenItems r)))
  | v => do pure (.object (← zeroView c e (← toIndex v)))

/-- The view that a constructor makes, which must have room for a number of items. -/
def constructView (f : Value) (arguments : List Value) (least : Nat) : Act (Ref × View) := do
  match f with
  | .object s =>
    if !(← isConstructor f) then throwType "not a constructor"
    let (r, v) ← needView (← construct s arguments s)
    if (← presentLength v) < least then throwType "TypedArray length is too small"
    pure (r, v)
  | _ => throwType "not a constructor"

/-- The view that the constructor of another one makes. -/
def viewLike (r : Ref) (v : View) (arguments : List Value) (least : Nat) : Act (Ref × View) := do
  let plain : Act (Ref × View) := do
    needView (← buildView v.element ⟨.undefined, arguments, none, r⟩)
  match ← getText r "constructor" with
  | .undefined => plain
  | .object f =>
    match ← getOf f WellknownSymbol.species.key with
    | .undefined | .null => plain
    | s => constructView s arguments least
  | _ => throwType "not a constructor"

/-- A new view of the same kind of items. -/
def sameView (v : View) (vs : List Value) : Act Value := do
  pure (.object (← filledView ⟨.undefined, [], none, v.buffer⟩ v.element vs))

/-! ### Methods -/

/-- The order of items by size: the negative zero comes before the positive one, and what is not a number
last. -/
def sizeOrder (x y : Value) : Ordering :=
  match x, y with
  | .number a, .number b =>
    if a.isNaN || b.isNaN then compare a.isNaN b.isNaN
    else if a < b then .lt
    else if a > b then .gt
    else compare (Script.isNegative b) (Script.isNegative a)
  | .bigint i, .bigint j => compare i j
  | _, _ => .eq

/-- Compares items by a function, or by size. -/
def comparingItems (f : Value) : Comparing := fun s i j => do
  let (x, y) := ((s.slot i).value, (s.slot j).value)
  let o ← if f.isUndefined then pure (sizeOrder x y) else orderBy f x y
  pure (stable s i j o, s)

/-- Items in order. -/
def sortItems (f : Value) (vs : List Value) : Act (List Value) := do
  pure (Slots.values (← sortSlots (comparingItems f) (.ofValues vs)))

/-- The methods of arrays that do the same with views. -/
def sharedNames : List String :=
  ["at", "every", "some", "forEach", "reduce", "reduceRight", "find", "findIndex", "findLast",
   "findLastIndex", "reverse", "join", "indexOf", "lastIndexOf", "includes", "copyWithin",
   "toLocaleString", "values", "keys", "entries"]

/-- The methods that views share with arrays. -/
def sharedMethods : List Entry :=
  ((changingMethods ++ visitingMethods ++ readingMethods).filter fun e =>
    sharedNames.contains e.name).map fun e =>
      { e with answer := fun c => do
          let _ ← thisView c
          e.answer c }

/-- What views tell of themselves. -/
def viewGetters : List Entry :=
  [.getter "buffer" fun c => do pure (.object (← needView c.this).2.buffer),
   .getter "byteLength" fun c => do
      let (_, v) ← needView c.this
      let isThere ← read fun w => w.viewFits v
      let n ← read fun w => w.viewLength v
      pure (.ofNat (if isThere then n * v.element.width else 0)),
   .getter "byteOffset" fun c => do
      let (_, v) ← needView c.this
      pure (.ofNat (if ← read fun w => w.viewFits v then v.offset else 0)),
   .getter "length" fun c => do
      let (_, v) ← needView c.this
      pure (.ofNat (← read fun w => w.viewLength v)),
   ⟨WellknownSymbol.toStringTag.key, "get [Symbol.toStringTag]", 0, .getter, fun c => do
      match c.this with
      | .object r =>
        match (← object r).kind with
        | .view v => pure (.string (v.element.name ++ "Array"))
        | _ => pure .undefined
      | _ => pure .undefined⟩]

/-- The methods that make other views. -/
def makingMethods : List Entry :=
  [.method "map" 1 fun c => do
      let (r, v, n) ← thisView c
      needFunction (c.argument 0)
      let (result, _) ← viewLike r v [.ofNat n] n
      forNumbers n fun i => do setItem result i (← callWith c r i (← viewItem v i))
      pure (.object result),
   .method "filter" 1 fun c => do
      let (r, v, n) ← thisView c
      needFunction (c.argument 0)
      let kept ← loop (0, []) fun (i, kept) => do
        if i < n then
          let x ← viewItem v i
          pure (.error (i + 1, if (← callWith c r i x).truth then x :: kept else kept))
        else pure (.ok kept.reverse)
      let (result, _) ← viewLike r v [.ofNat kept.length] kept.length
      setItems result 0 kept
      pure (.object result),
   .method "slice" 2 fun c => do
      let (r, v, n) ← thisView c
      let start ← relativeIndex (c.argument 0) n 0
      let stop ← relativeIndex (c.argument 1) n n
      let (result, _) ← viewLike r v [.ofNat (stop - start)] (stop - start)
      let present ← presentLength v
      setItems result 0 (← viewItems v start (min stop present))
      pure (.object result),
   .method "subarray" 2 fun c => do
      let (r, v) ← needView c.this
      let n ← read fun w => w.viewLength v
      let start ← relativeIndex (c.argument 0) n 0
      let stop ← relativeIndex (c.argument 1) n n
      let length := if v.length?.isNone && (c.argument 1).isUndefined then []
        else [Value.ofNat (stop - start)]
      let (result, _) ← viewLike r v
        ([.object v.buffer, .ofNat (v.offset + start * v.element.width)] ++ length) 0
      pure (.object result),
   .method "with" 2 fun c => do
      let (_, v, n) ← thisView c
      let x ← toWhole (c.argument 0)
      let x := if x < 0 then x + Float.ofNat n else x
      let item : Value ← if v.element.isBig then do pure (.bigint (← toBigint (c.argument 1)))
        else do pure (.number (← toNumber (c.argument 1)))
      if x < 0 || x ≥ Float.ofNat n then throwRange "invalid array index"
      sameView v ((← viewItems v 0 n).set x.toUInt64.toNat item),
   .method "toReversed" 0 fun c => do
      let (_, v, n) ← thisView c
      sameView v (← viewItems v 0 n).reverse,
   .method "toSorted" 1 fun c => do
      needComparison (c.argument 0)
      let (_, v, n) ← thisView c
      sameView v (← sortItems (c.argument 0) (← viewItems v 0 n))]

/-- The methods that change the items. -/
def writingMethods : List Entry :=
  [.method "set" 1 fun c => do
      let (r, v) ← needView c.this
      let offset ← toWhole (c.argument 1)
      if offset < 0 then throwRange "invalid array length"
      let n ← presentLength v
      let items ← match c.argument 0 with
        | .object s =>
          match (← object s).kind with
          | .view u => do viewItems u 0 (← presentLength u)
          | _ => listItems (.object s)
        | source => do listItems (.object (← toObject source))
      if offset + Float.ofNat items.length > Float.ofNat n then throwRange "invalid array length"
      setItems r offset.toUInt64.toNat items
      pure .undefined,
   .method "fill" 1 fun c => do
      let (r, v, n) ← thisView c
      let item : Value ← if v.element.isBig then do pure (.bigint (← toBigint (c.argument 0)))
        else do pure (.number (← toNumber (c.argument 0)))
      let start ← relativeIndex (c.argument 1) n 0
      let stop ← relativeIndex (c.argument 2) n n
      forNumbers (stop - start) fun i => setItem r (start + i) item
      pure (.object r),
   .method "sort" 1 fun c => do
      needComparison (c.argument 0)
      let (r, v, n) ← thisView c
      setItems r 0 (← sortItems (c.argument 0) (← viewItems v 0 n))
      pure (.object r)]

/-- What every constructor of views holds. -/
def viewStatics : List Entry :=
  [.method "from" 1 fun c => do
      let f := c.argument 1
      if !(← isConstructor c.this) then throwType "not a constructor"
      if !f.isUndefined then needFunction f
      let items ← givenItems (← toObject (c.argument 0))
      let (result, _) ← constructView c.this [.ofNat items.length] items.length
      loop (0, items) fun (i, items) => do
        match items with
        | [] => pure (.ok ())
        | v :: items =>
          setItem result i (← if f.isUndefined then pure v else call f (c.argument 2) [v, .ofNat i])
          pure (.error (i + 1, items))
      pure (.object result),
   .method "of" 0 fun c => do
      let n := c.arguments.length
      let (result, _) ← constructView c.this [.ofNat n] n
      setItems result 0 c.arguments
      pure (.object result),
   speciesEntry]

/-! ### Families -/

/-- What all views have in common. Programs find it only through the views that there are. -/
def views : Family :=
  { name := "TypedArray", length := 0, proto := .viewPrototype, place? := some .viewConstructor
    parent? := none
    make := fun _ => throwType "cannot be called"
    statics := viewStatics, constants := []
    methods := viewGetters ++ makingMethods ++ writingMethods ++ sharedMethods, tag? := none
    aliases := [(WellknownSymbol.iterator.key, "values")]
    isGlobal := false }

/-- The views whose items are of a kind. -/
def viewFamily (e : Element) : Family :=
  { name := e.name ++ "Array", length := 3, proto := e.proto, place? := none
    parent? := some .viewPrototype
    make := fun c => do
      needNew c
      buildView e c
    statics := [], constants := [("BYTES_PER_ELEMENT", .ofNat e.width)], methods := [], tag? := none
    shared := [("BYTES_PER_ELEMENT", .ofNat e.width)] }

/-- All kinds of views. -/
def viewFamilies : List Family :=
  [.uint8Clamped, .int8, .uint8, .int16, .uint16, .int32, .uint32, .bigInt64, .bigUint64, .float16,
   .float32, .float64].map viewFamily

/-! ### Operations that nothing can come between -/

/-- The view of integers and the place that an operation is asked for. -/
def atomicPlace (c : Call) : Act (View × Nat) := do
  let expected {α : Type} : Act α := throwType "integer TypedArray expected"
  match c.argument 0 with
  | .object r =>
    match (← object r).kind with
    | .view v =>
      if v.element.isFloat || v.element = .uint8Clamped then expected
      let i ← toIndex (c.argument 1)
      let n ← presentLength v
      if i ≥ n then throwRange "out-of-bound access" else pure (v, i)
    | _ => expected
  | _ => expected

/-- An operation that changes an item and gives the value it had. -/
def atomicEntry (name : String) (f : Int → Int → Int) : Entry :=
  .method name 3 fun c => do
    let (v, i) ← atomicPlace c
    let e := v.element
    let bits ← elementBits e (c.argument 2)
    let old ← read fun w => (w.buffer v.buffer).read (v.offset + i * e.width) e.width false
    change fun w => w.setViewItem v i (e.ofInt (f old bits))
    pure (e.value old)

/-- An operation on the bits of two natural numbers. -/
def onBits (f : Nat → Nat → Nat) (i j : Int) : Int := f i.toNat j.toNat

/-- Operations on items that nothing can come between. -/
def atomics : Space :=
  { name := "Atomics"
    entries :=
      [atomicEntry "add" (· + ·), atomicEntry "and" (onBits (· &&& ·)),
       atomicEntry "or" (onBits (· ||| ·)), atomicEntry "sub" (· - ·),
       atomicEntry "xor" (onBits (· ^^^ ·)), atomicEntry "exchange" fun _ new => new,
       .method "compareExchange" 4 fun c => do
          let (v, i) ← atomicPlace c
          let e := v.element
          let expected ← elementBits e (c.argument 2)
          let bits ← elementBits e (c.argument 3)
          let old ← read fun w => (w.buffer v.buffer).read (v.offset + i * e.width) e.width false
          if old = expected then change fun w => w.setViewItem v i bits
          pure (e.value old),
       .method "load" 2 fun c => do
          let (v, i) ← atomicPlace c
          viewItem v i,
       .method "store" 3 fun c => do
          let (v, i) ← atomicPlace c
          let e := v.element
          let x : Value ← if e.isBig then do pure (.bigint (← toBigint (c.argument 2)))
            else do pure (.number ((← toWhole (c.argument 2)) + 0))
          let bits ← elementBits e x
          change fun w => w.setViewItem v i bits
          pure x,
       .method "isLockFree" 1 fun c => do
          let n ← toWhole (c.argument 0)
          pure (.bool (n == 1 || n == 2 || n == 4 || n == 8)),
       .method "wait" 4 fun c => do
          let (v, _) ← atomicPlace c
          if (← bufferAt v.buffer).shared then throwType "cannot block in this thread"
          else throwType "not a SharedArrayBuffer TypedArray",
       .method "notify" 3 fun c => do
          let _ ← atomicPlace c
          pure (.number 0)]
    constants := [], tag? := some "Atomics" }

end Library

end Engine

end NotebookEngine
