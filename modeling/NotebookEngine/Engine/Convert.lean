/-
**Conversions between values.**

Main definitions:

* `Engine.toPrimitive`, `Engine.toText`, `Engine.toNumber`, `Engine.toObject`, `Engine.toKey` —
  conversions;
* `Engine.looselyEqual`, `Engine.lessThan`, `Engine.typeName` — comparisons;
* `Engine.iteratorOf`, `Engine.iterate`, `Engine.iterableItems` — going over the items of a value.
-/

import NotebookEngine.Engine.Property
import NotebookEngine.Text.Numeral

set_option autoImplicit false

namespace NotebookEngine

namespace Engine

open Act

/-! ### Primitive values -/

/-- The kind of primitive value that is wanted. -/
inductive Wanted where
  | text
  | number
  | any
  deriving DecidableEq

/-- The name of a wanted kind. -/
def Wanted.name : Wanted → String
  | .text => "string"
  | .number => "number"
  | .any => "default"

/-- A value as one that is no object. -/
def toPrimitive (v : Value) (wanted : Wanted) : Act Value := do
  match v with
  | .object r =>
    match ← method? v WellknownSymbol.toPrimitive.key with
    | some f =>
      match ← call f v [.string wanted.name] with
      | .object _ => throwType "toPrimitive"
      | p => pure p
    | none =>
      let attempt (name : String) : Act (Option Value) := do
        let f ← getText r name
        if ← isCallable f then
          match ← call f v [] with
          | .object _ => pure none
          | p => pure (some p)
        else pure none
      let (first, second) :=
        if wanted = .text then ("toString", "valueOf") else ("valueOf", "toString")
      match ← attempt first with
      | some p => pure p
      | none =>
        match ← attempt second with
        | some p => pure p
        | none => throwType "toPrimitive"
  | _ => pure v

/-- The text of a value that is no object. -/
def primitiveText (v : Value) : Act String :=
  match v with
  | .undefined => pure "undefined"
  | .null => pure "null"
  | .bool b => pure (if b then "true" else "false")
  | .number x => pure (Script.numberText x)
  | .bigint i => pure (toString i)
  | .string s => pure s
  | .symbol _ => throwType "cannot convert symbol to string"
  | .object _ => pure ""

/-- The text of a value. -/
def toText (v : Value) : Act String := do
  match v with
  | .string s => pure s
  | .object _ => primitiveText (← toPrimitive v .text)
  | _ => primitiveText v

/-- The number that a value without parts is. -/
def primitiveNumber (v : Value) : Act Float :=
  match v with
  | .undefined => pure Script.nan
  | .null => pure 0
  | .bool b => pure (if b then 1 else 0)
  | .number x => pure x
  | .bigint _ => throwType "cannot convert BigInt to number"
  | .string s => pure (Numeral.ofText s)
  | .symbol _ => throwType "cannot convert symbol to number"
  | .object _ => pure Script.nan

/-- The number that a value is. -/
def toNumber (v : Value) : Act Float := do
  match v with
  | .number x => pure x
  | .object _ => primitiveNumber (← toPrimitive v .number)
  | _ => primitiveNumber v

/-- A number or a big integer. -/
inductive Numeric where
  | number (x : Float)
  | bigint (i : Int)

/-- The number or big integer that a value is. -/
def toNumeric (v : Value) : Act Numeric := do
  match v with
  | .number x => pure (.number x)
  | _ =>
    match ← toPrimitive v .number with
    | .bigint i => pure (.bigint i)
    | p => pure (.number (← primitiveNumber p))

/-- The big integer that a value is. -/
def toBigint (v : Value) : Act Int := do
  match ← toPrimitive v .number with
  | .bigint i => pure i
  | .bool b => pure (if b then 1 else 0)
  | .string s =>
    match Numeral.bigint? s with
    | some i => pure i
    | none => throwFault .syntaxError "invalid BigInt literal"
  | _ => throwType "cannot convert to BigInt"

/-- A number without its fraction; not a number counts as zero. -/
def wholePart (x : Float) : Float :=
  if x.isNaN then 0 else if x.isInf then x else if x < 0 then x.ceil + 0 else x.floor

/-- The number that a value is, without its fraction. -/
def toWhole (v : Value) : Act Float := do pure (wholePart (← toNumber v))

/-- A place that counts from the end if it is negative, kept within a length. -/
def clampIndex (x : Float) (length : Nat) : Nat :=
  if x < 0 then
    let y := x + Float.ofNat length
    if y < 0 then 0 else y.toUInt64.toNat
  else if x > Float.ofNat length then length
  else x.toUInt64.toNat

/-- A place among items, given by a value that may be left out. -/
def relativeIndex (v : Value) (length missing : Nat) : Act Nat := do
  match v with
  | .undefined => pure missing
  | _ => pure (clampIndex (← toWhole v) length)

/-- The natural number that a value gives as a length. -/
def toLength (v : Value) : Act Nat := do
  let x ← toWhole v
  pure (if x ≤ 0 then 0 else if x > 9007199254740991 then 9007199254740991 else x.toUInt64.toNat)

/-- The natural number that a value gives as a place; nothing counts as zero. -/
def toIndex (v : Value) : Act Nat := do
  let x ← toWhole v
  if x < 0 || x > 9007199254740991 then throwRange "invalid array index" else pure x.toUInt64.toNat

/-! ### Objects and keys -/

/-- The object that a value is, or that is made for it. -/
def toObject (v : Value) : Act Ref := do
  match v with
  | .object r => pure r
  | _ =>
    match protoOfPrimitive v with
    | some p => allocate (.make (some p) (.boxed v))
    | none => throwType "Cannot convert undefined or null to object"

/-- The key that a value is. -/
def toKey (v : Value) : Act Key := do
  match v with
  | .string s => pure (.ofString s)
  | .number x => pure (.ofNumber x)
  | .symbol id => pure (.symbol id)
  | _ =>
    match ← toPrimitive v .text with
    | .symbol id => pure (.symbol id)
    | p => pure (.ofString (← primitiveText p))

/-- The length that an object tells. -/
def lengthOf (r : Ref) : Act Nat := do
  match (← object r).kind with
  | .array _ length _ _ => pure length
  | _ => toLength (← getText r "length")

/-! ### Comparisons -/

/-- The name of a value's type. -/
def typeName (v : Value) : Act String := do
  match v with
  | .undefined => pure "undefined"
  | .null => pure "object"
  | .bool _ => pure "boolean"
  | .number _ => pure "number"
  | .bigint _ => pure "bigint"
  | .string _ => pure "string"
  | .symbol _ => pure "symbol"
  | .object r => pure (if (← object r).isCallable then "function" else "object")

/-- Compare a big integer with a number; nothing if it is not a number. -/
def compareBigint (i : Int) (x : Float) : Option Ordering :=
  if x.isNaN then none
  else if x.isInf then some (if x > 0 then .lt else .gt)
  else
    let n := Script.toInteger x
    some (if i < n then .lt else if i > n then .gt
      else
        let fraction := x - Float.ofInt n
        if fraction > 0 then .lt else if fraction < 0 then .gt else .eq)

/-- Whether two values are equal after conversions. -/
def looselyEqual (a b : Value) : Act Bool :=
  loop (a, b) fun (a, b) => do
    match a, b with
    | .number _, .number _ | .string _, .string _ | .bool _, .bool _ | .bigint _, .bigint _
    | .symbol _, .symbol _ | .object _, .object _ => pure (.ok (a.strictlyEqual b))
    | .undefined, _ | .null, _ => pure (.ok b.isNothing)
    | _, .undefined | _, .null => pure (.ok false)
    | .bool x, _ => pure (.error (.number (if x then 1 else 0), b))
    | _, .bool y => pure (.error (a, .number (if y then 1 else 0)))
    | .object _, _ => pure (.error (← toPrimitive a .any, b))
    | _, .object _ => pure (.error (a, ← toPrimitive b .any))
    | .number x, .string s => pure (.ok (x == Numeral.ofText s))
    | .string s, .number x => pure (.ok (x == Numeral.ofText s))
    | .bigint i, .number x => pure (.ok (compareBigint i x = some .eq))
    | .number x, .bigint i => pure (.ok (compareBigint i x = some .eq))
    | .bigint i, .string s => pure (.ok (Numeral.bigint? s = some i))
    | .string s, .bigint i => pure (.ok (Numeral.bigint? s = some i))
    | _, _ => pure (.ok false)

/-- Compare two values that are no objects; nothing if one is not a number. -/
def comparePrimitives (a b : Value) : Act (Option Ordering) := do
  match a, b with
  | .string s, .string t =>
    pure (some (if s = t then .eq else if Script.textBefore s t then .lt else .gt))
  | .bigint i, .string t =>
    pure ((Numeral.bigint? t).map fun j => compare i j)
  | .string s, .bigint j =>
    pure ((Numeral.bigint? s).map fun i => compare i j)
  | _, _ =>
    match ← toNumeric a, ← toNumeric b with
    | .number x, .number y =>
      pure (if x < y then some .lt else if x > y then some .gt else if x == y then some .eq else none)
    | .bigint i, .number y => pure (compareBigint i y)
    | .number x, .bigint j => pure ((compareBigint j x).map Ordering.swap)
    | .bigint i, .bigint j => pure (some (compare i j))

/-- Whether an object was made by a constructor. -/
def ordinaryInstance (f : Ref) (v : Value) : Act Bool := do
  let target := match (← object f).kind with
    | .function (.bound target _ _) _ => target
    | _ => f
  match v with
  | .object r =>
    match ← getText target "prototype" with
    | .object p =>
      match ← protoOf r with
      | some q => inChain p q
      | none => pure false
    | _ => throwType "operand 'prototype' property is not an object"
  | _ => pure false

/-- Whether a value is an instance of what another one makes. -/
def instanceOf (v f : Value) : Act Bool := do
  match f with
  | .object r =>
    match ← method? f WellknownSymbol.hasInstance.key with
    | some h => pure (← call h f [v]).truth
    | none =>
      if ← isCallable f then ordinaryInstance r v
      else throwType "invalid 'instanceof' right operand"
  | _ => throwType "invalid 'instanceof' right operand"

/-! ### Going over items -/

/-- An iterator and its function that gives the next item. -/
structure Iterator where
  object : Value
  next : Value
  deriving Inhabited

/-- The iterator that a method makes for a value. -/
def iteratorBy (v f : Value) : Act Iterator := do
  match ← call f v [] with
  | .object r => pure ⟨.object r, ← getText r "next"⟩
  | _ => throwType "not an object"

/-- The iterator of a value. -/
def iteratorOf (v : Value) : Act Iterator := do
  let f ← get v WellknownSymbol.iterator.key
  if ← isCallable f then iteratorBy v f else throwType "value is not iterable"

/-- The next item of an iterator, nothing at its end. -/
def Iterator.step (i : Iterator) : Act (Option Value) := do
  match ← call i.next i.object [] with
  | .object r =>
    if (← getText r "done").truth then pure none else pure (some (← getText r "value"))
  | _ => throwType "iterator must return an object"

/-- Tell an iterator that no more items are wanted. -/
def Iterator.close (i : Iterator) : Act Unit := do
  match ← method? i.object (.text "return") with
  | some f =>
    match ← call f i.object [] with
    | .object _ => pure ()
    | _ => throwType "not an object"
  | none => pure ()

/-- Tell an iterator that no more items are wanted, because of an error, which is thrown again. -/
def Iterator.abandon {α : Type} (i : Iterator) (e : Value) : Act α := do
  let _ ← outcome i.close
  throw e

/-- Do something between two steps of an iterator, which is told if that fails. -/
def Iterator.guard {α : Type} (i : Iterator) (ended : Bool) (x : Act α) : Act α := do
  match ← outcome x with
  | .ok a => pure a
  | .error e => if ended then throw e else i.abandon e

/-- Do something with every item of an iterator. -/
def Iterator.forEach (i : Iterator) (f : Value → Act Unit) : Act Unit :=
  loop () fun _ => do
    match ← i.step with
    | none => pure (.ok ())
    | some v =>
      match ← outcome (f v) with
      | .ok _ => pure (.error ())
      | .error e => i.abandon e

/-- Do something with every item of a value. -/
def iterate (v : Value) (f : Value → Act Unit) : Act Unit := do (← iteratorOf v).forEach f

/-- The items of a value, if going over it is not the program's own affair. -/
def builtinItems? (v : Value) : Act (Option (List Value)) := do
  match v with
  | .object r =>
    match (← object r).kind with
    | .array items length _ _ =>
      let untouched ← read fun w =>
        let o := w.object Wellknown.arrayPrototype.ref
        let own := (w.object r).named? WellknownSymbol.iterator.key
        let p := w.object Wellknown.arrayIteratorPrototype.ref
        own.isNone && (w.object r).proto = some Wellknown.arrayPrototype.ref &&
          items.all Option.isSome && items.size = length &&
          (match o.named? WellknownSymbol.iterator.key, o.named? (.text "values") with
            | some ⟨.value a _, _, _⟩, some ⟨.value b _, _, _⟩ => a.same b
            | _, _ => false) &&
          (match p.named? (.text "next") with
            | some ⟨.value (.object n) _, _, _⟩ =>
              (match (w.object n).kind with
                | .function (.library _) _ => true
                | _ => false)
            | _ => false)
      if untouched then pure (some (items.toList.filterMap id)) else pure none
    | _ => pure none
  | _ => pure none

/-- The items of a value that can be gone over. -/
def iterableItems (v : Value) : Act (List Value) := do
  match ← builtinItems? v with
  | some items => pure items
  | none =>
    let i ← iteratorOf v
    loop [] fun items => do
      match ← i.step with
      | none => pure (.ok items.reverse)
      | some item => pure (.error (item :: items))

/-- The result object of an iterator. -/
def iterResult (v : Value) (done : Bool) : Act Value := do
  let r ← allocate
    { Object.make (some Wellknown.objectPrototype.ref) .plain with
      properties := #[(.text "value", .plain v), (.text "done", .plain (.bool done))] }
  pure (.object r)

/-- The items of an object that has a length and numbered properties. -/
def listItems (v : Value) : Act (List Value) := do
  match v with
  | .object r =>
    let o ← object r
    match o.kind with
    | .array items length _ _ =>
      if items.all Option.isSome && items.size = length then pure (items.toList.filterMap id)
      else
        loop (0, []) fun (i, acc) => do
          if i < length then pure (.error (i + 1, (← getOf r (.index i)) :: acc))
          else pure (.ok acc.reverse)
    | _ =>
      let length ← lengthOf r
      loop (0, []) fun (i, acc) => do
        if i < length then pure (.error (i + 1, (← getOf r (.index i)) :: acc))
        else pure (.ok acc.reverse)
  | _ => throwType "not a object"

end Engine

end NotebookEngine
