/-
**Collections of the library.**

Maps and sets keep their entries in the order in which they were put in.

Main definitions:

* `Library.maps`, `Library.sets`, `Library.weakMaps`, `Library.weakSets`, `Library.weakRefs` — families.
-/

import NotebookEngine.Engine.Library.Objects

set_option autoImplicit false

namespace NotebookEngine

namespace Engine

namespace Library

open Act

/-! ### Entries -/

/-- The place and kind of the object that a value is, nothing if it is none. -/
def kindOf? (v : Value) : Act (Option (Ref × Kind)) := do
  match v with
  | .object r => pure (some (r, (← object r).kind))
  | _ => pure none

/-- The entries of the map that a method is called on. -/
def thisMap (c : Call) (weak : Bool) : Act (Ref × Collection) := do
  let fault := if weak then "WeakMap object expected" else "Map object expected"
  match ← kindOf? c.this with
  | some (r, .map entries w) => if w = weak then pure (r, entries) else throwType fault
  | _ => throwType fault

/-- The entries of the set that a method is called on. -/
def thisSet (c : Call) (weak : Bool) : Act (Ref × Collection) := do
  let fault := if weak then "WeakSet object expected" else "Set object expected"
  match ← kindOf? c.this with
  | some (r, .set entries w) => if w = weak then pure (r, entries) else throwType fault
  | _ => throwType fault

/-- Change the entries of a map. -/
def changeMap (r : Ref) (f : Collection → Collection) : Act Unit :=
  modifyObject r fun o =>
    match o.kind with
    | .map entries weak => { o with kind := .map (f entries) weak }
    | _ => o

/-- Change the entries of a set. -/
def changeSet (r : Ref) (f : Collection → Collection) : Act Unit :=
  modifyObject r fun o =>
    match o.kind with
    | .set entries weak => { o with kind := .set (f entries) weak }
    | _ => o

/-- The entries of a map or set. -/
def entriesOf (r : Ref) : Act Collection := do
  match (← object r).kind with
  | .map entries _ => pure entries
  | .set entries _ => pure entries
  | _ => pure .empty

/-- Call a function with every entry, those put in meanwhile included. -/
def forEntries (r : Ref) (f : Value → Value → Act Unit) : Act Unit :=
  loop 0 fun i => do
    let entries ← entriesOf r
    if h : i < entries.entries.size then
      match entries.entries[i] with
      | some (k, v) => f k v
      | none => pure ()
      pure (.error (i + 1))
    else pure (.ok ())

/-- Whether a value may be forgotten: an object, or a symbol that is not shared by name. -/
def isForgettable (v : Value) : Act Bool := do
  match v with
  | .object _ => pure true
  | .symbol id => do pure (!(← read fun w => w.shared.any fun (_, other) => other = id))
  | _ => pure false

/-- A key of a family that may be forgotten. -/
def needWeakKey (family : String) (v : Value) : Act Unit := do
  if !(← isForgettable v) then throwType ("invalid value used as " ++ family ++ " key")

/-- An iterator over the entries of a map or set. -/
def entryIterator (r : Ref) (proto : Wellknown) (part : Part) : Act Value := do
  pure (.object (← allocate (.make (some proto.ref) (.iterator (.entries r 0 part)))))

/-- Fill a new map with the entries that an argument gives. -/
def fillMap (r : Ref) (source : Value) : Act Unit := do
  if !source.isNothing then
    let adder ← getText r "set"
    needFunction adder
    iterate source fun e => do
      match e with
      | .object p =>
        let _ ← call adder (.object r) [← getOf p (.index 0), ← getOf p (.index 1)]
      | _ => throwType "not an object"

/-- Fill a new set with the items that an argument gives. -/
def fillSet (r : Ref) (source : Value) : Act Unit := do
  if !source.isNothing then
    let adder ← getText r "add"
    needFunction adder
    iterate source fun v => do let _ ← call adder (.object r) [v]

/-- The function that makes new objects must be asked for one. -/
def needNew (c : Call) : Act Unit := do
  if c.target?.isNone then throwType "must be called with new"

/-- The function that makes new objects, which checks by itself that it is asked for one. -/
def requireNew (c : Call) : Act Unit := do
  if c.target?.isNone then throwType "constructor requires 'new'"

/-- The getter of the constructor that derived objects are made by. -/
def speciesEntry : Entry :=
  ⟨WellknownSymbol.species.key, "get [Symbol.species]", 0, .getter, fun c => pure c.this⟩

/-! ### Maps -/

/-- Maps. -/
def maps : Family :=
  { name := "Map", length := 0, proto := .mapPrototype, place? := none, parent? := none
    make := fun c => do
      needNew c
      let r ← makeOf c .mapPrototype (.map .empty false)
      fillMap r (c.argument 0)
      pure (.object r)
    statics :=
      [speciesEntry,
       .method "groupBy" 2 fun c => do
        let groups ← groupItems (c.argument 0) (c.argument 1) Value.alike pure
        let r ← allocate (.make (some Wellknown.mapPrototype.ref) (.map .empty false))
        for (k, vs) in groups do
          let items ← newArray vs
          changeMap r fun e => e.put k items
        pure (.object r)]
    constants := []
    methods :=
      [.method "get" 1 fun c => do
          let (_, e) ← thisMap c false
          pure ((e.get? (c.argument 0)).getD .undefined),
       .method "set" 2 fun c => do
          let (r, _) ← thisMap c false
          changeMap r fun e => e.put (c.argument 0) (c.argument 1)
          pure c.this,
       .method "has" 1 fun c => do
          let (_, e) ← thisMap c false
          pure (.bool (e.contains (c.argument 0))),
       .method "delete" 1 fun c => do
          let (r, e) ← thisMap c false
          changeMap r fun e => e.erase (c.argument 0)
          pure (.bool (e.contains (c.argument 0))),
       .method "clear" 0 fun c => do
          let (r, _) ← thisMap c false
          changeMap r Collection.cleared
          pure .undefined,
       .getter "size" fun c => do
          let (_, e) ← thisMap c false
          pure (.ofNat e.size),
       .method "forEach" 1 fun c => do
          let (r, _) ← thisMap c false
          needFunction (c.argument 0)
          forEntries r fun k v => do let _ ← call (c.argument 0) (c.argument 1) [v, k, c.this]
          pure .undefined,
       .method "values" 0 fun c => do
          entryIterator (← thisMap c false).1 .mapIteratorPrototype .values,
       .method "keys" 0 fun c => do
          entryIterator (← thisMap c false).1 .mapIteratorPrototype .keys,
       .method "entries" 0 fun c => do
          entryIterator (← thisMap c false).1 .mapIteratorPrototype .entries]
    tag? := some "Map"
    aliases := [(WellknownSymbol.iterator.key, "entries")] }

/-- Maps that may forget their keys. -/
def weakMaps : Family :=
  { name := "WeakMap", length := 0, proto := .weakMapPrototype, place? := none, parent? := none
    make := fun c => do
      needNew c
      let r ← makeOf c .weakMapPrototype (.map .empty true)
      fillMap r (c.argument 0)
      pure (.object r)
    statics := [], constants := []
    methods :=
      [.method "get" 1 fun c => do
          let (_, e) ← thisMap c true
          pure ((e.get? (c.argument 0)).getD .undefined),
       .method "set" 2 fun c => do
          let (r, _) ← thisMap c true
          needWeakKey "WeakMap" (c.argument 0)
          changeMap r fun e => e.put (c.argument 0) (c.argument 1)
          pure c.this,
       .method "has" 1 fun c => do
          let (_, e) ← thisMap c true
          pure (.bool (e.contains (c.argument 0))),
       .method "delete" 1 fun c => do
          let (r, e) ← thisMap c true
          changeMap r fun e => e.erase (c.argument 0)
          pure (.bool (e.contains (c.argument 0)))]
    tag? := some "WeakMap" }

/-! ### Sets -/

/-- What an operation on two sets needs to know of the second. -/
structure SetLike where
  object : Value
  size : Float
  has : Value
  keys : Value

/-- A value that is like a set. -/
def setLike (v : Value) : Act SetLike := do
  let size ← get v (.text "size")
  if size.isUndefined then throwType ".size is undefined"
  let size ← toNumber size
  if size.isNaN then throwType ".size is not a number"
  let has ← get v (.text "has")
  if has.isUndefined then throwType ".has is undefined"
  if !(← isCallable has) then throwType ".has is not a function"
  pure ⟨v, size, has, ← get v (.text "keys")⟩

/-- Whether a value that is like a set has an item. -/
def SetLike.contains (s : SetLike) (v : Value) : Act Bool := do pure (← call s.has s.object [v]).truth

/-- Whether a value that is like a set tells that it is smaller than a number of items. -/
def SetLike.isSmaller (s : SetLike) (n : Nat) : Bool := Float.ofNat n > s.size

/-- An iterator over the items of a value that is like a set. -/
def SetLike.iterator (s : SetLike) : Act Iterator := do
  let i ← call s.keys s.object []
  pure ⟨i, ← get i (.text "next")⟩

/-- The items of a value that is like a set. -/
def SetLike.items (s : SetLike) : Act (List Value) := do
  let i ← s.iterator
  loop [] fun items => do
    match ← i.step with
    | none => pure (.ok items.reverse)
    | some v => pure (.error (v :: items))

/-- Whether all items of a value that is like a set have a property; the rest is not asked for once one
has not. -/
def SetLike.all (s : SetLike) (test : Value → Bool) : Act Bool := do
  let i ← s.iterator
  loop () fun _ => do
    match ← i.step with
    | none => pure (.ok true)
    | some v =>
      if test v then pure (.error ())
      else
        i.close
        pure (.ok false)

/-- The items of a collection. -/
def Collection.items (c : Collection) : List Value := c.entries.toList.filterMap fun e => e.map Prod.fst

/-- A new set of items. -/
def newSet (vs : List Value) : Act Value := do
  let entries := vs.foldl (fun (e : Collection) v => if e.contains v then e else e.put v (Collection.normalKey v)) .empty
  pure (.object (← allocate (.make (some Wellknown.setPrototype.ref) (.set entries false))))

/-- An operation on two sets: the items of the first, and the second. -/
def setOperation (name : String) (f : Collection → SetLike → Act Value) : Entry :=
  .method name 1 fun c => do
    let (_, e) ← thisSet c false
    f e (← setLike (c.argument 0))

/-- The operations on two sets. -/
def setOperations : List Entry :=
  [setOperation "union" fun e s => do newSet (Collection.items e ++ (← s.items)),
   setOperation "intersection" fun e s => do
      if s.isSmaller e.size then newSet ((← s.items).filter e.contains)
      else newSet (← (Collection.items e).filterM s.contains),
   setOperation "difference" fun e s => do
      if s.isSmaller e.size then
        let others ← s.items
        newSet ((Collection.items e).filter fun v => !others.any (Value.alike v))
      else newSet (← (Collection.items e).filterM fun v => do pure (!(← s.contains v))),
   setOperation "symmetricDifference" fun e s => do
      let others ← s.items
      newSet ((Collection.items e).filter (fun v => !others.any (Value.alike v)) ++
        others.filter fun v => !e.contains v),
   setOperation "isSubsetOf" fun e s => do
      if s.isSmaller e.size then pure (.bool false)
      else pure (.bool (← (Collection.items e).allM s.contains)),
   setOperation "isSupersetOf" fun e s => do
      if Float.ofNat e.size < s.size then pure (.bool false)
      else pure (.bool (← s.all e.contains)),
   setOperation "isDisjointFrom" fun e s => do
      if s.isSmaller e.size then pure (.bool (← s.all fun v => !e.contains v))
      else pure (.bool (!(← (Collection.items e).anyM s.contains)))]

/-- Sets. -/
def sets : Family :=
  { name := "Set", length := 0, proto := .setPrototype, place? := none, parent? := none
    make := fun c => do
      needNew c
      let r ← makeOf c .setPrototype (.set .empty false)
      fillSet r (c.argument 0)
      pure (.object r)
    statics := [speciesEntry], constants := []
    methods :=
      [.method "add" 1 fun c => do
          let (r, e) ← thisSet c false
          if !e.contains (c.argument 0) then
            changeSet r fun e => e.put (c.argument 0) (Collection.normalKey (c.argument 0))
          pure c.this,
       .method "has" 1 fun c => do
          let (_, e) ← thisSet c false
          pure (.bool (e.contains (c.argument 0))),
       .method "delete" 1 fun c => do
          let (r, e) ← thisSet c false
          changeSet r fun e => e.erase (c.argument 0)
          pure (.bool (e.contains (c.argument 0))),
       .method "clear" 0 fun c => do
          let (r, _) ← thisSet c false
          changeSet r Collection.cleared
          pure .undefined,
       .getter "size" fun c => do
          let (_, e) ← thisSet c false
          pure (.ofNat e.size),
       .method "forEach" 1 fun c => do
          let (r, _) ← thisSet c false
          needFunction (c.argument 0)
          forEntries r fun k _ => do let _ ← call (c.argument 0) (c.argument 1) [k, k, c.this]
          pure .undefined,
       .method "values" 0 fun c => do
          entryIterator (← thisSet c false).1 .setIteratorPrototype .values,
       .method "entries" 0 fun c => do
          entryIterator (← thisSet c false).1 .setIteratorPrototype .entries] ++ setOperations
    tag? := some "Set"
    aliases := [(.text "keys", "values"), (WellknownSymbol.iterator.key, "values")] }

/-- Sets that may forget their items. -/
def weakSets : Family :=
  { name := "WeakSet", length := 0, proto := .weakSetPrototype, place? := none, parent? := none
    make := fun c => do
      needNew c
      let r ← makeOf c .weakSetPrototype (.set .empty true)
      fillSet r (c.argument 0)
      pure (.object r)
    statics := [], constants := []
    methods :=
      [.method "add" 1 fun c => do
          let (r, _) ← thisSet c true
          needWeakKey "WeakSet" (c.argument 0)
          changeSet r fun e => e.put (c.argument 0) (c.argument 0)
          pure c.this,
       .method "has" 1 fun c => do
          let (_, e) ← thisSet c true
          pure (.bool (e.contains (c.argument 0))),
       .method "delete" 1 fun c => do
          let (r, e) ← thisSet c true
          changeSet r fun e => e.erase (c.argument 0)
          pure (.bool (e.contains (c.argument 0)))]
    tag? := some "WeakSet" }

/-! ### References that may be forgotten -/

/-- References that may be forgotten. -/
def weakRefs : Family :=
  { name := "WeakRef", length := 1, proto := .weakRefPrototype, place? := none, parent? := none
    make := fun c => do
      requireNew c
      if !(← isForgettable (c.argument 0)) then throwType "invalid target"
      pure (.object (← makeOf c .weakRefPrototype (.weakRef (c.argument 0))))
    statics := [], constants := []
    methods :=
      [.method "deref" 0 fun c => do
          match ← kindOf? c.this with
          | some (_, .weakRef v) => pure v
          | _ => throwType "WeakRef object expected"]
    tag? := some "WeakRef" }

/-- Watchers for forgotten objects; nothing is ever forgotten. -/
def finalizers : Family :=
  { name := "FinalizationRegistry", length := 1, proto := .finalizationPrototype, place? := none
    parent? := none
    make := fun c => do
      requireNew c
      if !(← isCallable (c.argument 0)) then throwType "argument must be a function"
      pure (.object (← makeOf c .finalizationPrototype .plain))
    statics := [], constants := []
    methods :=
      [.method "register" 2 fun _ => pure .undefined,
       .method "unregister" 1 fun _ => pure (.bool false)]
    tag? := some "FinalizationRegistry" }

end Library

end Engine

end NotebookEngine
