/-
**Objects and functions of the library.**

Main definitions:

* `Library.objects`, `Library.functions` — what every object and every function can do;
* `Library.reflect` — the operations on objects as functions.
-/

import NotebookEngine.Engine.Library.Entry

set_option autoImplicit false

namespace NotebookEngine

namespace Engine

namespace Library

open Act

/-! ### Prototypes and properties -/

/-- A value as a prototype; anything but an object and `null` is refused. -/
def protoArgument (v : Value) (refusal : String) : Act (Option Ref) :=
  match v with
  | .object r => pure (some r)
  | .null => pure none
  | _ => throwType refusal

/-- An argument that must be an object. -/
def needObject (v : Value) : Act Ref :=
  match v with
  | .object r => pure r
  | _ => throwType "not an object"

/-- What is thrown when something cannot be done to an object: handlers that do not allow it have a text of
their own. -/
def denied {α : Type} (r : Ref) (trap handled : String) (otherwise : Ref → Act α) : Act α :=
  loop r fun r => do
    match (← object r).kind with
    | .proxy _ _ _ =>
      let (target, handler) ← proxyEnds r
      if (← trap? handler trap).isSome then throwType handled else pure (.error target)
    | _ => pure (.ok (← otherwise r))

/-- Throw unless a property could be defined. -/
def mustDefine (r : Ref) (k : Key) (d : Descriptor) : Act Unit := do
  if !(← refine r k d) then
    denied r "defineProperty" "proxy: defineProperty exception" fun r => do
      if ← isBeyond r k then throwType fixedLengthText
      else if (← ownProperty r k).isSome then throwType "property is not configurable"
      else throwType "object is not extensible"

/-- Throw unless an object could be given a prototype. -/
def mustSetProto (r : Ref) (p? : Option Ref) : Act Unit := do
  if !(← setProto r p?) then
    denied r "setPrototypeOf" "proxy: bad prototype" fun r => do
      if r = Wellknown.objectPrototype.ref then
        throwType "Immutable prototype object 'Object.prototype' cannot have their prototype set"
      else if (← object r).extensible then throwType "circular prototype chain"
      else throwType "object is not extensible"

/-- Define properties by an object that describes them. -/
def defineAll (r : Ref) (described : Value) : Act Unit := do
  let source ← toObject described
  let mut found : List (Key × Descriptor) := []
  for k in ← keysOf source do
    match ← propertyOf source k with
    | some p =>
      if p.enumerable then
        found := (k, ← readDescriptor (← readProperty p (.object source))) :: found
    | none => pure ()
  for (k, d) in found.reverse do
    mustDefine r k d

/-- The keys and values of an object's enumerable own properties. -/
def ownPairs (v : Value) : Act (List (Key × Value)) := do
  let r ← toObject v
  let keys := (← keysOf r).filter Key.isText
  loop (keys, []) fun (keys, acc) => do
    match keys with
    | [] => pure (.ok acc.reverse)
    | k :: keys =>
      if (← propertyOf r k).any Property.enumerable then
        pure (.error (keys, (k, ← getFrom r k v) :: acc))
      else pure (.error (keys, acc))

/-- Copy the enumerable own properties of values into an object by assignment. -/
def assignAll (target : Ref) : List Value → Act Unit
  | [] => pure ()
  | v :: vs => do
    if !v.isNothing then
      let source ← toObject v
      for k in ← keysOf source do
        match ← propertyOf source k with
        | some p => if p.enumerable then put target k (← getFrom source k (.object source))
        | none => pure ()
    assignAll target vs

/-- The object with all own properties fixed; with `frozen`, values too. -/
def restrict (frozen : Bool) (o : Object) : Object :=
  let kind := match o.kind with
    | .array items length writable _ => .array items length (writable && !frozen) false
    | k => k
  { o with
    extensible := false
    kind
    properties := o.properties.map fun (k, p) =>
      match k with
      | .hidden _ => (k, p)
      | _ =>
        let content := match p.content with
          | .value v writable => .value v (writable && !frozen)
          | c => c
        (k, ⟨content, p.enumerable, false⟩) }

/-- Whether all own properties are fixed; with `frozen`, values too. -/
def isRestricted (frozen : Bool) (r : Ref) (w : World) : Bool :=
  !(w.object r).extensible && (w.ownKeys r).all fun k =>
    match w.own? r k with
    | some p =>
      !p.configurable && (match p.content with
        | .value _ writable => !(frozen && writable)
        | _ => true)
    | none => true

/-- Throw unless an object could be kept from getting further properties. -/
def mustClose (r : Ref) : Act Unit := do
  if !(← closeObject r) then throwType "proxy preventExtensions handler returned false"

/-- Fix the properties of an object that handlers are asked about, one after the other. -/
def restrictEach (frozen : Bool) (r : Ref) : Act Unit := do
  mustClose r
  for k in ← keysOf r do
    let isWritable ← if frozen then do
        match ← propertyOf r k with
        | some ⟨.value _ writable, _, _⟩ => pure writable
        | _ => pure false
      else pure false
    mustDefine r k ⟨none, if isWritable then some false else none, none, none, none, some false⟩

/-- Fix the properties of a value; the items of a view cannot be fixed. -/
def restrictValue (frozen : Bool) (v : Value) : Act Value := do
  match v with
  | .object r =>
    match (← object r).kind with
    | .proxy _ _ _ => restrictEach frozen r
    | .view view =>
      if (← read fun w => w.viewLength view) > 0 then
        throwType (if frozen then "cannot freeze array buffer views with elements"
          else "invalid descriptor flags")
      modifyObject r (restrict frozen)
    | _ => modifyObject r (restrict frozen)
    pure v
  | _ => pure v

/-- Whether the properties of a value are fixed. -/
def isRestrictedValue (frozen : Bool) (v : Value) : Act Bool := do
  match v with
  | .object r =>
    match (← object r).kind with
    | .proxy _ _ _ =>
      let keys ← keysOf r
      loop keys fun keys => do
        match keys with
        | [] => pure (.ok (!(← isExtensible r)))
        | k :: keys =>
          match ← propertyOf r k with
          | some p =>
            let isOpen := match p.content with
              | .value _ writable => frozen && writable
              | _ => false
            if p.configurable || isOpen then pure (.ok false) else pure (.error keys)
          | none => pure (.error keys)
    | _ => read (isRestricted frozen r)
  | _ => pure true

/-- The text of a value's kind. -/
def kindText (v : Value) : Act String := do
  match v with
  | .undefined => pure "[object Undefined]"
  | .null => pure "[object Null]"
  | _ =>
    let r ← toObject v
    let builtin ← if ← isArray (.object r) then pure "Array"
      else do
        let o ← object r
        if o.isCallable then pure "Function"
        else
          match o.kind with
          | .error => pure "Error"
          | .boxed (.bool _) => pure "Boolean"
          | .boxed (.number _) => pure "Number"
          | .boxed (.string _) => pure "String"
          | .date _ => pure "Date"
          | .regexp _ _ _ => pure "RegExp"
          | .arguments => pure "Arguments"
          | _ => pure "Object"
    match ← getFrom r WellknownSymbol.toStringTag.key v with
    | .string tag => pure ("[object " ++ tag ++ "]")
    | _ => pure ("[object " ++ builtin ++ "]")

/-- What the property stands for that an object has under a key, or else its nearest prototype. -/
def inheritedContent (r : Ref) (k : Key) : Act (Option Content) :=
  loop r fun r => do
    match ← propertyOf r k with
    | some p => pure (.ok (some p.content))
    | none =>
      match ← protoOf r with
      | some p => pure (.error p)
      | none => pure (.ok none)

/-- Keys as values, in an array. -/
def keyArray (keys : List Key) : Act Value := newArray (keys.map Key.value)

/-- Groups of the items of a value by what a function says of them, in order of first use. -/
def groupItems (items f : Value) (same : Value → Value → Bool) (key : Value → Act Value) :
    Act (List (Value × List Value)) := do
  needFunction f
  let values ← iterableItems items
  loop (values, 0, ([] : List (Value × List Value))) fun (values, i, groups) => do
    match values with
    | [] => pure (.ok groups)
    | v :: values =>
      let k ← key (← call f .undefined [v, .ofNat i])
      let groups :=
        if groups.any fun (g, _) => same g k then
          groups.map fun (g, vs) => if same g k then (g, vs ++ [v]) else (g, vs)
        else groups ++ [(k, [v])]
      pure (.error (values, i + 1, groups))

/-! ### Objects -/

/-- What the constructor of objects holds. -/
def objectStatics : List Entry :=
  [.method "getPrototypeOf" 1 fun c => do
      pure ((← protoOf (← toObject (c.argument 0))).elim .null .object),
   .method "setPrototypeOf" 2 fun c => do
      let p ← protoArgument (c.argument 1) "not an object"
      match c.argument 0 with
      | .object r =>
        mustSetProto r p
        pure (.object r)
      | v => if v.isNothing then throwType "not an object" else pure v,
   .method "create" 2 fun c => do
      let p ← protoArgument (c.argument 0) "not a prototype"
      let r ← allocate (.make p .plain)
      if !(c.argument 1).isUndefined then defineAll r (c.argument 1)
      pure (.object r),
   .method "defineProperty" 3 fun c => do
      let r ← needObject (c.argument 0)
      let k ← toKey (c.argument 1)
      mustDefine r k (← readDescriptor (c.argument 2))
      pure (.object r),
   .method "defineProperties" 2 fun c => do
      let r ← needObject (c.argument 0)
      defineAll r (c.argument 1)
      pure (.object r),
   .method "getOwnPropertyNames" 1 fun c => do
      keyArray ((← keysOf (← toObject (c.argument 0))).filter Key.isText),
   .method "getOwnPropertySymbols" 1 fun c => do
      keyArray ((← keysOf (← toObject (c.argument 0))).filter fun k => !k.isText),
   .method "groupBy" 2 fun c => do
      let groups ← groupItems (c.argument 0) (c.argument 1) Value.same fun v => do
        pure (← toKey v).value
      let r ← allocate (.make none .plain)
      for (k, vs) in groups do
        let items ← newArray vs
        let k ← toKey k
        modifyObject r fun o => o.put k (.plain items)
      pure (.object r),
   .method "keys" 1 fun c => do keyArray (← enumerableOwn (← toObject (c.argument 0))),
   .method "values" 1 fun c => do newArray ((← ownPairs (c.argument 0)).map Prod.snd),
   .method "entries" 1 fun c => do
      let pairs ← ownPairs (c.argument 0)
      newArray (← pairs.mapM fun (k, v) => newArray [k.value, v]),
   .method "isExtensible" 1 fun c => do
      match c.argument 0 with
      | .object r => pure (.bool (← isExtensible r))
      | _ => pure (.bool false),
   .method "preventExtensions" 1 fun c => do
      match c.argument 0 with
      | .object r => mustClose r
      | _ => pure ()
      pure (c.argument 0),
   .method "getOwnPropertyDescriptor" 2 fun c => do
      let r ← toObject (c.argument 0)
      let k ← toKey (c.argument 1)
      match ← propertyOf r k with
      | some p => descriptorObject p
      | none => pure .undefined,
   .method "getOwnPropertyDescriptors" 1 fun c => do
      let r ← toObject (c.argument 0)
      let result ← newPlain
      for k in ← keysOf r do
        match ← propertyOf r k with
        | some p =>
          let d ← descriptorObject p
          modifyObject result fun o => o.put k (.plain d)
        | none => pure ()
      pure (.object result),
   .method "is" 2 fun c => pure (.bool ((c.argument 0).same (c.argument 1))),
   .method "assign" 2 fun c => do
      let r ← toObject (c.argument 0)
      assignAll r c.arguments.tail
      pure (.object r),
   .method "seal" 1 fun c => restrictValue false (c.argument 0),
   .method "freeze" 1 fun c => restrictValue true (c.argument 0),
   .method "isSealed" 1 fun c => do pure (.bool (← isRestrictedValue false (c.argument 0))),
   .method "isFrozen" 1 fun c => do pure (.bool (← isRestrictedValue true (c.argument 0))),
   .method "fromEntries" 1 fun c => do
      let r ← newPlain
      iterate (c.argument 0) fun item => do
        match item with
        | .object e =>
          let k ← toKey (← getOf e (.index 0))
          let v ← getOf e (.index 1)
          modifyObject r fun o => o.put k (.plain v)
        | _ => throwType "not an object"
      pure (.object r),
   .method "hasOwn" 2 fun c => do
      let r ← toObject (c.argument 0)
      pure (.bool (← propertyOf r (← toKey (c.argument 1))).isSome)]

/-- What every object can do. -/
def objectMethods : List Entry :=
  [.method "toString" 0 fun c => do pure (.string (← kindText c.this)),
   .method "toLocaleString" 0 fun c => invoke c.this "toString" [],
   .method "valueOf" 0 fun c => do pure (.object (← toObject c.this)),
   .method "hasOwnProperty" 1 fun c => do
      let k ← toKey (c.argument 0)
      pure (.bool (← propertyOf (← toObject c.this) k).isSome),
   .method "isPrototypeOf" 1 fun c => do
      match c.argument 0 with
      | .object r =>
        let target ← toObject c.this
        match ← protoOf r with
        | some p => pure (.bool (← inChain target p))
        | none => pure (.bool false)
      | _ => pure (.bool false),
   .method "propertyIsEnumerable" 1 fun c => do
      let r ← toObject c.this
      let k ← toKey (c.argument 0)
      pure (.bool ((← propertyOf r k).any Property.enumerable)),
   .method "__defineGetter__" 2 fun c => do
      let r ← toObject c.this
      let g ← accessorPart (c.argument 1) "not a function"
      mustDefine r (← toKey (c.argument 0)) ⟨none, none, some g, none, some true, some true⟩
      pure .undefined,
   .method "__defineSetter__" 2 fun c => do
      let r ← toObject c.this
      let f ← accessorPart (c.argument 1) "not a function"
      mustDefine r (← toKey (c.argument 0)) ⟨none, none, none, some f, some true, some true⟩
      pure .undefined,
   .method "__lookupGetter__" 1 fun c => do
      match ← inheritedContent (← toObject c.this) (← toKey (c.argument 0)) with
      | some (.accessor (some g) _) => pure (.object g)
      | _ => pure .undefined,
   .method "__lookupSetter__" 1 fun c => do
      match ← inheritedContent (← toObject c.this) (← toKey (c.argument 0)) with
      | some (.accessor _ (some f)) => pure (.object f)
      | _ => pure .undefined,
   ⟨.text "__proto__", "get __proto__", 0, .accessor fun c => do
      match c.this, c.argument 0 with
      | .object r, .object p => mustSetProto r (some p)
      | .object r, .null => mustSetProto r none
      | _, _ => pure ()
      pure .undefined,
    fun c => do pure ((← protoOf (← toObject c.this)).elim .null .object)⟩]

/-- Objects. -/
def objects : Family :=
  { name := "Object", length := 1, proto := .objectPrototype, place? := none, parent? := none
    make := fun c => do
      match c.target? with
      | some t =>
        if t = c.self then
          if (c.argument 0).isNothing then pure (.object (← newPlain))
          else pure (.object (← toObject (c.argument 0)))
        else pure (.object (← makeOf c .objectPrototype .plain))
      | none =>
        if (c.argument 0).isNothing then pure (.object (← newPlain))
        else pure (.object (← toObject (c.argument 0)))
    statics := objectStatics, constants := [], methods := objectMethods, tag? := none }

/-! ### Functions -/

/-- The text of a function. -/
def functionText (r : Ref) : Act String := do
  let o ← object r
  match o.kind with
  | .function (.closure c) _ =>
    read fun w =>
      match w.sources[c.scope.source]? with
      | some source => source.stretch c.code.span
      | none => ""
  | .function _ _ => pure ("function " ++ functionName o ++ "() \x7b\n    [native code]\n\x7d")
  | .proxy _ true _ => pure "function () \x7b\n    [native code]\n\x7d"
  | _ => throwType "not a function"

/-- Make a function of texts for its parameters and its body. -/
def functionFromText (mode : Script.FunctionMode) (c : Call) : Act Value := do
  let texts ← c.arguments.mapM toText
  let parameters := ",".intercalate texts.dropLast
  let body := texts.getLast?.getD ""
  let start := (if mode.isAsync then "async " else "") ++ "function" ++
    (if mode.isGenerator then "*" else "") ++ " anonymous("
  let text := "(" ++ start ++ parameters ++ "\n) \x7b\n" ++ body ++ "\n\x7d)"
  evalText inputFile text (Scope.start false)

/-- What every function can do. -/
def functionMethods : List Entry :=
  [.method "call" 1 fun c => callValue c.this (c.argument 0) c.arguments.tail,
   .method "apply" 2 fun c => do
      let list ← if (c.argument 1).isNothing then pure [] else listItems (c.argument 1)
      callValue c.this (c.argument 0) list,
   .method "bind" 1 fun c => do
      match c.this with
      | .object f =>
        let o ← object f
        if !o.isCallable then throwType "not a function"
        let length ← match ← propertyOf f (.text "length") with
          | some _ => toWhole (← getText f "length")
          | none => pure 0
        let name ← match ← getText f "name" with
          | .string s => pure s
          | _ => pure ""
        let given := c.arguments.tail
        let rest := length - Float.ofNat given.length
        let r ← newFunctionObject (.bound f (c.argument 0) given) ("bound " ++ name)
          (if rest > 0 then rest.toUInt64.toNat else 0) o.isConstructor
        modifyObject r fun b => { b with proto := o.proto }
        pure (.object r)
      | _ => throwType "not a function",
   .method "toString" 0 fun c => do
      match c.this with
      | .object r => pure (.string (← functionText r))
      | _ => throwType "not a function",
   .symbolic .hasInstance 1 fun c => do
      match c.this with
      | .object f =>
        if (← object f).isCallable then pure (.bool (← ordinaryInstance f (c.argument 0)))
        else pure (.bool false)
      | _ => pure (.bool false)]

/-- A property that no program may use. -/
def forbidden (name : String) : Entry :=
  let refuse : Answer := fun _ => throwType "invalid property access"
  ⟨.text name, "", 0, .accessor refuse, refuse⟩

/-- Functions. -/
def functions : Family :=
  { name := "Function", length := 1, proto := .functionPrototype, place? := none, parent? := none
    make := functionFromText .plain
    statics := [], constants := [], methods := functionMethods ++ [forbidden "caller", forbidden "arguments"], tag? := none }

/-! ### Operations as functions -/

/-- The operations on objects as functions. -/
def reflect : Space :=
  { name := "Reflect", constants := [], tag? := some "Reflect"
    entries :=
      [.method "apply" 3 fun c => do
          needFunction (c.argument 0)
          call (c.argument 0) (c.argument 1) (← listItems (c.argument 2)),
       .method "construct" 2 fun c => do
          let list ← listItems (c.argument 1)
          match c.argument 0, (if c.arguments.length > 2 then c.argument 2 else c.argument 0) with
          | .object f, .object t =>
            if (← object f).isConstructor && (← object t).isConstructor then construct f list t
            else throwType "not a constructor"
          | _, _ => throwType "not a constructor",
       .method "defineProperty" 3 fun c => do
          let r ← needObject (c.argument 0)
          let k ← toKey (c.argument 1)
          pure (.bool (← refine r k (← readDescriptor (c.argument 2)))),
       .method "deleteProperty" 2 fun c => do
          let r ← needObject (c.argument 0)
          pure (.bool (← deleteFrom r (← toKey (c.argument 1)))),
       .method "get" 2 fun c => do
          let r ← needObject (c.argument 0)
          let receiver := if c.arguments.length > 2 then c.argument 2 else c.argument 0
          getFrom r (← toKey (c.argument 1)) receiver,
       .method "getOwnPropertyDescriptor" 2 fun c => do
          let r ← needObject (c.argument 0)
          match ← propertyOf r (← toKey (c.argument 1)) with
          | some p => descriptorObject p
          | none => pure .undefined,
       .method "getPrototypeOf" 1 fun c => do
          pure ((← protoOf (← needObject (c.argument 0))).elim .null .object),
       .method "has" 2 fun c => do
          let r ← needObject (c.argument 0)
          pure (.bool (← hasProperty r (← toKey (c.argument 1)))),
       .method "isExtensible" 1 fun c => do
          pure (.bool (← isExtensible (← needObject (c.argument 0)))),
       .method "ownKeys" 1 fun c => do keyArray (← keysOf (← needObject (c.argument 0))),
       .method "preventExtensions" 1 fun c => do
          pure (.bool (← closeObject (← needObject (c.argument 0)))),
       .method "set" 3 fun c => do
          let r ← needObject (c.argument 0)
          let receiver := if c.arguments.length > 3 then c.argument 3 else c.argument 0
          let refusal ← setFrom r (← toKey (c.argument 1)) (c.argument 2) receiver
          pure (.bool refusal.isNone),
       .method "setPrototypeOf" 2 fun c => do
          let r ← needObject (c.argument 0)
          pure (.bool (← setProto r (← protoArgument (c.argument 1) "not an object")))] }

/-- A new object that stands in for another one. -/
def makeProxy (target handler : Value) : Act Ref := do
  let t ← needObject target
  let h ← needObject handler
  let o ← object t
  allocate (.make none (.proxy (some (t, h)) o.isCallable o.isConstructor))

end Library

end Engine

end NotebookEngine
