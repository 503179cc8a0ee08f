/-
**Properties.**

A property is looked for in an object and then in its prototypes.  An object that stands in for another
one asks its handler first.

Main definitions:

* `Engine.propertyOf`, `Engine.getFrom` — a property, and its value;
* `Engine.Descriptor` — how a property is to behave;
* `Engine.hasProperty`, `Engine.keysOf`, `Engine.deleteFrom` — which properties there are;
* `Engine.protoOf`, `Engine.setProto` — prototypes.
-/

import NotebookEngine.Engine.Action
import NotebookEngine.Engine.Views

set_option autoImplicit false

namespace NotebookEngine

namespace Engine

open Act

/-! ### Objects and their own properties -/

namespace Object

/-- The greatest number of missing items that an array keeps room for. -/
def roomLimit : Nat := 1000000

/-- The array's items with one set; the items before it may be missing. -/
def putItem (items : Array (Option Value)) (n : Nat) (v : Value) : Array (Option Value) :=
  if n < items.size then items.setIfInBounds n (some v)
  else (items ++ Array.replicate (n - items.size) none).push (some v)

/-- The least length that an array may be cut to: it keeps the items that must stay as they are. -/
def leastLength (o : Object) : Nat :=
  match o.kind with
  | .array items _ _ configurable =>
    o.properties.foldl (fun least (k, p) =>
      match k with
      | .index n => if p.configurable then least else max least (n + 1)
      | _ => least) (if configurable then 0 else items.size)
  | _ => 0

/-- The array cut or extended to a length, or to its least length. -/
def resize (o : Object) (length : Nat) : Object :=
  let length := max length o.leastLength
  match o.kind with
  | .array items _ writable configurable =>
    let properties := o.properties.filter fun (k, _) =>
      match k with
      | .index n => n < length
      | _ => true
    { o with kind := .array (items.shrink length) length writable configurable, properties }
  | _ => o

/-- The object with a property put in, whatever was there. -/
def put (o : Object) (k : Key) (p : Property) : Object :=
  match o.kind, k with
  | .array items length writable configurable, .index n =>
    match p with
    | ⟨.value v true, true, true⟩ =>
      if writable && configurable && n ≤ items.size + roomLimit && (o.placeOf? k).isNone then
        { o with kind := .array (putItem items n v) (max length (n + 1)) writable configurable }
      else
        { o.putNamed k p with kind := .array (if n < items.size then items.setIfInBounds n none else items) (max length (n + 1)) writable configurable }
    | _ =>
      { o.putNamed k p with kind := .array (if n < items.size then items.setIfInBounds n none else items) (max length (n + 1)) writable configurable }
  | .array items _ _ configurable, .text "length" =>
    match p.content with
    | .value (.number x) writable =>
      let o := o.resize x.toUInt64.toNat
      match o.kind with
      | .array items length _ configurable => { o with kind := .array items length writable configurable }
      | _ => o
    | .value _ writable => { o with kind := .array items items.size writable configurable }
    | _ => o
  | _, _ => o.putNamed k p

/-- The object without a property. -/
def erase (o : Object) (k : Key) : Object :=
  match o.kind, k with
  | .array items length writable configurable, .index n =>
    { o.eraseNamed k with kind := .array (items.setIfInBounds n none) length writable configurable }
  | _, _ => o.eraseNamed k

end Object

/-- What is known of a property: it is there, or not, or a handler must be asked. -/
inductive Found where
  | absent
  | property (p : Property)
  | proxy (r : Ref)
  deriving Inhabited

/-- Look for a property in an object and its prototypes. -/
def World.find (w : World) (k : Key) : Nat → Ref → Found
  | 0, _ => .absent
  | fuel + 1, r =>
    let o := w.object r
    match o.kind with
    | .proxy _ _ _ => .proxy r
    | _ =>
      match w.own? r k with
      | some p => .property p
      | none =>
        match if o.isView && k.isNumber then none else o.proto with
        | some p => w.find k fuel p
        | none => .absent

/-- An own property of an object that is no stand-in. -/
def ownProperty (r : Ref) (k : Key) : Act (Option Property) := read fun w => w.own? r k

/-- Look for a property in an object and its prototypes. -/
def lookUp (r : Ref) (k : Key) : Act Found := read fun w => w.find k 10000 r

/-- The text of a key, as errors tell of it. -/
def keyText (k : Key) : Act String :=
  match k with
  | .index n => pure (toString n)
  | .text s => pure s
  | .symbol id => read fun w => ((w.symbols[id]?).join).getD ""
  | .hidden id => read fun w => ((w.symbols[id]?).join).getD ""

/-- The value that a key is. -/
def Key.value : Key → Value
  | .index n => .string (toString n)
  | .text s => .string s
  | .symbol id => .symbol id
  | .hidden _ => .undefined

/-- The value of a property for an object. -/
def readProperty (p : Property) (receiver : Value) : Act Value :=
  match p.content with
  | .value v _ => pure v
  | .accessor (some f) _ => call (.object f) receiver []
  | .accessor none _ => pure .undefined

/-! ### Handlers -/

/-- The target and the handler of an object that stands in for another one. -/
def proxyEnds (r : Ref) : Act (Ref × Ref) := do
  match (← object r).kind with
  | .proxy (some ends) _ _ => pure ends
  | _ => throwType "revoked proxy"

/-- Whether a value counts as true. -/
def Value.truth : Value → Bool
  | .undefined => false
  | .null => false
  | .bool b => b
  | .number x => !(x == 0 || x.isNaN)
  | .bigint i => i ≠ 0
  | .string s => !s.isEmpty
  | .symbol _ => true
  | .object _ => true

/-- A plain object. -/
def newPlain : Act Ref := allocate (.make (some Wellknown.objectPrototype.ref) .plain)

/-- An array of items. -/
def newArray (items : List Value) : Act Value := do
  let items := (items.map some).toArray
  let r ← allocate (.make (some Wellknown.arrayPrototype.ref) (.array items items.size true true))
  pure (.object r)

/-! ### Descriptions of properties -/

/-- What is asked of a property; what is left out stays as it is. -/
structure Descriptor where
  value? : Option Value
  writable? : Option Bool
  getter? : Option (Option Ref)
  setter? : Option (Option Ref)
  enumerable? : Option Bool
  configurable? : Option Bool
  deriving Inhabited

/-- All about a property. -/
def Property.descriptor (p : Property) : Descriptor :=
  match p.content with
  | .value v writable =>
    ⟨some v, some writable, none, none, some p.enumerable, some p.configurable⟩
  | .accessor g s => ⟨none, none, some g, some s, some p.enumerable, some p.configurable⟩

namespace Descriptor

/-- Whether functions get or set the property. -/
def isAccessor (d : Descriptor) : Bool := d.getter?.isSome || d.setter?.isSome

/-- The property that is described, if nothing is there yet. -/
def toProperty (d : Descriptor) : Property :=
  let content : Content :=
    if d.isAccessor then .accessor (d.getter?.getD none) (d.setter?.getD none)
    else .value (d.value?.getD .undefined) (d.writable?.getD false)
  ⟨content, d.enumerable?.getD false, d.configurable?.getD false⟩

/-- The property changed as described. -/
def applyTo (d : Descriptor) (p : Property) : Property :=
  let content : Content := match p.content with
    | .value v writable =>
      if d.isAccessor then .accessor (d.getter?.getD none) (d.setter?.getD none)
      else .value (d.value?.getD v) (d.writable?.getD writable)
    | .accessor g s =>
      if d.value?.isSome || d.writable?.isSome then
        .value (d.value?.getD .undefined) (d.writable?.getD false)
      else .accessor (d.getter?.getD g) (d.setter?.getD s)
  ⟨content, d.enumerable?.getD p.enumerable, d.configurable?.getD p.configurable⟩

/-- Whether a property that must not be reconfigured may be changed as described. -/
def allowedOn (d : Descriptor) (p : Property) : Bool :=
  p.configurable ||
    (d.configurable? ≠ some true &&
      (d.enumerable?.all fun e => e = p.enumerable) &&
      match p.content with
      | .value v writable =>
        !d.isAccessor &&
          (writable || (d.writable? ≠ some true && d.value?.all fun v' => v'.same v))
      | .accessor g s =>
        d.value?.isNone && d.writable?.isNone && (d.getter?.all fun g' => g' = g) &&
          (d.setter?.all fun s' => s' = s))

end Descriptor

/-- Whether a handler may tell a value as the one of a property. -/
def Property.admits (p : Property) (v : Value) : Bool :=
  p.configurable ||
    match p.content with
    | .value w false => v.same w
    | .accessor none _ => v.isUndefined
    | _ => true

/-- Whether a handler may claim to have given a value to a property. -/
def Property.accepts (p : Property) (v : Value) : Bool :=
  p.configurable ||
    match p.content with
    | .value w false => v.same w
    | .accessor _ none => false
    | _ => true

/-- What is asked of a property, as an object. -/
def Descriptor.toObject (d : Descriptor) : Act Value := do
  let r ← newPlain
  let add (name : String) (v? : Option Value) : Act Unit :=
    match v? with
    | some v => modifyObject r fun o => o.putNamed (.text name) (.plain v)
    | none => pure ()
  let refValue (f : Option Ref) : Value := f.elim .undefined .object
  add "get" (d.getter?.map refValue)
  add "set" (d.setter?.map refValue)
  add "value" d.value?
  add "writable" (d.writable?.map .bool)
  add "enumerable" (d.enumerable?.map .bool)
  add "configurable" (d.configurable?.map .bool)
  pure (.object r)

/-- A described property as an object. -/
def descriptorObject (p : Property) : Act Value := p.descriptor.toObject

/-- The function that a description names for a part of an accessor. -/
def accessorPart (v : Value) (fault : String) : Act (Option Ref) := do
  match v with
  | .undefined => pure none
  | .object f => if (← object f).isCallable then pure (some f) else throwType fault
  | _ => throwType fault

/-! ### Asking objects and handlers

A handler may itself be a stand-in, and so may the object that it speaks for, whose properties what it says is
held against.  Every question to a handler is one level deeper. -/

/-- How many levels deep questions may go. -/
def questionDepth : Nat := 1000

/-- Throw since questions go too deep. -/
def tooDeep {α : Type} : Act α := throwRange "Maximum call stack size exceeded"

/-- An array-like object's items, each had from a way to read properties. -/
def listedItems (read : Key → Act Value) (length : Nat) : Act (List Value) :=
  loop (0, []) fun (i, acc) => do
    if i < length then pure (.error (i + 1, (← read (.index i)) :: acc)) else pure (.ok acc.reverse)

/-- The keys that a handler told, which must be texts or symbols and must differ. -/
def toldKeys (items : List Value) : Act (List Key) := do
  let keys ← items.mapM fun v =>
    match v with
    | .string s => pure (Key.ofString s)
    | .symbol id => pure (Key.symbol id)
    | _ => throwType "proxy: properties must be strings or symbols"
  if keys.eraseDups.length < keys.length then throwType "proxy: duplicate property"
  pure keys

mutual

/-- The value of a property, looked for from an object, for a receiver. -/
def getWithin : Nat → Ref → Key → Value → Act Value
  | 0, _, _, _ => tooDeep
  | n + 1, r, k, receiver => do
    match ← lookUp r k with
    | .absent => pure .undefined
    | .property p => readProperty p receiver
    | .proxy p =>
      let (target, handler) ← proxyEnds p
      match ← trapWithin n handler "get" with
      | none => getWithin n target k receiver
      | some f =>
        let v ← call f (.object handler) [.object target, k.value, receiver]
        match ← ownWithin n target k with
        | some q => if q.admits v then pure v else throwType "proxy: inconsistent get"
        | none => pure v

/-- The function of a handler under a name, if it has one. -/
def trapWithin : Nat → Ref → String → Act (Option Value)
  | 0, _, _ => tooDeep
  | n + 1, handler, name => do
    let f ← getWithin n handler (.text name) (.object handler)
    pure (if f.isNothing then none else some f)

/-- Whether a property is there, in the object or its prototypes. -/
def hasWithin : Nat → Ref → Key → Act Bool
  | 0, _, _ => tooDeep
  | n + 1, r, k => do
    match ← lookUp r k with
    | .absent => pure false
    | .property _ => pure true
    | .proxy p =>
      let (target, handler) ← proxyEnds p
      match ← trapWithin n handler "has" with
      | none => hasWithin n target k
      | some f =>
        if (← call f (.object handler) [.object target, k.value]).truth then pure true
        else
          match ← ownWithin n target k with
          | some q =>
            if q.configurable && (← object target).extensible then pure false
            else throwType "proxy: inconsistent has"
          | none => pure false

/-- An own property of an object. -/
def ownWithin : Nat → Ref → Key → Act (Option Property)
  | 0, _, _ => tooDeep
  | n + 1, r, k => do
    match (← object r).kind with
    | .proxy _ _ _ =>
      let (target, handler) ← proxyEnds r
      match ← trapWithin n handler "getOwnPropertyDescriptor" with
      | none => ownWithin n target k
      | some f =>
        let fault := "proxy: inconsistent getOwnPropertyDescriptor"
        match ← call f (.object handler) [.object target, k.value] with
        | .undefined =>
          match ← ownWithin n target k with
          | none => pure none
          | some q =>
            if q.configurable && (← object target).extensible then pure none else throwType fault
        | .object d =>
          let old? ← ownWithin n target k
          let extensible ← extensibleWithin n target
          let told ← describedWithin n d
          let p := told.toProperty
          let fits := match old? with
            | some q => p.descriptor.allowedOn q && (p.configurable || !q.configurable)
            | none => extensible && p.configurable
          if fits then pure (some p) else throwType fault
        | _ => throwType fault
    | _ => ownProperty r k

/-- Read a description from an object. -/
def describedWithin : Nat → Ref → Act Descriptor
  | 0, _ => tooDeep
  | n + 1, r => do
    let field (name : String) : Act (Option Value) := do
      if ← hasWithin n r (.text name) then
        pure (some (← getWithin n r (.text name) (.object r)))
      else pure none
    let enumerable? ← field "enumerable"
    let configurable? ← field "configurable"
    let value? ← field "value"
    let writable? ← field "writable"
    let getter? ← match ← field "get" with
      | some g => pure (some (← accessorPart g "invalid getter"))
      | none => pure none
    let setter? ← match ← field "set" with
      | some s => pure (some (← accessorPart s "invalid setter"))
      | none => pure none
    if (getter?.isSome || setter?.isSome) && (value?.isSome || writable?.isSome) then
      throwType "cannot have setter/getter and value or writable"
    pure
      { value?
        writable? := writable?.map Value.truth
        getter?
        setter?
        enumerable? := enumerable?.map Value.truth
        configurable? := configurable?.map Value.truth }

/-- Whether an object may get further properties. -/
def extensibleWithin : Nat → Ref → Act Bool
  | 0, _ => tooDeep
  | n + 1, r => do
    let o ← object r
    match o.kind with
    | .proxy _ _ _ =>
      let (target, handler) ← proxyEnds r
      match ← trapWithin n handler "isExtensible" with
      | none => extensibleWithin n target
      | some f =>
        let told := (← call f (.object handler) [.object target]).truth
        if told = (← extensibleWithin n target) then pure told
        else throwType "proxy: inconsistent isExtensible"
    | _ => pure o.extensible

/-- The prototype of an object. -/
def protoWithin : Nat → Ref → Act (Option Ref)
  | 0, _ => tooDeep
  | n + 1, r => do
    let o ← object r
    match o.kind with
    | .proxy _ _ _ =>
      let (target, handler) ← proxyEnds r
      match ← trapWithin n handler "getPrototypeOf" with
      | none => protoWithin n target
      | some f =>
        let told ← match ← call f (.object handler) [.object target] with
          | .object p => pure (some p)
          | .null => pure none
          | _ => throwType "proxy: inconsistent prototype"
        if ← extensibleWithin n target then pure told
        else if told = (← protoWithin n target) then pure told
        else throwType "proxy: inconsistent prototype"
    | _ => pure o.proto

/-- The keys of an object's own properties. -/
def keysWithin : Nat → Ref → Act (List Key)
  | 0, _ => tooDeep
  | n + 1, r => do
    match (← object r).kind with
    | .proxy _ _ _ =>
      let (target, handler) ← proxyEnds r
      match ← trapWithin n handler "ownKeys" with
      | none => keysWithin n target
      | some f =>
        let items ← match ← call f (.object handler) [.object target] with
          | .object list => do
            let length ← getWithin n list (.text "length") (.object list)
            let length := match length with
              | .number x => if x > 0 then x.toUInt64.toNat else 0
              | _ => 0
            listedItems (fun k => getWithin n list k (.object list)) length
          | v =>
            if v.isNothing then
              throwType ("cannot read property 'length' of " ++
                (if v.isUndefined then "undefined" else "null"))
            else pure []
        let told ← toldKeys items
        let extensible ← extensibleWithin n target
        for k in ← keysWithin n target do
          match ← ownWithin n target k with
          | some q =>
            if (!q.configurable || !extensible) && !told.contains k then
              throwType "proxy: target property must be present in proxy ownKeys"
          | none => pure ()
        if !extensible && told.length > (← keysWithin n target).length then
          throwType
            "proxy: property not present in target were returned by non extensible proxy"
        pure told
    | _ => read fun w => w.ownKeys r

end

/-! ### Reading -/

/-- The function of a handler under a name, if it has one. -/
def trap? (handler : Ref) (name : String) : Act (Option Value) := trapWithin questionDepth handler name

/-- The value of a property, looked for from an object, for a receiver. -/
def getFrom (r : Ref) (k : Key) (receiver : Value) : Act Value := getWithin questionDepth r k receiver

/-- The value of an object's property. -/
def getOf (r : Ref) (k : Key) : Act Value := getFrom r k (.object r)

/-- The value of an object's property with a text as its name. -/
def getText (r : Ref) (name : String) : Act Value := getOf r (.text name)

/-- The object that a value's properties are looked for in, if it is no object itself. -/
def protoOfPrimitive : Value → Option Ref
  | .bool _ => some Wellknown.booleanPrototype.ref
  | .number _ => some Wellknown.numberPrototype.ref
  | .bigint _ => some Wellknown.bigintPrototype.ref
  | .string _ => some Wellknown.stringPrototype.ref
  | .symbol _ => some Wellknown.symbolPrototype.ref
  | .object r => some r
  | _ => none

/-- The word for a value that has no properties. -/
def nothingText : Value → String
  | .null => "null"
  | _ => "undefined"

/-- The value of a value's property. -/
def get (v : Value) (k : Key) : Act Value := do
  match v, k with
  | .object r, _ => getFrom r k v
  | .string s, .index n =>
    match Script.unitAt? s n with
    | some u => pure (.string (Script.ofUnits [u]))
    | none => pure .undefined
  | .string s, .text "length" => pure (.ofNat (Script.unitCount s))
  | _, _ =>
    match protoOfPrimitive v with
    | some r => getFrom r k v
    | none =>
      throwType ("cannot read property '" ++ (← keyText k) ++ "' of " ++ nothingText v)

/-- A method of a value, none if there is none. -/
def method? (v : Value) (k : Key) : Act (Option Value) := do
  let f ← get v k
  if f.isNothing then pure none else pure (some f)

/-- Call a method of a value. -/
def invoke (v : Value) (name : String) (arguments : List Value) : Act Value := do
  call (← get v (.text name)) v arguments

/-! ### Own properties -/

/-- An own property of an object. -/
def propertyOf (r : Ref) (k : Key) : Act (Option Property) := ownWithin questionDepth r k

/-- Read a description from an object. -/
def readDescriptor (v : Value) : Act Descriptor := do
  match v with
  | .object r => describedWithin questionDepth r
  | _ => throwType "not an object"

/-! ### Other questions -/

/-- Whether a property is there, in the object or its prototypes. -/
def hasProperty (r : Ref) (k : Key) : Act Bool := hasWithin questionDepth r k

/-- The keys of an object's own properties. -/
def keysOf (r : Ref) : Act (List Key) := keysWithin questionDepth r

/-- The prototype of an object. -/
def protoOf (r : Ref) : Act (Option Ref) := protoWithin questionDepth r

/-- Whether an object may get further properties. -/
def isExtensible (r : Ref) : Act Bool := extensibleWithin questionDepth r

/-- Remove an own property: whether it is gone. -/
def deleteFrom (r : Ref) (k : Key) : Act Bool :=
  loop r fun r => do
    let o ← object r
    match o.kind with
    | .proxy _ _ _ =>
      let (target, handler) ← proxyEnds r
      match ← trap? handler "deleteProperty" with
      | none => pure (.error target)
      | some f =>
        let told := (← call f (.object handler) [.object target, k.value]).truth
        if told then
          match ← propertyOf target k with
          | some q =>
            if !q.configurable || !(← isExtensible target) then
              throwType "proxy: inconsistent deleteProperty"
          | none => pure ()
        pure (.ok told)
    | _ =>
      match ← ownProperty r k with
      | none => pure (.ok true)
      | some p =>
        if p.configurable && !(o.isView && k.isNumber) then
          modifyObject r fun o => o.erase k
          pure (.ok true)
        else pure (.ok false)

/-- Keep an object from getting further properties: whether that is allowed. -/
def closeObject (r : Ref) : Act Bool :=
  loop r fun r => do
    match (← object r).kind with
    | .proxy _ _ _ =>
      let (target, handler) ← proxyEnds r
      match ← trap? handler "preventExtensions" with
      | none => pure (.error target)
      | some f =>
        let done := (← call f (.object handler) [.object target]).truth
        if done && (← isExtensible target) then
          throwType "proxy: inconsistent preventExtensions"
        pure (.ok done)
    | _ =>
      modifyObject r fun o => { o with extensible := false }
      pure (.ok true)

/-- Whether a prototype lies among those of an object. -/
def inChain (target : Ref) (r : Ref) : Act Bool :=
  loop r fun r => do
    if r = target then pure (.ok true)
    else
      match ← protoOf r with
      | some p => pure (.error p)
      | none => pure (.ok false)

/-- Give an object another prototype: whether that is allowed. -/
def setProto (r : Ref) (p? : Option Ref) : Act Bool :=
  loop r fun r => do
    let o ← object r
    match o.kind with
    | .proxy _ _ _ =>
      let (target, handler) ← proxyEnds r
      match ← trap? handler "setPrototypeOf" with
      | none => pure (.error target)
      | some f =>
        let done := (← call f (.object handler) [.object target, p?.elim .null .object]).truth
        if done && !(← isExtensible target) && (← protoOf target) ≠ p? then
          throwType "proxy: inconsistent prototype"
        pure (.ok done)
    | _ =>
      if o.proto = p? then pure (.ok true)
      else if !o.extensible || r = Wellknown.objectPrototype.ref then pure (.ok false)
      else
        let circular ← match p? with
          | some p => inChain r p
          | none => pure false
        if circular then pure (.ok false)
        else
          modifyObject r fun o => { o with proto := p? }
          pure (.ok true)

/-- The items of an array, those that are missing too. -/
def plainItems (r : Ref) : Act (List Value) := do
  match (← object r).kind with
  | .array items length _ _ =>
    pure ((items.toList.map fun i => i.getD .undefined) ++ List.replicate (length - items.size) .undefined)
  | _ => pure []

/-- Those of an object's own keys whose properties are enumerable and have texts as names. -/
def enumerableAmong (r : Ref) (keys : List Key) : Act (List Key) := do
  match (← object r).kind with
  | .proxy _ _ _ =>
    (keys.filter Key.isText).filterM fun k => do pure ((← propertyOf r k).any Property.enumerable)
  | _ => read fun w => keys.filter fun k => k.isText && (w.own? r k).any Property.enumerable

/-- The keys of an object's enumerable own properties with texts as names. -/
def enumerableOwn (r : Ref) : Act (List Key) := do enumerableAmong r (← keysOf r)

/-- Whether an object is an array, or stands in for one. -/
def isArray (v : Value) : Act Bool :=
  match v with
  | .object r =>
    loop r fun r => do
      match (← object r).kind with
      | .array _ _ _ _ => pure (.ok true)
      | .proxy _ _ _ => do pure (.error (← proxyEnds r).1)
      | _ => pure (.ok false)
  | _ => pure false

/-- Whether a value can be called. -/
def isCallable (v : Value) : Act Bool :=
  match v with
  | .object r => do pure (← object r).isCallable
  | _ => pure false

/-- Whether a value can make objects. -/
def isConstructor (v : Value) : Act Bool :=
  match v with
  | .object r => do pure (← object r).isConstructor
  | _ => pure false

end Engine

end NotebookEngine
