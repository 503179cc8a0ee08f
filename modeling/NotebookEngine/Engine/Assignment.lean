/-
**Changing properties.**

An assignment looks for the property as reading does, and then changes or adds one of the object that it
was made to, or has a function set it.  It may come to nothing, for one of few reasons.

Main definitions:

* `Engine.refine`, `Engine.defineOn` — giving an object a property that behaves as described;
* `Engine.Refusal` — why an assignment came to nothing;
* `Engine.setFrom`, `Engine.set` — assignments.
-/

import NotebookEngine.Engine.Convert

set_option autoImplicit false

namespace NotebookEngine

namespace Engine

open Act

/-! ### Lengths of arrays -/

/-- The length that a value asks for an array. -/
def validLength (v : Value) : Act Nat := do
  let x ← toNumber v
  if x ≥ 0 && x < 4294967296 && x.floor == x then pure x.toUInt64.toNat
  else throwRange "invalid array length"

/-! ### Items of views -/

/-- The bits that stand for a value. -/
def elementBits (e : Element) (v : Value) : Act Nat := do
  if e.isBig then pure (e.ofInt (← toBigint v)) else pure (e.ofFloat (← toNumber v))

/-- Put a value into a view, if there is a place of that name. -/
def setViewItem (view : View) (k : Key) (v : Value) : Act Unit := do
  let bits ← elementBits view.element v
  match k with
  | .index i => change fun w => w.setViewItem view i bits
  | _ => pure ()

/-! ### Changing how properties behave -/

/-- Change an item of a view: whether that is allowed. -/
def refineViewItem (r : Ref) (view : View) (k : Key) (d : Descriptor) : Act Bool := do
  match ← ownProperty r k with
  | none => pure false
  | some _ =>
    if d.isAccessor || d.configurable? = some false || d.enumerable? = some false ||
        d.writable? = some false then pure false
    else
      match d.value? with
      | some v =>
        setViewItem view k v
        pure true
      | none => pure true

/-- Change how a property behaves that an object has or may get: whether that is allowed. -/
def refineNamed (r : Ref) (k : Key) (d : Descriptor) (extensible : Bool) : Act Bool := do
  match (← object r).own? k with
  | some p =>
    if d.allowedOn p then
      modifyObject r fun o => o.put k (d.applyTo p)
      pure true
    else pure false
  | none =>
    if extensible then
      modifyObject r fun o => o.put k d.toProperty
      pure true
    else pure false

/-- Change how an object's own property behaves, or add one: whether that is allowed. -/
def refine (r : Ref) (k : Key) (d : Descriptor) : Act Bool :=
  loop r fun r => do
    let o ← object r
    match o.kind with
    | .proxy _ _ _ =>
      let (target, handler) ← proxyEnds r
      match ← trap? handler "defineProperty" with
      | none => pure (.error target)
      | some f =>
        let done := (← call f (.object handler) [.object target, k.value, ← d.toObject]).truth
        if done then
          let isFixed := d.configurable? = some false
          let fits ← match ← propertyOf target k with
            | some q => pure (d.allowedOn q && !(isFixed && q.configurable))
            | none => do pure ((← isExtensible target) && !isFixed)
          if !fits then throwType "proxy: inconsistent defineProperty"
        pure (.ok done)
    | .array _ length writable _ =>
      let d ← if k = .text "length" then
          match d.value? with
          | some v => pure { d with value? := some (.ofNat (← validLength v)) }
          | none => pure d
        else pure d
      let beyond := match k with
        | .index n => n ≥ length && !writable
        | _ => false
      let kept := k = .text "length" && (match d.value? with
        | some (.number x) => Float.ofNat o.leastLength > x
        | _ => false)
      let done ← refineNamed r k d (o.extensible && !beyond)
      pure (.ok (done && !kept))
    | .view view =>
      if k.isNumber then pure (.ok (← refineViewItem r view k d))
      else pure (.ok (← refineNamed r k d o.extensible))
    | _ => pure (.ok (← refineNamed r k d o.extensible))

/-- Whether an item would make an array longer that has to keep its length. -/
def isBeyond (r : Ref) (k : Key) : Act Bool := do
  match (← object r).kind, k with
  | .array _ length false _, .index n => pure (n ≥ length)
  | _, _ => pure false

/-- What errors say of an array that has to keep its length. -/
def fixedLengthText : String := "'length' is read-only"

/-- Give an object an own property, as a literal does. -/
def defineOn (r : Ref) (k : Key) (v : Value) : Act Unit := do
  let done ← refine r k (Property.plain v).descriptor
  if !done then
    if ← isBeyond r k then throwType fixedLengthText
    else if (← object r).extensible then throwType "property is not configurable"
    else throwType "object is not extensible"

/-! ### Assigning -/

/-- Why an assignment came to nothing. -/
inductive Refusal where
  | readOnly
  | noSetter
  | notExtensible
  /-- An item of an array had to stay. -/
  | fixedItem
  /-- What is assigned to is no object. -/
  | noObject
  /-- An array could not get longer. -/
  | fixedLength
  | forbiddenSetter
  /-- A handler did not set the property. -/
  | handler
  /-- A handler did not define the property. -/
  | handlerDenied
  deriving DecidableEq, Inhabited

/-- Put a value into an own property of an object that is neither a stand-in nor a view. -/
def setNamed (r : Ref) (k : Key) (v : Value) : Act (Option Refusal) := do
  let o ← object r
  match o.own? k with
  | some ⟨.value _ true, enumerable, configurable⟩ =>
    modifyObject r fun o => o.put k ⟨.value v true, enumerable, configurable⟩
    pure none
  | some ⟨.value _ false, _, _⟩ => pure (some .readOnly)
  | some ⟨.accessor _ _, _, _⟩ => pure (some .noSetter)
  | none =>
    if !o.extensible then pure (some .notExtensible)
    else
      modifyObject r fun o => o.put k (.plain v)
      pure none

/-- Put a value into an own property of the receiver. -/
def setOwn (r : Ref) (k : Key) (v : Value) : Act (Option Refusal) := do
  let o ← object r
  match o.kind, k with
  | .proxy _ _ _, _ =>
    match ← propertyOf r k with
    | some ⟨.accessor _ _, _, _⟩ => pure (some .forbiddenSetter)
    | some ⟨.value _ false, _, _⟩ => pure (some .readOnly)
    | some _ =>
      let done ← refine r k ⟨some v, none, none, none, none, none⟩
      pure (if done then none else some .handlerDenied)
    | none =>
      let done ← refine r k (Property.plain v).descriptor
      pure (if done then none else some .handlerDenied)
  | .array _ _ writable _, .text "length" =>
    if !writable then pure (some .readOnly)
    else
      let n ← validLength v
      let kept := (← object r).leastLength > n
      modifyObject r fun o => o.resize n
      pure (if kept then some .fixedItem else none)
  | .array _ _ false _, .index _ =>
    if (← object r).extensible && (← isBeyond r k) then pure (some .fixedLength) else setNamed r k v
  | .view view, _ =>
    if k.isNumber then
      setViewItem view k v
      pure none
    else setNamed r k v
  | _, _ => setNamed r k v

/-- Whether an object is a view and a key could be the name of one of its places. -/
def isViewPlace (r : Ref) (k : Key) : Act Bool := do pure ((← object r).isView && k.isNumber)

/-- Assign to a place that a view does not have: nothing is changed, but if the assignment was made to
the view itself, the value has to be one that the view could hold. -/
def passOver (receiver : Value) (r : Ref) (k : Key) (v : Value) : Act (Option Refusal) := do
  match receiver with
  | .object t => if t = r then setOwn t k v else pure none
  | _ => pure none

/-- Assign to a property, looked for from an object, for a receiver: why it came to nothing, if so. -/
def setFrom (r : Ref) (k : Key) (v : Value) (receiver : Value) : Act (Option Refusal) :=
  loop r fun r => do
    let onReceiver : Act (Option Refusal) :=
      match receiver with
      | .object t => setOwn t k v
      | _ => pure (some .noObject)
    match ← lookUp r k with
    | .absent => pure (.ok (← if ← isViewPlace r k then passOver receiver r k v else onReceiver))
    | .property ⟨.value _ true, _, _⟩ => pure (.ok (← onReceiver))
    | .property ⟨.value _ false, _, _⟩ => pure (.ok (some .readOnly))
    | .property ⟨.accessor _ (some f), _, _⟩ =>
      let _ ← call (.object f) receiver [v]
      pure (.ok none)
    | .property ⟨.accessor _ none, _, _⟩ => pure (.ok (some .noSetter))
    | .proxy p =>
      let (target, handler) ← proxyEnds p
      match ← trap? handler "set" with
      | some f =>
        let done := (← call f (.object handler) [.object target, k.value, v, receiver]).truth
        if done then
          if (← propertyOf target k).any fun q => !q.accepts v then
            throwType "proxy: inconsistent set"
        pure (.ok (if done then none else some .handler))
      | none => pure (.error target)

/-- Throw an error about an assignment that came to nothing. -/
def refuse {α : Type} (k : Key) : Refusal → Act α
  | .readOnly => do throwType ("'" ++ (← keyText k) ++ "' is read-only")
  | .noSetter => do throwType "no setter for property"
  | .notExtensible => throwType "object is not extensible"
  | .fixedItem => throwType "not configurable"
  | .noObject => throwType "not an object"
  | .fixedLength => throwType fixedLengthText
  | .forbiddenSetter => throwType "setter is forbidden"
  | .handler => throwType "proxy: cannot set property"
  | .handlerDenied => throwType "proxy: defineProperty exception"

/-- Assign to a property of a value. -/
def set (v : Value) (k : Key) (x : Value) (strict : Bool) : Act Unit := do
  match protoOfPrimitive v with
  | none => throwType ("cannot set property '" ++ (← keyText k) ++ "' of " ++ nothingText v)
  | some r =>
    match ← setFrom r k x v with
    | none => pure ()
    | some refusal => if strict then refuse k refusal else pure ()

/-- Assign to a property of an object. -/
def put (r : Ref) (k : Key) (x : Value) : Act Unit := set (.object r) k x true

/-- Assign to a property of an object with a text as its name. -/
def putText (r : Ref) (name : String) (x : Value) : Act Unit := put r (.text name) x

end Engine

end NotebookEngine
