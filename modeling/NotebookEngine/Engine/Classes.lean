/-
**Classes, and the members of objects.**

Main definitions:

* `Engine.keyOf` — the key that a member is written with;
* `Engine.addMethod` — putting a method or accessor into an object;
* `Engine.makeClass` — the constructor of a class;
* `Engine.evaluateNamed` — an expression that gets a name if it makes a function without one.
-/

import NotebookEngine.Engine.Generators

set_option autoImplicit false

namespace NotebookEngine

namespace Engine

open Act
open Script (Node Form FunctionMode MethodKind)

/-! ### Keys -/

/-- The key that a member is written with. -/
def keyOf (n : Node) (computed : Bool) (s : Scope) : Act Key := do
  if computed then toKey (← evaluate n s)
  else
    match n.form with
    | .name t => pure (.text t)
    | .string v _ => pure (.ofString v)
    | .number v _ => pure (.ofNumber v)
    | .bigint v _ => pure (.ofString (toString v))
    | .privateName name =>
      match s.find? ("#" ++ name) with
      | some b => pure (.hidden b.cell)
      | none => throwFault .syntaxError ("undefined private field '#" ++ name ++ "'")
    | _ => toKey (← evaluate n s)

/-- The name that a function gets from the key under which it is kept. -/
def nameOfKey (k : Key) : Act String := do
  match k with
  | .symbol id =>
    match ← read fun w => (w.symbols[id]?).join with
    | some d => pure ("[" ++ d ++ "]")
    | none => pure ""
  | _ => keyText k

/-! ### Functions without names -/

/-- An expression without brackets around it. -/
def withoutBrackets : Node → Node
  | .mk .paren _ [n] => withoutBrackets n
  | n => n

/-- Whether an expression makes a function or class that has no name of its own. -/
def isAnonymous (n : Node) : Bool :=
  match n.form with
  | .arrow _ => true
  | .function _ | .class => (n.part 0).isAbsent
  | _ => false

/-- The arrow function that a node writes. -/
def makeArrow (n : Node) (isAsync : Bool) (s : Scope) (name : String) : Act Value := do
  let code := codeOf (n.parts.drop 1) (n.part 0) ⟨isAsync, false⟩ .arrow s.strict n.span
    (.unbroken (n.span.lo - 1))
  pure (.object (← makeFunction code s none name))

/-- The function that an expression makes. -/
def makeFunctionExpression (n : Node) (mode : FunctionMode) (s : Scope) (name : String) :
    Act Value := do
  if (n.part 0).isAbsent then pure (.object (← makeFunctionOf n mode s name))
  else
    let own := (n.part 0).nameText
    let cell ← newCell .empty
    let f ← makeFunctionOf n mode (s.bind own cell .ownName) own
    setCell cell (.value (.object f))
    pure (.object f)

/-! ### Methods -/

/-- The place after the key of a member. -/
def afterKey (n : Node) : Place := .exactly ((n.part 0).span.hi - 1)

/-- The function of a method. -/
def makeMethod (n : Node) (mode : FunctionMode) (kind : MethodKind) (key : Key) (home : Ref)
    (s : Scope) : Act Ref := do
  let base ← nameOfKey key
  let name := match kind with
    | .getter => "get " ++ base
    | .setter => "set " ++ base
    | _ => base
  let code := codeOf (n.parts.drop 2) (n.part 1) mode .method s.strict n.span (afterKey n)
  makeFunction code s (some home) name

/-- A method or accessor, together with what was there under its key. -/
def methodProperty (old? : Option Property) (kind : MethodKind) (f : Ref) (enumerable : Bool) :
    Property :=
  let (g, s) := match old? with
    | some ⟨.accessor g s, _, _⟩ => (g, s)
    | _ => (none, none)
  match kind with
  | .getter => ⟨.accessor (some f) s, enumerable, true⟩
  | .setter => ⟨.accessor g (some f), enumerable, true⟩
  | _ => ⟨.value (.object f) true, enumerable, true⟩

/-- Put a method or accessor into an object. -/
def addMethod (r : Ref) (key : Key) (kind : MethodKind) (f : Ref) (enumerable : Bool) :
    Act Unit := do
  let old? := (← object r).own? key
  modifyObject r fun o => o.put key (methodProperty old? kind f enumerable)

/-! ### Classes -/

/-- The names that are private to a class, with what they are used for: those of methods and accessors
stay what they are. -/
def privateNames (members : List Node) : List (String × BindingKind) :=
  (members.filterMap fun m =>
    match m.form, (m.part 0).form with
    | .method _ _ _ _, .privateName name => some (name, BindingKind.constant)
    | _, .privateName name => some (name, BindingKind.variable)
    | _, _ => none).eraseDups

/-- A constructor for a class that has none of its own. -/
def defaultConstructor (derived : Bool) (span : Script.Span) : Node :=
  let arguments := Node.mk (.name "args") span []
  let body : List Node :=
    if derived then
      [.mk .expression span
        [.mk (.call false) span [.mk .super span [], .mk .spread span [arguments]]]]
    else []
  let parameters : List Node := if derived then [.mk .rest span [arguments]] else []
  .mk (.method .constructor .plain false false) span
    (.named "constructor" :: .mk .block span body :: parameters)

/-- The prototypes of a class and of its objects, by what the class extends. -/
def heritage (extended? : Option Value) : Act (Option Ref × Ref) := do
  match extended? with
  | none => pure (some Wellknown.objectPrototype.ref, Wellknown.functionPrototype.ref)
  | some .null => pure (none, Wellknown.functionPrototype.ref)
  | some v =>
    match v with
    | .object r =>
      if !(← object r).isConstructor then throwType "parent class must be constructor"
      match ← getText r "prototype" with
      | .object p => pure (some p, r)
      | .null => pure (none, r)
      | _ => throwType "parent prototype must be an object or null"
    | _ => throwType "parent class must be constructor"

/-- Things that a class is to do once it has been made. -/
inductive ClassStep where
  | field (key : Key) (initial? : Option Ref)
  | block (f : Ref)

/-- What a class has been found to hold, so far. The values of its fields are laid out one after the
other, those of the class apart from those of its objects. -/
structure ClassParts where
  members : List Member
  steps : List ClassStep
  place? : Option Place
  staticPlace? : Option Place

/-- A function that makes the value of a field, or runs a block of a class. -/
def makeInitializer (body : Node) (home : Ref) (s : Scope) (name : String) (span : Script.Span)
    (start : Place) : Act Ref :=
  makeFunction (codeOf [] body .plain .initializer true span start) s (some home) name

/-- The private members with one more; a getter and a setter of one name go together. -/
def addPrivate (members : List Member) (id : Nat) (kind : MethodKind) (f : Ref) : List Member :=
  let old? := members.findSome? fun
    | .fixed other p => if other = id then some p else none
    | _ => none
  let p := match methodProperty old? kind f false with
    | ⟨.value v _, e, c⟩ => ⟨.value v false, e, c⟩
    | p => p
  (members.filter fun
    | .fixed other _ => other ≠ id
    | _ => true) ++ [.fixed id p]

/-- Take up one member of a class. -/
def addMember (constructor proto : Ref) (s : Scope) (parts : ClassParts) (n : Node) :
    Act ClassParts := do
  match n.form with
  | .method kind mode isStatic computed =>
    if kind = .constructor then pure parts
    else
      let home := if isStatic then constructor else proto
      let key ← keyOf (n.part 0) computed s
      let f ← makeMethod n mode kind key home s
      match key with
      | .hidden id =>
        if isStatic then
          let old? := (← object constructor).named? key
          let p := match methodProperty old? kind f false with
            | ⟨.value v _, e, c⟩ => ⟨.value v false, e, c⟩
            | p => p
          modifyObject constructor fun o => o.putNamed key p
          pure parts
        else pure { parts with members := addPrivate parts.members id kind f }
      | _ =>
        addMethod home key kind f false
        pure parts
  | .field isStatic computed =>
    let home := if isStatic then constructor else proto
    let key ← keyOf (n.part 0) computed s
    let start := (if isStatic then parts.staticPlace? else parts.place?).getD (afterKey n)
    let initial? ← if (n.part 1).isAbsent then pure none
      else do
        let name ← nameOfKey key
        let body : Node := .made (.defaulted) [.named name, n.part 1]
        pure (some (← makeInitializer body home s "" n.span start))
    let place? := ((lastPlace? (n.part 1)).map Place.exactly).or (some start)
    if isStatic then
      pure { parts with steps := parts.steps ++ [.field key initial?], staticPlace? := place? }
    else pure { parts with members := parts.members ++ [.field key initial?], place? }
  | .staticBlock =>
    let f ← makeInitializer (n.part 0) constructor s "<static_init>" n.span
      (.exactly (n.span.lo - 1))
    pure { parts with steps := parts.steps ++ [.block f] }
  | _ => pure parts

/-- The constructor of a class: its name, what it extends, and its members. -/
def makeClass (n : Node) (name : String) (s : Scope) : Act Ref := do
  let own := (n.part 0).nameText
  let members := n.parts.drop 2
  let s := { s with strict := true }
  let ownCell ← newCell .empty
  let s := if own.isEmpty then s else s.bind own ownCell .constant
  let s ← (privateNames members).foldlM
    (fun s (m, kind) => do pure (s.bind ("#" ++ m) (← newSymbol (some ("#" ++ m))) kind)) s
  let extended? ← if (n.part 1).isAbsent then pure none else do pure (some (← evaluate (n.part 1) s))
  let (protoParent?, parent) ← heritage extended?
  let proto ← allocate (.make protoParent? .plain)
  let written? := members.find? fun m =>
    match m.form with
    | .method .constructor _ _ _ => true
    | _ => false
  let made := written?.getD (defaultConstructor extended?.isSome n.span)
  let role : Role := if extended?.isSome then .derived else .base
  let start := written?.elim (.exactly (n.span.hi - 2)) afterKey
  let code := codeOf (made.parts.drop 2) (made.part 1) .plain role true n.span start
  let f ← makeFunction code s (some proto) name
  modifyObject f fun o =>
    { o.putNamed (.text "prototype") (.constant (.object proto)) with proto := some parent }
  modifyObject proto fun o => o.putNamed (.text "constructor") (.method (.object f))
  let parts ← members.foldlM (addMember f proto s) ⟨[], [], none, none⟩
  modifyObject f fun o =>
    match o.kind with
    | .function (.closure c) constructs =>
      { o with kind := .function (.closure { c with members := parts.members }) constructs }
    | _ => o
  setCell ownCell (.value (.object f))
  for step in parts.steps do
    match step with
    | .field key initial? => initializeMembers (.object f) [.field key initial?]
    | .block b => let _ ← call (.object b) (.object f) []
  pure f

/-! ### Expressions that get a name -/

/-- The value of an expression; a function or class without a name gets one. -/
def evaluateNamed (n : Node) (name : String) (s : Scope) : Act Value := do
  let m := withoutBrackets n
  if isAnonymous m then
    match m.form with
    | .arrow isAsync => makeArrow m isAsync s name
    | .function mode => makeFunctionExpression m mode s name
    | _ => pure (.object (← makeClass m name s))
  else evaluate n s

end Engine

end NotebookEngine
