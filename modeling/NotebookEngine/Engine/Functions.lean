/-
**Functions of a program.**

Main definitions:

* `Engine.makeFunction` — a function object;
* `Engine.declareBlock` — the scope of a list of statements, its functions made;
* `Engine.enterFunction` — the scope of a call;
* `Engine.readName`, `Engine.assignName` — variables;
* `Engine.initializeMembers` — the fields of a new object.
-/

import NotebookEngine.Engine.Promise
import NotebookEngine.Engine.Hoisting

set_option autoImplicit false

namespace NotebookEngine

namespace Engine

open Act
open Script (Node Form FunctionMode)

/-! ### Variables -/

/-- Throw the error about a name that means nothing. -/
def throwUndefinedName {α : Type} (name : String) : Act α :=
  throwFault .referenceError (name ++ " is not defined")

/-- The object of the arguments of a call. -/
def makeArguments (items : List Value) : Act Value := do
  let (values, caller) ← read fun w =>
    ((w.object Wellknown.arrayPrototype.ref).named? (.text "values"),
      (w.object Wellknown.functionPrototype.ref).named? (.text "caller"))
  let iterator := match values with
    | some ⟨.value v _, _, _⟩ => v
    | _ => .undefined
  let callee : Array (Key × Property) := match caller with
    | some ⟨.accessor getter setter, _, _⟩ =>
      #[(.text "callee", ⟨.accessor getter setter, false, false⟩)]
    | _ => #[]
  let numbered := (items.mapIdx fun i v => (Key.index i, Property.plain v)).toArray
  let r ← allocate
    { Object.make (some Wellknown.objectPrototype.ref) .arguments with
      properties :=
        (numbered.push (.text "length", .method (.ofNat items.length))).push
          (WellknownSymbol.iterator.key, .method iterator) ++ callee }
  pure (.object r)

/-- The value in a cell, which must have one. -/
def readCell (cell : Nat) (name : String) : Act Value := do
  match ← getCell cell with
  | .value v => pure v
  | .empty => throwFault .referenceError (name ++ " is not initialized")
  | .arguments items =>
    let v ← makeArguments items
    setCell cell (.value v)
    pure v

/-- The value of a variable, nothing if the name means nothing. -/
def readName? (s : Scope) (name : String) : Act (Option Value) := do
  match s.find? name with
  | some b => pure (some (← readCell b.cell name))
  | none =>
    let global := Wellknown.global.ref
    match ← lookUp global (.text name) with
    | .absent => pure none
    | _ => pure (some (← getText global name))

/-- The value of a variable. -/
def readName (s : Scope) (name : String) : Act Value := do
  match ← readName? s name with
  | some v => pure v
  | none => throwUndefinedName name

/-- Assign to a variable. -/
def assignName (s : Scope) (name : String) (v : Value) : Act Unit := do
  match s.find? name with
  | some b =>
    match b.kind with
    | .variable =>
      match ← getCell b.cell with
      | .empty => throwFault .referenceError (name ++ " is not initialized")
      | _ => setCell b.cell (.value v)
    | .constant => throwType ("'" ++ name ++ "' is read-only")
    | .ownName => if s.strict then throwType ("'" ++ name ++ "' is read-only")
  | none =>
    let global := Wellknown.global.ref
    match ← lookUp global (.text name) with
    | .absent =>
      if s.strict then throwUndefinedName name
      else set (.object global) (.text name) v s.strict
    | _ => set (.object global) (.text name) v s.strict

/-- Give a variable its first value. -/
def declareName (s : Scope) (name : String) (v : Value) : Act Unit := do
  match s.find? name with
  | some b => setCell b.cell (.value v)
  | none => assignName s name v

/-- A scope with one more variable, which has a value. -/
def withValue (s : Scope) (name : String) (v : Value) (kind : BindingKind) : Act Scope := do
  pure (s.bind name (← newCell (.value v)) kind)

/-- A scope with more variables, which have no values yet. -/
def withEmpty (s : Scope) (names : List (String × BindingKind)) : Act Scope :=
  names.foldlM (fun s (name, kind) => do pure (s.bind name (← newCell .empty) kind)) s

/-! ### Making functions -/

/-- The prototype of functions that run in some way. -/
def functionProto (mode : FunctionMode) : Ref :=
  match mode with
  | ⟨false, false⟩ => Wellknown.functionPrototype.ref
  | ⟨true, false⟩ => Wellknown.asyncFunctionPrototype.ref
  | ⟨false, true⟩ => Wellknown.generatorFunctionPrototype.ref
  | ⟨true, true⟩ => Wellknown.asyncGeneratorFunctionPrototype.ref

/-- A function object. -/
def makeFunction (code : Code) (scope : Scope) (home : Option Ref) (name : String) : Act Ref := do
  let constructs := code.role = .base || code.role = .derived ||
    (code.role = .plain && code.mode = FunctionMode.plain)
  let scope := { scope with strict := code.strict, mode := code.mode, completion? := none }
  let f ← allocate
    { Object.make (some (functionProto code.mode))
        (.function (.closure ⟨code, scope, home, []⟩) constructs) with
      properties :=
        #[(.text "length", .fixed (.ofNat (parameterCount code.parameters))),
          (.text "name", .fixed (.string name))] }
  if code.mode.isGenerator then
    let proto := if code.mode.isAsync then Wellknown.asyncGeneratorPrototype else .generatorPrototype
    let p ← allocate (.make (some proto.ref) .plain)
    modifyObject f fun o => o.putNamed (.text "prototype") ⟨.value (.object p) true, false, false⟩
  else if code.role = .plain && constructs then
    let p ← allocate
      { Object.make (some Wellknown.objectPrototype.ref) .plain with
        properties := #[(.text "constructor", .method (.object f))] }
    modifyObject f fun o => o.putNamed (.text "prototype") ⟨.value (.object p) true, false, false⟩
  pure f

/-- The function that a node writes: its name, body and parameters. -/
def makeFunctionOf (n : Node) (mode : FunctionMode) (scope : Scope) (name : String) : Act Ref :=
  makeFunction (codeOf (n.parts.drop 2) (n.part 1) mode .plain scope.strict n.span (.exactly (n.span.lo - 1)))
    scope none name

/-- The scope of a list of statements: its names, and its functions. -/
def declareBlock (ns : List Node) (s : Scope) : Act Scope := do
  let functions := functionStatements ns
  let names := lexicalNames ns
  if functions.isEmpty && names.isEmpty then pure s
  else
    let s ← withEmpty s (names ++ functions.map fun f => ((f.part 0).nameText, .variable))
    for f in functions do
      match f.form with
      | .functionDecl mode =>
        let name := (f.part 0).nameText
        declareName s name (.object (← makeFunctionOf f mode s name))
      | _ => pure ()
    pure s

/-! ### Calling functions -/

/-- The name of a function, as errors tell of it. -/
def functionName (o : Object) : String :=
  match o.named? (.text "name") with
  | some ⟨.value (.string s) _, _, _⟩ => s
  | _ => ""

/-- Give the parameters their values. -/
def bindParameters : List Node → List Value → Scope → Act Unit
  | [], _, _ => pure ()
  | p :: ps, arguments, s => do
    match p.form with
    | .rest => assignPattern (p.part 0) (← newArray arguments) .declare s
    | .name name =>
      declareName s name (arguments.headD .undefined)
      bindParameters ps arguments.tail s
    | _ =>
      assignPattern p (arguments.headD .undefined) .declare s
      bindParameters ps arguments.tail s

/-- A scope with its own copies of the variables that another one has. -/
def copyVariables (names : List String) (source target : Scope) : Act Scope :=
  names.foldlM (fun t name => do
    match source.find? name with
    | some b => pure (t.bind name (← newCell (← getCell b.cell)) b.kind)
    | none => pure t) target

/-- The scope of a call, its parameters given their values. -/
def enterFunction (f : Ref) (c : Closure) (this? : Option Value) (arguments : List Value)
    (target : Value) : Act Scope := do
  let s ← if c.code.role = .arrow then pure c.scope
    else do
      let thisCell ← newCell (this?.elim .empty .value)
      let s := c.scope.bind "this" thisCell .constant
      let s ← withValue s "new.target" target .constant
      let s ← match c.home with
        | some h => withValue s "super" (.object h) .constant
        | none => pure s
      let s ← if c.code.role = .derived then withValue s "function" (.object f) .constant else pure s
      if c.code.role = .initializer then pure s
      else pure (s.bind "arguments" (← newCell (.arguments arguments)) .variable)
  let parameterNames := c.code.parameters.flatMap fun p => patternNames p
  let s ← withEmpty s (parameterNames.map fun n => (n, .variable))
  bindParameters c.code.parameters arguments s
  let s ← if c.code.copies then copyVariables parameterNames s s else pure s
  let hoisted := c.code.hoisted.filter fun v => !parameterNames.contains v && v ≠ "arguments"
  let s ← hoisted.foldlM (fun s name => withValue s name .undefined .variable) s
  if c.code.body.form = .block then declareBlock c.code.body.parts s else pure s

/-- Keep the value of an expression if that is asked for. -/
def complete (s : Scope) (v : Value) : Act Unit :=
  match s.completion? with
  | some cell => setCell cell (.value v)
  | none => pure ()

/-- Run statements one after the other. -/
def runStatements (s : Scope) : List Node → Act Flow
  | [] => pure (.normal .undefined)
  | n :: ns => do
    match ← request (.statement n s) with
    | .normal _ => runStatements s ns
    | flow => pure flow

/-- Run the body of a function: what it returns, nothing if it does not. -/
def runBody (code : Code) (s : Scope) : Act (Option Value) := do
  if code.body.form = .block then
    match ← runStatements s code.body.parts with
    | .return v => pure (some v)
    | _ => pure none
  else pure (some (← evaluate code.body s))

/-- The value `this` has in a call. -/
def thisOf (c : Closure) (this : Value) : Act Value := do
  if c.code.strict then pure this
  else
    match this with
    | .undefined | .null => pure (.object Wellknown.global.ref)
    | .object _ => pure this
    | _ => pure (.object (← toObject this))

/-! ### New objects -/

/-- Give a new object the members that its class says. -/
def initializeMembers (this : Value) (members : List Member) : Act Unit := do
  match this with
  | .object r =>
    for m in members do
      match m with
      | .fixed id p =>
        if ((← object r).named? (.hidden id)).isSome then
          throwType "private method is already present"
        modifyObject r fun o => o.putNamed (.hidden id) p
      | .field _ _ => pure ()
    for m in members do
      match m with
      | .field key initial? =>
        let v ← match initial? with
          | some f => call (.object f) this []
          | none => pure .undefined
        match key with
        | .hidden id =>
          if ((← object r).named? key).isSome then
            throwType ("private class field '" ++ (← keyText key) ++ "' already exists")
          modifyObject r fun o => o.putNamed (.hidden id) (.plain v)
        | _ => defineOn r key v
      | .fixed _ _ => pure ()
  | _ => pure ()

/-- The prototype that objects made for a target have. -/
def protoFor (target : Ref) (default : Wellknown) : Act Ref := do
  match ← getText target "prototype" with
  | .object p => pure p
  | _ => pure default.ref

/-- The members that a class gives its objects. -/
def membersOf (f : Ref) : Act (List Member) := do
  match (← object f).kind with
  | .function (.closure c) _ => pure c.members
  | _ => pure []

end Engine

end NotebookEngine
