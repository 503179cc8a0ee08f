/-
**Functions and classes.**

Main definitions:

* `Script.functionRest` — a function from its parameters on;
* `Script.functionFrom` — a function from its word on;
* `Script.arrowBody` — the body of an arrow function;
* `Script.classFrom` — a class from its word on.
-/

import NotebookEngine.Script.Parser.Types

set_option autoImplicit false

namespace NotebookEngine

namespace Script

/-! ### Functions -/

/-- The setting within a function. -/
def Setting.function (mode : FunctionMode) (c : Setting) : Setting :=
  { c with
    isAsync := mode.isAsync
    isGenerator := mode.isGenerator
    inFunction := true
    inParameters := false
    inField := false
    hasNewTarget := true
    breakable := false
    continuable := false
    withoutIn := false
    modular := false
    exporting := false
    inConditional := false
    colonEnds := false }

/-- The setting within an arrow function. -/
def Setting.arrow (isAsync : Bool) (c : Setting) : Setting :=
  { c.function ⟨isAsync, false⟩ with inField := c.inField, hasNewTarget := c.hasNewTarget }

/-- A block of statements, which is the body of a function. -/
def functionBlock (rec : Grammar) (change : Setting → Setting) : Parser Node :=
  within change (withLabels [] (rec .block))

/-- The setting among the parameters of a function. -/
def Setting.parameters (mode : FunctionMode) (c : Setting) : Setting :=
  { c with
    isAsync := mode.isAsync
    isGenerator := mode.isGenerator
    inFunction := false
    inParameters := true
    inField := false
    hasNewTarget := true
    withoutIn := false
    inConditional := false
    colonEnds := false }

/-- Parameters in brackets, `one` of which parses one that is not for the rest. -/
def parameterList (rec : Grammar) (mode : FunctionMode) (one : Parser Node) : Parser (List Node) := do
  expect "("
  let params ← within (Setting.parameters mode) (parametersOf rec one)
  expect ")"
  pure params

/-- Notes the values by default of parameters. -/
def noteInitializers (params : List Node) : Parser Unit :=
  (params.filter isDefaulted).forM fun p => noteAt p.start .ambientInitializer

/-- The directive among the statements at the start of a body that makes it strict. -/
def strictDirective? : List Node → Option Node
  | [] => none
  | n :: ns =>
    match n.form, (n.part 0).form with
    | .expression, .string w _ => if w = "use strict" then some n else strictDirective? ns
    | _, _ => none

/-- The body of a function with the parameters, which may be missing where types may be written. -/
def functionBody (rec : Grammar) (mode : FunctionMode) (params : List Node) : Parser (Option Node) := do
  let c ← setting
  let opened ← at? "\x7b"
  if c.typed && !opened && (← eatStatementEnd) then
    noteInitializers params
    pure none
  else
    if c.typed && c.ambient && opened then note .ambientBody
    let body ← functionBlock rec (Setting.function mode)
    if c.typed && !params.all isSimpleParameter then
      match strictDirective? body.parts with
      | some d => noteAt d.start .strictDirective
      | none => pure ()
    pure (some body)

/-- A function from its parameters on, `one` of which parses one: its body, which may only be declared,
and the parameters. -/
def functionRest (rec : Grammar) (mode : FunctionMode) (one : Parser Node) :
    Parser (Option Node × List Node) := do
  typeParameters rec .ofFunction
  let params ← parameterList rec mode one
  resultType rec
  let body ← functionBody rec mode params
  pure (body, params)

/-- A function from its word on; whether it must have a name, and whether it declares one. -/
def functionFrom (rec : Grammar) (lo : Nat) (isAsync named declares : Bool) : Parser Node := do
  step
  let mode : FunctionMode := ⟨isAsync, ← eat "*"⟩
  let name ←
    if named then bindingIdentifier false
    else if (← get).token.isNameRef then bindingIdentifier false
    else if (← get).token.isAnyWord && !declares then identifier
    else pure .absent
  let (body, params) ← functionRest rec mode (plainParameter rec)
  match body with
  | some b =>
    nodeFrom lo (if declares then .functionDecl mode else .function mode) (name :: b :: params)
  | none => if declares then nodeFrom lo (.typeOnly none) [] else failUnexpected "\x7b"

/-- The body of an arrow function, a block or an expression. -/
def arrowBody (rec : Grammar) (isAsync : Bool) : Parser Node := do
  if ← at? "\x7b" then functionBlock rec (Setting.arrow isAsync)
  else
    let bare := (← setting).withoutIn
    within
      (fun c =>
        { c.arrow isAsync with
          withoutIn := bare, inConditional := c.inConditional, colonEnds := c.colonEnds })
      (rec .assignment)

/-! ### Keys of members -/

/-- Whether the key is the word. -/
def isKeyWord (k : Node × Bool) (word : String) : Bool := !k.2 && k.1.form = .name word

/-- Whether the key names the constructor. -/
def isConstructorKey (k : Node × Bool) : Bool :=
  !k.2 &&
    match k.1.form with
    | .name w => w = "constructor"
    | .string w _ => w = "constructor"
    | _ => false

/-- Whether a method goes on here after its key. -/
def atMethod : Parser Bool := do
  pure ((← at? "(") || ((← setting).typed && (← at? "<")))

/-- Whether a field goes on here after its key; a line end may end it. -/
def atField (lineEnd : Bool) : Parser Bool := do
  if (← setting).typed && ((← at? "!") || (← at? ":")) then pure true
  else if (← at? "=") || (← at? "\x7d") then pure true
  else if lineEnd then atStatementEnd
  else at? ";"

/-! ### Members -/

/-- What was written before the key of a member. -/
structure MemberHead where
  start : Nat
  isStatic : Bool
  isAbstract : Bool
  isReadonly : Bool
  isOverride : Bool
  /-- Whether an access modifier was written. -/
  hasAccess : Bool
  /-- The place of the word `declare`. -/
  declare? : Option Nat
  /-- The place of the last of the other modifiers. -/
  modifier? : Option Nat

/-- The head of a member that starts at a place, without modifiers. -/
def MemberHead.plain (start : Nat) : MemberHead :=
  ⟨start, false, false, false, false, false, none, none⟩

/-- A member that is declared but not defined, for the class to look at. -/
def MemberHead.declaredOnly (head : MemberHead) : Parser (Option Node) := do
  pure (some (← nodeFrom head.start (.typeOnly none) []))

/-- Whether the key is private to the class. -/
def isPrivateKey (k : Node × Bool) : Bool :=
  match k.1.form with
  | .privateName _ => true
  | _ => false

/-- Notes an access modifier before a private name. -/
def noteAccess (head : MemberHead) (k : Node × Bool) : Parser Unit := do
  if head.hasAccess && isPrivateKey k then noteAt head.start .privateAccess

/-- A method, `mode` and `kind` being known, from its parameters on. -/
def methodFrom (rec : Grammar) (head : MemberHead) (k : Node × Bool) (kind : MethodKind)
    (mode : FunctionMode) : Parser (Option Node) := do
  let _ ← if (← setting).typed then eat "?" else pure false
  let (body, params) ← functionRest rec mode (plainParameter rec)
  noteAccess head k
  match body with
  | none => if head.isAbstract && !isPrivateKey k then head.declaredOnly else pure none
  | some b =>
    if head.isAbstract && !isPrivateKey k then noteAt head.start .abstractBody
    pure (some (← nodeFrom head.start (.method kind mode head.isStatic k.2) (k.1 :: b :: params)))

/-- The type parameters that a constructor may not have. -/
def constructorTypeParameters (rec : Grammar) : Parser Unit := do
  if (← setting).typed && (← at? "<") then
    let lo ← here
    step
    if ← atCloseAngle then noteAt lo .emptyTypeParameters
    let place ← here
    let items ← sequenceOf (angleItem (typeParameter rec .ofFunction))
    closeAngle
    if !items.isEmpty then noteAt place .constructorTypeParameter

/-- Notes the parameters that are fields. -/
def noteFields (params : List Node) : Parser Unit :=
  (params.filter fun p => (bareParameter p).form = .parameterField).forM fun p =>
    noteAt p.start .parameterFieldPlace

/-- A constructor from its key on. -/
def constructorFrom (rec : Grammar) (head : MemberHead) (k : Node × Bool) :
    Parser (Option Node) := do
  if head.isOverride then noteAt head.start (.modifierPlace "override")
  constructorTypeParameters rec
  let params ← parameterList rec .plain (constructorParameter rec)
  if (← setting).typed && (← at? ":") then
    step
    let place ← here
    innerType rec
    noteAt place .constructorResult
  if (← setting).typed && !(← at? "\x7b") && (← atStatementEnd) then noteFields params
  let body ← functionBody rec .plain params
  match head.modifier? with
  | some place => if head.isAbstract then noteAt place .abstractPlace
  | none => pure ()
  match body with
  | none => pure none
  | some b =>
    pure (some
      (← nodeFrom head.start (.method .constructor .plain head.isStatic k.2) (k.1 :: b :: params)))

/-- Notes what is wrong with the parameters of an accessor whose word stands at a place. -/
def noteAccessor (kind : MethodKind) (place : Nat) (params : List Node) : Parser Unit := do
  if kind = .getter && !params.isEmpty then noteAt place .getterParameters
  if kind = .setter then
    if params.length ≠ 1 then noteAt place .setterParameters
    match params with
    | p :: _ => if p.form = .rest then noteAt p.start .setterRest
    | [] => pure ()

/-- An accessor from its key on, its word standing at a place. -/
def accessorFrom (rec : Grammar) (head : MemberHead) (kind : MethodKind) (place : Nat) :
    Parser (Option Node) := do
  let k ← memberKey rec
  if head.isReadonly then noteAt place .readonlyAccessor
  if !head.isStatic && isConstructorKey k then noteAt place .constructorAccessor
  let m ← methodFrom rec head k kind .plain
  match m with
  | some n => noteAccessor kind place (n.parts.drop 2)
  | none => pure ()
  pure m

/-- A field from the text after its key on; it may be reached by a getter and a setter. -/
def fieldFrom (rec : Grammar) (head : MemberHead) (k : Node × Bool) (accessor : Bool) :
    Parser (Option Node) := do
  if isConstructorKey k then failAt k.1.start .constructorField
  if isPrivateKey k then
    if head.declare?.isSome then noteAt k.1.start (.privateModifier "declare")
    if head.isAbstract then noteAt k.1.start (.privateModifier "abstract")
  if (← setting).typed then
    let _ ← eat "!"
  let _ ← annotation rec
  let value ←
    if ← at? "=" then do
      step
      within
        (fun c =>
          { c with
            withoutIn := false, hasNewTarget := true, isAsync := false, isGenerator := false
            inField := true, inConditional := false, colonEnds := false })
        (rec .assignment)
    else pure .absent
  let form : Form :=
    if accessor then .accessorField head.isStatic k.2 else .field head.isStatic k.2
  let n ← nodeFrom head.start form [k.1, value]
  if !(← eatStatementEnd) then note .semicolonExpected
  noteAccess head k
  if head.isAbstract && !isPrivateKey k && !value.isAbsent then
    noteAt head.start .abstractInitializer
  if head.isAbstract && !isPrivateKey k && !accessor then head.declaredOnly
  else if head.isAbstract || head.declare?.isSome then pure none
  else pure (some n)

/-- Notes what is wrong with modifiers after those that were seen; `declared` says whether the word
`declare` came before all. -/
def noteModifiers (declared : Bool) (seen : List String) : List (String × Nat) → Parser Unit
  | [] => pure ()
  | (w, place) :: rest => do
    if seen.contains w && w ≠ "static" then noteAt place (.modifierRepeated w)
    else if w = "abstract" && seen.contains "override" then
      noteAt place (.modifierOrder "abstract" "override")
    else if w = "override" && seen.contains "readonly" then
      noteAt place (.modifierOrder "override" "readonly")
    else if w = "override" && declared then noteAt place (.modifierClash "override" "declare")
    else if w = "override" && !(← setting).derived then noteAt place .overrideWithoutBase
    else if w = "static" && seen.contains "override" then
      noteAt place (.modifierOrder "static" "override")
    noteModifiers declared (w :: seen) rest

/-- A modifier of a member and its place. -/
def memberModifier : Parser (Option (String × Nat)) := do
  match ← modifier? ["abstract", "readonly", "override", "static"] true with
  | some w => pure (some (w, (← get).before.lo))
  | none => pure none

/-- Goes over the word `accessor` before a key. -/
def eatAccessor : Parser Bool := do
  let next ← peek
  if (← setting).typed && (← atWord "accessor") && followsModifier next && !next.isPunct "*" &&
      !next.isPunct "\x7b" && !next.isPunct "..." then
    step
    pure true
  else pure false

/-- A member from its key on. -/
def memberFromKey (rec : Grammar) (head : MemberHead) : Parser (Option Node) := do
  let accessorField ← eatAccessor
  let keyPlace ← here
  let k ← memberKey rec
  if (← setting).typed then
    let _ ← eat "?"
  if accessorField then fieldFrom rec head k true
  else if ← atMethod then
    match head.declare? with
    | some place => noteAt place (.elementModifier "declare")
    | none => pure ()
    if head.isReadonly then failAt head.start .readonlyMethod
    if !head.isStatic && isConstructorKey k then constructorFrom rec head k
    else methodFrom rec head k .method .plain
  else
    let t := (← get).token
    let accessor := (isKeyWord k "get" || isKeyWord k "set") && !(← atField false) &&
      !(t.afterLineEnd && t.isPunct "*")
    if !accessor && (← atField true) then fieldFrom rec head k false
    else if isKeyWord k "async" && !t.afterLineEnd then
      match ← modifier? ["override"] false with
      | some w => noteAt (← get).before.lo (.modifierOrder w "async")
      | none => pure ()
      let generator ← eat "*"
      let k ← memberKey rec
      if !head.isStatic && isConstructorKey k then failAt k.1.start .constructorAsync
      if head.isReadonly then failAt head.start .readonlyMethod
      methodFrom rec head k .method ⟨true, generator⟩
    else if accessor then
      accessorFrom rec head (if isKeyWord k "get" then .getter else .setter) keyPlace
    else failUnexpected "* for generator, private key, identifier or async"

/-- A block that makes a class ready, from its brace on. -/
def staticBlock (rec : Grammar) (head : MemberHead) : Parser (Option Node) := do
  let b ← functionBlock rec fun c =>
    { c.function .plain with inFunction := false, inField := true }
  pure (some (← nodeFrom head.start .staticBlock [b]))

/-- Notes a modifier that may not stand where it does. -/
def noteModifier : Option Nat → Parser Unit
  | some place => noteAt place .modifierHere
  | none => pure ()

/-- A member after `static`, if that was written. -/
def memberFromModifiers (rec : Grammar) (head : MemberHead) : Parser (Option Node) := do
  let words ← sequenceOf memberModifier
  noteModifiers head.declare?.isSome [] words
  let has (w : String) : Bool := words.any fun p => p.1 = w
  let staticPlace := (← get).before.lo
  let head : MemberHead :=
    { head with
      isStatic := head.isStatic || has "static", isAbstract := has "abstract"
      isReadonly := has "readonly", isOverride := has "override"
      modifier? := words.getLast?.map Prod.snd }
  if head.isStatic && (← at? "\x7b") then
    noteModifier head.declare?
    if head.hasAccess then noteAt staticPlace .modifierHere
    staticBlock rec head
  else if (← atWord "static") && (← peek).isPunct "\x7b" then
    noteModifier head.modifier?
    step
    staticBlock rec head
  else if (← setting).typed && !head.isAbstract && !head.isOverride && !head.hasAccess &&
      (← at? "[") && (← startsIndexSignature) then
    indexSignature rec
    let _ ← eatStatementEnd
    pure none
  else if ← eat "*" then
    let k ← memberKey rec
    if head.isReadonly then noteAt head.start .readonlyMethod
    if !head.isStatic && isConstructorKey k then noteAt head.start .constructorGenerator
    methodFrom rec head k .method ⟨false, true⟩
  else memberFromKey rec head

/-- A member that has the word at a place for its key, if it goes on so. -/
def memberNamed (rec : Grammar) (head : MemberHead) (word : Node) (lineEnd : Bool) :
    Parser (Option (Option Node)) := do
  if ← atMethod then pure (some (← methodFrom rec head (word, false) .method .plain))
  else if ← atField lineEnd then pure (some (← fieldFrom rec head (word, false) false))
  else pure none

/-- A member of a class, if it is kept. -/
def classMember (rec : Grammar) : Parser (Option Node) := do
  let lo ← here
  let marks ← decorators rec
  let wrap (m : Option Node) : Option Node :=
    if marks.isEmpty then m else m.map fun n => .mk .decorated n.span (n :: marks)
  let early ← if (← setting).typed then eatWord "declare" else pure false
  let place := (← get).before.lo
  let access ← modifier? ["public", "protected", "private"] false
  let late ← if (← setting).typed && !early then eatWord "declare" else pure false
  let latePlace := (← get).before.lo
  let place := if late then latePlace else place
  let head : MemberHead := { MemberHead.plain lo with hasAccess := access.isSome }
  let word : Node := .mk (.name "declare") (← spanFrom place) []
  let declared ← if early || late then memberNamed rec head word true else pure none
  match declared with
  | some m => pure (wrap m)
  | none =>
    let head : MemberHead := { head with declare? := if early || late then some place else none }
    let isStatic ← eatWord "static"
    let word : Node := .mk (.name "static") (← spanFrom (← get).before.lo) []
    let named ← if isStatic then memberNamed rec head word false else pure none
    match named with
    | some m => pure (wrap m)
    | none => pure (wrap (← memberFromModifiers rec { head with isStatic }))

/-- A member of a class; the inner answer is empty for one that is not kept. -/
def classItem (rec : Grammar) : Parser (Option (Option Node)) := do
  if ← at? "\x7d" then pure none
  else if ← eat ";" then pure (some none)
  else pure (some (← classMember rec))

/-- Notes every constructor but the first. -/
def noteConstructors (seen : Bool) : List Node → Parser Unit
  | [] => pure ()
  | n :: ns => do
    match n.form with
    | .method .constructor _ _ _ =>
      if seen then noteAt n.start .repeatedConstructor
      noteConstructors true ns
    | _ => noteConstructors seen ns

/-- A part of the list of types that a class implements or an interface extends. -/
def heritageItem (rec : Grammar) : Parser (Option Unit) := do
  let atEnd : Parser Bool := do
    pure ((← at? "\x7b") || (← atWord "implements") || (← atWord "extends"))
  if ← atEnd then pure none
  else
    typeReference rec
    if !(← atEnd) then expect ","
    pure (some ())

/-- Whether a name is one of those that no class and no interface may have. -/
def isTypeWord (name : String) : Bool :=
  ["string", "null", "number", "object", "any", "unknown", "boolean", "bigint", "symbol", "void",
    "never", "intrinsic"].contains name

/-- What a class extends, with its type arguments. -/
def superclass (rec : Grammar) (base : Parser Node) : Parser Node := do
  let b ← base
  typeArgumentsHere rec
  pure b

/-- One more class that a class extends, after a comma. -/
def superclassItem (rec : Grammar) (base : Parser Node) : Parser (Option Node) := do
  if ← eat "," then pure (some (← superclass rec base)) else pure none

/-- What is left of the head of a class after what it extends: what it implements, and what was written
once too often. -/
def heritage (rec : Grammar) (base : Parser Node) : Parser Unit := do
  if ← eatWord "extends" then
    noteAt (← get).before.lo .repeatedExtends
    let _ ← superclass rec base
  if ← eatWord "implements" then
    let _ ← sequenceOf (heritageItem rec)
  if ← eatWord "implements" then
    noteAt (← get).before.lo .repeatedImplements
    let _ ← sequenceOf (heritageItem rec)
  if ← eatWord "extends" then
    noteAt (← get).before.lo .repeatedImplements
    let _ ← superclass rec base

/-- Notes the abstract members of a class that is not abstract itself. -/
def noteAbstractMembers (members : List Node) : Parser Unit :=
  (members.filter fun m => m.form = .typeOnly none).forM fun m =>
    noteAt m.start .abstractMemberPlace

/-- A class from its word on; whether it is abstract, must have a name, and declares one. `base` parses
what it extends. -/
def classFrom (rec : Grammar) (base : Parser Node) (lo : Nat) (isAbstract named declares : Bool)
    (marks : List Node) : Parser Node := do
  step
  let t := (← get).token
  let typed := (← setting).typed
  let name ←
    if named then bindingIdentifier true
    else if t.isAnyWord && !t.isWord "extends" && !t.isWord "implements" then bindingIdentifier true
    else pure .absent
  if typed && isTypeWord name.nameText then noteAt name.start .className
  typeParameters rec .ofClass
  let super ←
    if ← eatWord "extends" then do
      let b ← superclass rec base
      if typed then
        (← sequenceOf (superclassItem rec base)).forM fun extra =>
          noteAt extra.start .severalSuperclasses
      pure b
    else pure .absent
  if typed then heritage rec base
  expect "\x7b"
  let items ← within (fun c => { c with derived := !super.isAbsent })
    (sequenceOf (classItem rec))
  expect "\x7d"
  let members := items.filterMap id
  if !isAbstract then noteAbstractMembers members
  let members := members.filter fun m => m.form ≠ .typeOnly none
  noteConstructors false members
  let c ← nodeFrom lo (if declares then .classDecl else .class) (name :: super :: members)
  if marks.isEmpty then pure c else pure (.mk .decorated c.span (c :: marks))

end Script

end NotebookEngine
