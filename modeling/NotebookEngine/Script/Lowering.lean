/-
**Passes over programs.**

The compiler runs these after parsing: imports become calls, a call that captures the variables of a cell
is given all that were declared before it, and what is awaited goes through a call that keeps track of it.

Main definitions:

* `Script.lowerImports` — imports as calls of `require`;
* `Script.boundNames` — the names that a pattern binds;
* `Script.captureLocals` — the variables declared before a capturing call added to it;
* `Script.trackAwaits` — what is awaited wrapped in a call.
-/

import NotebookEngine.Script.Syntax

set_option autoImplicit false

namespace NotebookEngine

namespace Script

/-! ### Calls -/

/-- A call of a function by its name, made up. -/
def callOf (name : String) (args : List Node) : Node := .made (.call false) (.named name :: args)

/-- Whether the node is a call of the function with the name. -/
def isCallOf (name : String) (n : Node) : Bool :=
  match n.form with
  | .call false => (n.part 0).form = .name name
  | _ => false

theorem isCallOf_callOf (name : String) (args : List Node) : isCallOf name (callOf name args) = true :=
  decide_eq_true rfl

theorem form_of_isCallOf {name : String} {n : Node} (h : isCallOf name n = true) :
    n.form = .call false := by
  rw [isCallOf] at h
  split at h
  next hform => exact hform
  next => cases h

/-! ### Imports -/

/-- A constant with a value. -/
def constantOf (span : Span) (name value : Node) : Node :=
  .mk (.declare .constant) span [.mk .declarator span [name, value]]

/-- The constant that an imported binding becomes, unless it is a type. -/
def lowerBinding (span : Span) (source : Node) (n : Node) : Option Node :=
  let required := callOf "require" [source]
  match n.form with
  | .importDefault => some (constantOf span (n.part 0) (callOf "__import_default" [required]))
  | .importNamespace => some (constantOf span (n.part 0) required)
  | .importNamed false =>
    let own := n.part 0
    let imported := if (n.part 1).isAbsent then own else n.part 1
    let value := match imported.form with
      | .string _ _ => Node.made (.index false) [required, imported]
      | _ => Node.made (.member imported.nameText .none false) [required]
    some (constantOf span own value)
  | _ => none

/-- The statements that an item of a module becomes. -/
def lowerImport (n : Node) : List Node :=
  match n.form with
  | .import _ _ _ true => []
  | .import v raw span false =>
    let source := Node.mk (.string v raw) span []
    match n.parts with
    | [] => [.mk .expression n.span [callOf "require" [source]]]
    | bindings => bindings.filterMap (lowerBinding n.span source)
  | _ => [n]

/-- A program with its imports as calls. -/
def lowerImports (program : Node) : Node :=
  .mk program.form program.span (program.parts.flatMap lowerImport)

/-! ### Names that are bound -/

mutual

/-- The identifiers that a pattern binds. -/
def boundNames : Node → List Node
  | .mk (.name w) span _ => [.mk (.name w) span []]
  | .mk .arrayPattern _ parts => boundNamesIn parts
  | .mk .objectPattern _ parts => boundNamesIn parts
  | .mk (.patternProperty _) _ [_, p] => boundNames p
  | .mk .shorthandPattern _ (p :: _) => boundNames p
  | .mk .rest _ [p] => boundNames p
  | .mk .defaulted _ (p :: _) => boundNames p
  | _ => []

/-- The identifiers that patterns bind. -/
def boundNamesIn : List Node → List Node
  | [] => []
  | p :: ps => boundNames p ++ boundNamesIn ps

end

/-- The identifiers that a declaration of variables binds. -/
def declaredNames (n : Node) : List Node :=
  match n.form with
  | .declare _ => n.parts.flatMap fun d => boundNames (d.part 0)
  | _ => []

/-! ### Captured variables -/

/-- The names of the properties of an object that stand for variables. -/
def propertyName? (n : Node) : Option String :=
  match n.form with
  | .shorthand => some (n.part 0).nameText
  | .property false =>
    match (n.part 0).form with
    | .name w => some w
    | _ => none
  | _ => none

/-- The object with a property for each of the names it lacks. -/
def addShorthands (object : Node) (names : List Node) : Node :=
  let parts := names.foldl
    (fun parts name =>
      if parts.any fun p => propertyName? p = some name.nameText then parts
      else parts ++ [.made .shorthand [.named name.nameText]])
    object.parts
  .mk object.form object.span parts

/-- What an arrow function answers, if that is an object, with the names added. -/
def captureInBody (names : List Node) (body : Node) : Node :=
  match body.form, body.parts with
  | .object, _ => addShorthands body names
  | .paren, [inner] =>
    match inner.form with
    | .object => .mk .paren body.span [addShorthands inner names]
    | _ => body
  | _, _ => body

/-- The arrow function with the names added to what it answers. -/
def captureInArrow (names : List Node) (n : Node) : Node :=
  match n.form, n.parts with
  | .arrow _, body :: params => .mk n.form n.span (captureInBody names body :: params)
  | _, _ => n

/-- The argument with the names added, if it is an arrow function, which may be spread. -/
def captureInArgument (names : List Node) (n : Node) : Node :=
  match n.form, n.parts with
  | .spread, [arrow] => .mk .spread n.span [captureInArrow names arrow]
  | _, _ => captureInArrow names n

/-- The statement with the names added, if it is a capturing call. -/
def captureInStatement (names : List Node) (n : Node) : Node :=
  match n.form, n.parts with
  | .expression, [e] =>
    if isCallOf "__capture_locals" e then
      match e.parts with
      | f :: a :: b :: c :: rest =>
        .mk .expression n.span
          [.mk e.form e.span (f :: a :: b :: captureInArgument names c :: rest)]
      | _ => n
    else n
  | _, _ => n

/-- Statements with the variables declared before each capturing call added to it; `names` were declared
before all of them. -/
def captureInList (names : List Node) : List Node → List Node
  | [] => []
  | n :: ns => captureInStatement names n :: captureInList (names ++ declaredNames n) ns

/-- A node with its own list of statements treated. -/
def captureStep (n : Node) : Node :=
  match n.form, n.parts with
  | .block, parts => .mk .block n.span (captureInList [] parts)
  | .case, value :: parts => .mk .case n.span (value :: captureInList [] parts)
  | _, _ => n

/-- A program with the variables of each list of statements added to its capturing calls. -/
def captureLocals (program : Node) : Node := program.rebuild captureStep

/-! ### Awaited values -/

/-- A node with what it awaits wrapped. -/
def trackStep (n : Node) : Node :=
  match n.form, n.parts with
  | .await, [e] =>
    if isCallOf "__track_await" e then n else .mk .await n.span [callOf "__track_await" [e]]
  | _, _ => n

/-- A program with everything awaited wrapped in a call. -/
def trackAwaits (program : Node) : Node := program.rebuild trackStep

end Script

end NotebookEngine
