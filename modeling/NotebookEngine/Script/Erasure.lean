/-
**What types leave behind.**

Most of what has to do with types is gone after parsing.  Three kinds of declarations are left, which
stand for values too: enumerations, namespaces, and parameters of constructors that are fields.

An enumeration is an object that a function fills, and so is a namespace.  Whether a declaration is the
first of its name decides whether the object is made or added to; names are compared as they are written,
wherever in the program they are declared.

Main definitions:

* `Script.isConcrete` — whether a statement stands for anything but types;
* `Script.Pending` — what is known while declarations are replaced, one after the other;
* `Script.foldEnum`, `Script.foldNamespace` — the statements that declarations become;
* `Script.lower` — a tree with declarations replaced;
* `Script.erase` — a program without anything that has to do with types.
-/

import NotebookEngine.Script.ParameterField
import NotebookEngine.Script.Qualification

set_option autoImplicit false

namespace NotebookEngine

namespace Script

/-! ### What stands for types alone -/

mutual

/-- Whether a statement stands for anything but types, whether or not it is only declared. -/
def isConcrete : Node → Bool
  | .mk (.typeOnly _) _ _ => false
  | .mk .empty _ _ => false
  | .mk .ambient _ ds => anyConcrete ds
  | .mk (.exportNamed _ true) _ ds => anyConcrete ds
  | .mk .exportDecl _ ds => anyConcrete ds
  | .mk (.namespaceDecl _ _) _ (_ :: items) => anyConcrete items
  | .mk _ _ _ => true

/-- Whether one of the statements stands for anything but types. -/
def anyConcrete : List Node → Bool
  | [] => false
  | n :: ns => isConcrete n || anyConcrete ns

end

/-- Whether a declaration is left of a program without types. -/
def isKept (n : Node) : Bool :=
  match n.form with
  | .typeOnly _ | .ambient | .empty | .enumDecl _ true | .namespaceDecl true _ => false
  | .namespaceDecl false _ => isConcrete n
  | .exportNamed _ typeOnly => !typeOnly
  | .exportDecl =>
    match (n.part 0).form with
    | .typeOnly _ | .ambient | .enumDecl _ true | .namespaceDecl true _ => false
    | .namespaceDecl false _ => isConcrete (n.part 0)
    | _ => true
  | _ => true

/-- The statement that takes the place of one that is erased. -/
def keepStatement (n : Node) : Node :=
  match n.form with
  | .typeOnly _ | .ambient | .enumDecl _ _ | .namespaceDecl _ _ => .made .empty []
  | _ => n

/-- A node whose statements are those that stand for anything but types. -/
def stripStep (n : Node) : Node :=
  match n.form, n.parts with
  | .block, parts => .mk .block n.span (parts.filter isKept)
  | .program shebang, parts => .mk (.program shebang) n.span (parts.filter isKept)
  | .case, value :: parts => .mk .case n.span (value :: parts.filter isKept)
  | .namespaceDecl declared dotted, name :: items =>
    .mk (.namespaceDecl declared dotted) n.span (name :: (dropUnusedImports items).filter isKept)
  | .ifThen, test :: rest => .mk .ifThen n.span (test :: rest.map keepStatement)
  | .labelled label span, parts => .mk (.labelled label span) n.span (parts.map keepStatement)
  | .whileLoop, parts => .mk .whileLoop n.span (parts.map keepStatement)
  | .forLoop, parts => .mk .forLoop n.span (parts.map keepStatement)
  | _, _ => n

/-! ### State -/

/-- What is known while declarations are replaced, one after the other. -/
structure Pending where
  /-- The names that were declared. -/
  declared : List String
  /-- The variables to be declared at the end of the list of statements. -/
  bareNames : List String
  /-- The variables to be declared and exported at the end of the program. -/
  exported : List String

/-- An action that replaces declarations. -/
abbrev Replacing := StateM Pending

/-- Notes that a name is declared, and answers whether it is for the first time. -/
def declareName (name : String) : Replacing Bool := do
  let p ← get
  if p.declared.contains name then pure false
  else
    set { p with declared := name :: p.declared }
    pure true

/-- Has a variable declared at the end of the list of statements. -/
def needVariable (name : String) : Replacing Unit :=
  modify fun p => { p with bareNames := p.bareNames ++ [name] }

/-- A declaration of variables without values. -/
def bareVariables (names : List String) : Node :=
  .made (.declare .variable) (names.map fun name => .made .declarator [.named name, .absent])

/-! ### Enumerations -/

/-- The statement that gives an enumeration a member. -/
def memberStatement (enum name : String) (v : EnumValue) : Node :=
  let slot := Node.made (.index false) [.named enum, stringNode name]
  let set (target value : Node) : Node := .made (.assign "=") [target, value]
  let filled := set slot v.node
  let e := match v with
    | .string _ => filled
    | _ => set (.made (.index false) [.named enum, filled]) (stringNode name)
  .made .expression [e]

/-- The members that the object of an enumeration has: those of a constant enumeration that are known
are only needed where they are named. -/
def keptMembers (table : EnumTable) (exported isConst : Bool) (enum : String) (members : List Node) :
    List (String × EnumValue) :=
  let all := members.filterMap fun m =>
    match m.form with
    | .enumMember name => some (wholeLetters name, (table.find? enum name).getD .missing)
    | _ => none
  if isConst && !exported then all.filter fun m => !m.2.isKnown else all

/-- The object that belongs to a declaration: what was made of it before, or else a new one. -/
def openObject (place : Node) : Node :=
  .made (.binary "||") [place, .made (.assign "=") [place, .made .object []]]

/-- A call of a function of one parameter. -/
def callWith (name argument : Node) (body : Node) : Node :=
  .made (.call false) [.made (.function .plain) [.absent, body, name], argument]

/-- What an enumeration becomes; `around` is the namespace around it. -/
def foldEnum (table : EnumTable) (around : Option String) (exported : Bool) (n : Node) :
    Replacing Node := do
  let id := n.part 0
  let enum := id.nameText
  let first ← declareName enum
  let isConst := n.form matches .enumDecl true _
  let members := keptMembers table exported isConst enum n.parts.tail
  let statements := members.map fun m => memberStatement enum m.1 m.2
  if isConst && members.isEmpty then pure .absent
  else
    match if exported then around else none with
    | some owner =>
      let place := memberAt owner enum id.span
      let argument := if first then openObject place else place
      pure (.mk .expression n.span [callWith id argument (.made .block statements)])
    | none =>
      if !first then
        pure (.mk .expression n.span [callWith id id (.made .block statements)])
      else
        let body := Node.made .block (statements ++ [.made .return [id]])
        let call := callWith id (.made .object []) body
        let value := if members.any fun m => m.2.isOpen then call else .made .pure [call]
        let d := Node.mk (.declare (if exported then .variable else .lexical)) n.span
          [.made .declarator [id, value]]
        pure (if exported then .mk .exportDecl n.span [d] else d)

/-! ### Namespaces -/

/-- The assignment of a name to the member of a namespace of that name. -/
def assignMember (owner : String) (name : Node) : Node :=
  .made .expression
    [.made (.assign "=") [memberAt owner name.nameText name.span, name]]

/-- The assignments to the members of a namespace that a declaration of variables becomes. -/
def exportedAssigns (d : Node) : List Node :=
  let assigns := d.parts.filterMap fun v =>
    if (v.part 1).isAbsent then none
    else some (Node.mk (.assign "=") v.span [v.part 0, v.part 1])
  match assigns with
  | [] => []
  | [a] => [.mk .expression d.span [a]]
  | as => [.mk .expression d.span [.made .sequence as]]

/-- The call that fills the object of a namespace, which has a place. -/
def namespaceCall (place : Node) (n : Node) (body : List Node) : Node :=
  let maker := Node.made (.function .plain) [.absent, .mk .block n.span body, n.part 0]
  .mk .expression n.span [.mk (.call false) n.span [maker, openObject place]]

/-- A member of an object by its name. -/
def memberOf (object name : String) : Node := memberAt object name .none

mutual

/-- The statements that an item of a namespace becomes. -/
def namespaceItem (owner : String) : Node → List Node
  | .mk .exportDecl span parts =>
    let d := (Node.mk .exportDecl span parts).part 0
    match d.form with
    | .declare _ => exportedAssigns d
    | .decorated => [d, assignMember owner ((d.part 0).part 0)]
    | .functionDecl _ | .classDecl => [d, assignMember owner (d.part 0)]
    | _ => [d]
  | .mk (.importEquals exported) span [name, place] =>
    if exported then
      [.mk .expression span
        [.made (.assign "=") [memberAt owner name.nameText name.span, place]]]
    else [constantOf span name place]
  | .mk (.namespaceDecl declared true) span (name :: items) =>
    [namespaceCall (memberOf owner name.nameText)
      (.mk (.namespaceDecl declared true) span (name :: items)) (namespaceItems name.nameText items)]
  | .mk form span parts =>
    match form with
    | .exportDefault | .exportNamed _ _ | .exportAll _ | .exportAssign | .import _ _ _ _ => []
    | _ => [.mk form span parts]

/-- The statements that the items of a namespace become. -/
def namespaceItems (owner : String) : List Node → List Node
  | [] => []
  | n :: ns => namespaceItem owner n ++ namespaceItems owner ns

end

/-- What a namespace becomes; `around` is the namespace around it. -/
def foldNamespace (around : Option String) (exported : Bool) (n : Node) : Replacing Node := do
  let name := (n.part 0).nameText
  let owner? := if exported then around else none
  if ← declareName name then
    if !exported then needVariable name
    else if around.isNone then modify fun p => { p with exported := p.exported ++ [name] }
  let place := match owner? with
    | some o => memberOf o name
    | none => .named name
  pure (namespaceCall place n (namespaceItems name n.parts.tail))

/-! ### Statements -/

/-- What a declaration becomes. -/
def foldDeclaration (table : EnumTable) (around : Option String) (exported : Bool) (d : Node) :
    Replacing Node := do
  let whole (d : Node) : Node := if exported then .mk .exportDecl d.span [d] else d
  match d.form with
  | .enumDecl _ _ => foldEnum table around exported d
  | .namespaceDecl _ false => foldNamespace around exported d
  | .functionDecl _ | .classDecl =>
    let _ ← declareName (d.part 0).nameText
    pure (whole d)
  | .decorated =>
    let _ ← declareName ((d.part 0).part 0).nameText
    pure (whole d)
  | _ => pure (whole d)

/-- What a statement becomes. -/
def foldStatement (table : EnumTable) (around : Option String) (n : Node) : Replacing Node := do
  match n.form with
  | .exportDecl =>
    let folded ← foldDeclaration table around true (n.part 0)
    pure (match folded.form with
      | .exportDecl => .mk .exportDecl n.span folded.parts
      | _ => folded)
  | .exportDefault =>
    match (n.part 0).form with
    | .functionDecl _ | .classDecl =>
      let _ ← declareName ((n.part 0).part 0).nameText
      pure n
    | _ => pure n
  | _ => foldDeclaration table around false n

/-- The number of the parts of a form before its statements, if it has any. -/
def Form.statementsFrom? : Form → Option Nat
  | .block | .program _ => some 0
  | .case | .namespaceDecl _ _ => some 1
  | _ => none

/-- What is done with statements that were replaced: the variables they need are declared, and so are
those of the list around them afterwards. -/
def closeList (around : Pending) (parts : List Node) : Replacing (List Node) := do
  let p ← get
  set { p with bareNames := around.bareNames }
  let kept := parts.filter fun n => !n.isAbsent
  pure (if p.bareNames.isEmpty then kept else kept ++ [bareVariables p.bareNames])

/-- A class none of whose constructor's parameters is a field. -/
def foldClass (n : Node) : Replacing Node := do
  match n.form with
  | .classDecl | .class =>
    let (lowered, names) := lowerClass n
    names.forM needVariable
    pure lowered
  | _ => pure n

/-- The namespace around the parts of a node. -/
def namespaceAround (around : Option String) (form : Form) (parts : List Node) : Option String :=
  match form with
  | .namespaceDecl _ _ => some (parts.headD .absent).nameText
  | _ => around

mutual

/-- A tree with declarations replaced. -/
def lower (table : EnumTable) (around : Option String) : Node → Replacing Node
  | .mk form span parts => do
    match form.statementsFrom? with
    | none =>
      let parts ← lowerParts table around parts
      foldClass (.mk form span parts)
    | some count =>
      let outer ← get
      set { outer with bareNames := [] }
      let parts ← lowerStatements table (namespaceAround around form parts) count parts
      let statements ← closeList outer (parts.drop count)
      pure (.mk form span (parts.take count ++ statements))

/-- Trees with declarations replaced. -/
def lowerParts (table : EnumTable) (around : Option String) : List Node → Replacing (List Node)
  | [] => pure []
  | n :: ns => do
    let m ← lower table around n
    let ms ← lowerParts table around ns
    pure (m :: ms)

/-- Statements with declarations replaced, after so many parts that are none. -/
def lowerStatements (table : EnumTable) (around : Option String) :
    Nat → List Node → Replacing (List Node)
  | _, [] => pure []
  | count, n :: ns => do
    let m ← lower table around n
    let m ← if count = 0 then foldStatement table around m else pure m
    let ms ← lowerStatements table around (count - 1) ns
    pure (m :: ms)

end

/-! ### Exports -/

/-- The names of the types that a list of statements declares. -/
def typeNames (ss : List Node) : List String :=
  ss.filterMap fun s =>
    match s.form with
    | .typeOnly name => name
    | .exportNamed none true =>
      match (s.part 0).form with
      | .typeOnly name => name
      | _ => none
    | _ => none

/-- The names of the values that a statement declares, even if they are defined elsewhere. -/
def valueNames : Nat → Node → List String
  | 0, _ => []
  | n + 1, s =>
    match s.form with
    | .functionDecl _ | .classDecl | .enumDecl _ _ | .namespaceDecl _ _ => [(s.part 0).nameText]
    | .declare _ => (declaredNames s).map Node.nameText
    | .ambient | .exportDecl | .exportNamed none true | .decorated | .exportDefault =>
      valueNames n (s.part 0)
    | _ => []

/-- An export of names without those of types. -/
def eraseExport (types : List String) (n : Node) : Option Node :=
  match n.form with
  | .exportNamed none false =>
    let kept := n.parts.filter fun p =>
      !(p.form = .exportSpecifier true) && !(types.contains (p.part 0).nameText)
    if kept.isEmpty && !n.parts.isEmpty then none else some (.mk n.form n.span kept)
  | .exportNamed (some _) false =>
    let (attributes, bindings) := n.parts.partition fun p => p.form = .object
    let kept := bindings.filter fun p => !(p.form = .exportSpecifier true)
    if kept.isEmpty && !bindings.isEmpty then none
    else some (.mk n.form n.span (kept ++ attributes))
  | .exportDefault =>
    match (n.part 0).form with
    | .name w => if types.contains w then none else some n
    | _ => some n
  | _ => some n

/-- Whether the node makes a program a module. -/
def isExport (n : Node) : Bool :=
  match n.form with
  | .exportDecl | .exportDefault | .exportNamed _ _ | .exportAll _ => true
  | _ => false

/-- Items with what is all a module exports as a last statement. -/
def exportLast (items : List Node) : List Node :=
  let isAll (n : Node) : Bool := n.form = .exportAssign
  let assign (n : Node) : Node :=
    .mk .expression n.span [.mk (.assign "=") n.span [memberOf "module" "exports", n.part 0]]
  (items.filter fun n => !isAll n) ++ (items.filter isAll).map assign

/-! ### Programs -/

/-- A program without anything that has to do with types. -/
def erase (program : Node) : Node :=
  let items := program.parts
  let values := items.flatMap (valueNames 3)
  let types := (typeNames items).filter fun name => !values.contains name
  let stripped := program.rebuild stripStep
  let (lowered, p) := lower (enumTable stripped) none (qualifyProgram stripped) |>.run ⟨[], [], []⟩
  let kept := lowered.parts.filterMap (eraseExport types)
  let kept := if p.exported.isEmpty then kept
    else kept ++ [.made .exportDecl [bareVariables p.exported]]
  let closing :=
    if items.any isExport && !(kept.any isExport) then
      [Node.mk (.exportNamed none false) program.span []]
    else []
  .mk program.form program.span (exportLast kept ++ closing)

end Script

end NotebookEngine
