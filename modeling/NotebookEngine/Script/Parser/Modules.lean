/-
**Imports and exports.**

Main definitions:

* `Script.importDeclaration`, `Script.exportDeclaration` — the two kinds of declarations;
* `Script.moduleItem` — a statement, an import or an export.
-/

import NotebookEngine.Script.Parser.Statements

set_option autoImplicit false

namespace NotebookEngine

namespace Script

/-! ### Sources and names -/

/-- The source of an import or export: its value, its text and its span. -/
def moduleSource : Parser (String × String × Span) := do
  let t := (← get).token
  match t.lexeme with
  | .string v raw =>
    step
    pure (v, raw, ← spanFrom t.lo)
  | _ => failUnexpected "a string literal"

/-- What more is said about a source: an object, or nothing. -/
def sourceAttributes (rec : Grammar) : Parser (List Node) := do
  let t := (← get).token
  if !t.afterLineEnd && (t.isWord "with" || t.isWord "assert") && (← peek).isPunct "\x7b" then
    step
    pure [← rec .assignment]
  else pure []

/-- A name or a string that names an export. -/
def exportName : Parser Node := do
  let t := (← get).token
  match t.lexeme with
  | .string v raw =>
    step
    nodeFrom t.lo (.string v raw) []
  | _ => anyName

/-! ### Imports -/

/-- Notes the word `type` at a place if types alone are imported or exported anyway. -/
def noteTypeTwice (typeOnly : Bool) (place : Nat) (complaint : Complaint) : Parser Unit := do
  if typeOnly then noteAt place complaint

/-- A binding that was imported by a name, from what may be `as` on. -/
def importRenamed (lo : Nat) (isType : Bool) (name : Node) : Parser Node := do
  if ← eatWord "as" then
    let own ← bindingIdentifier false
    nodeFrom lo (.importNamed isType) [own, name]
  else nodeFrom lo (.importNamed isType) [name, .absent]

/-- A binding that was imported by a name, after `type` was read for that name. -/
def importAfterType (lo : Nat) (typeOnly : Bool) (word : Node) : Parser Node := do
  let second ← anyName
  if second.nameText ≠ "as" then
    noteTypeTwice typeOnly lo .importTypeTwice
    importRenamed lo true second
  else if !(← get).token.isAnyWord then
    noteTypeTwice typeOnly lo .importTypeTwice
    nodeFrom lo (.importNamed true) [second, .absent]
  else
    let third ← bindingIdentifier false
    if third.nameText = "as" && (← get).token.isAnyWord then
      let own ← bindingIdentifier false
      noteTypeTwice typeOnly lo .importTypeTwice
      nodeFrom lo (.importNamed true) [own, second]
    else nodeFrom lo (.importNamed false) [third, word]

/-- A binding that is imported by a name. -/
def importBinding (typeOnly : Bool) : Parser Node := do
  let lo ← here
  let name ← exportName
  match name.form with
  | .string v _ =>
    if ← eatWord "as" then
      let own ← bindingIdentifier false
      nodeFrom lo (.importNamed false) [own, name]
    else failAt lo (.importString v)
  | _ =>
    if (← setting).typed && name.nameText = "type" && (← get).token.isAnyWord then
      importAfterType lo typeOnly name
    else importRenamed lo false name

/-- The bindings in braces or of all exports. -/
def importBindings (typeOnly : Bool) : Parser (List Node) := do
  let lo ← here
  if ← eat "*" then
    expectWord "as"
    let own ← bindingIdentifier false
    pure [← nodeFrom lo .importNamespace [own]]
  else if ← eat "\x7b" then
    let items ← sequenceOf (listItem "\x7d" (importBinding typeOnly))
    expect "\x7d"
    pure items
  else pure []

/-- Whether the word `type` at the token says that types alone are imported. -/
def importsTypes : Parser Bool := do
  if !(← setting).typed || !(← atWord "type") then pure false
  else
    let next ← peek
    let after := lex next.rest next.hi
    pure (next.isPunct "\x7b" || next.isPunct "*" ||
      (next.isAnyWord && (!next.isWord "from" || after.isWord "from" || after.isPunct "=")))

/-- A point and a name after what a name stands for. -/
def placeStep (n : Node) : Parser (Option Node) := do
  if ← eat "." then
    let p ← anyName
    pure (some (← nodeFrom n.start (.member p.nameText p.span false) [n]))
  else pure none

/-- What a name stands for, from the sign between them on. -/
def importAssignment (lo : Nat) (exported typeOnly : Bool) (name : Node) : Parser Node := do
  expect "="
  if (← atWord "require") && (← peek).isPunct "(" then
    step
    step
    let (_, _, _) ← moduleSource
    expect ")"
    expectStatementEnd
    nodeFrom lo (.typeOnly none) []
  else
    let place ← extend placeStep (← anyName)
    expectStatementEnd
    if typeOnly then nodeFrom lo (.typeOnly none) []
    else nodeFrom lo (.importEquals exported) [name, place]

/-- An import from its word on. -/
def importDeclaration (rec : Grammar) : Parser Node := do
  let lo ← here
  step
  match (← get).token.lexeme with
  | .string _ _ =>
    let (v, raw, span) ← moduleSource
    let _ ← sourceAttributes rec
    let _ ← eatStatementEnd
    nodeFrom lo (.import v raw span false) []
  | _ =>
    let typeOnly ← importsTypes
    if typeOnly then step
    let firstPlace ← here
    let first ←
      if (← get).token.isAnyWord then do
        let n ← bindingIdentifier false
        pure [← nodeFrom firstPlace .importDefault [n]]
      else pure []
    if !first.isEmpty && (← setting).typed && (← at? "=") then
      importAssignment lo false typeOnly ((first.headD .absent).part 0)
    else
      let more ←
        if first.isEmpty then importBindings typeOnly
        else if ← atWord "from" then pure []
        else do
          expect ","
          importBindings typeOnly
      expectWord "from"
      let (v, raw, span) ← moduleSource
      let _ ← sourceAttributes rec
      expectStatementEnd
      nodeFrom lo (.import v raw span typeOnly) (first ++ more)

/-! ### Exports -/

/-- A binding that is exported, after `type` was read for its name. -/
def exportAfterType (lo : Nat) (typeOnly : Bool) (word : Node) : Parser Node := do
  let second ← anyName
  let twice : Parser Unit := noteTypeTwice typeOnly lo .exportTypeTwice
  if second.nameText ≠ "as" then
    twice
    let renamed ← if ← eatWord "as" then exportName else pure .absent
    nodeFrom lo (.exportSpecifier true) [second, renamed]
  else if !(← get).token.isAnyWord then
    twice
    nodeFrom lo (.exportSpecifier true) [second, .absent]
  else
    let third ← anyName
    if third.nameText = "as" && (← get).token.isAnyWord then
      let renamed ← anyName
      twice
      nodeFrom lo (.exportSpecifier true) [second, renamed]
    else nodeFrom lo (.exportSpecifier false) [word, third]

/-- A binding that is exported. -/
def exportBinding (typeOnly : Bool) : Parser Node := do
  let lo ← here
  let first ← exportName
  if (← setting).typed && first.form = .name "type" && (← get).token.isAnyWord then
    exportAfterType lo typeOnly first
  else
    let renamed ← if ← eatWord "as" then exportName else pure .absent
    nodeFrom lo (.exportSpecifier false) [first, renamed]

/-- Notes the bindings that can only be passed on from another module. -/
def noteLocalExports : List Node → Parser Unit
  | [] => pure ()
  | n :: ns => do
    let name := n.part 0
    match name.form with
    | .string _ _ => noteAt name.start .exportString
    | .name w => if keywords.contains w then noteAt name.start (.exportWithoutSource w)
    | _ => pure ()
    noteLocalExports ns

/-- A list of bindings that are exported, from its brace on. -/
def exportBindings (rec : Grammar) (lo : Nat) (typeOnly : Bool) : Parser Node := do
  expect "\x7b"
  let items ← sequenceOf (listItem "\x7d" (exportBinding typeOnly))
  expect "\x7d"
  if ← eatWord "from" then
    let (_, raw, _) ← moduleSource
    let attributes ← sourceAttributes rec
    expectStatementEnd
    nodeFrom lo (.exportNamed (some raw) typeOnly) (items ++ attributes)
  else
    noteLocalExports items
    expectStatementEnd
    nodeFrom lo (.exportNamed none typeOnly) items

/-- Everything another module exports, from the star on. -/
def exportEverything (rec : Grammar) (lo : Nat) (typeOnly : Bool) : Parser Node := do
  let star ← here
  step
  if ← eatWord "as" then
    let name ← exportName
    let n ← nodeFrom star .exportNamespace [name]
    expectWord "from"
    let (_, raw, _) ← moduleSource
    let attributes ← sourceAttributes rec
    expectStatementEnd
    nodeFrom lo (.exportNamed (some raw) typeOnly) (n :: attributes)
  else
    expectWord "from"
    let (_, raw, _) ← moduleSource
    let attributes ← sourceAttributes rec
    expectStatementEnd
    if typeOnly then nodeFrom lo (.exportNamed (some raw) true) []
    else nodeFrom lo (.exportAll raw) attributes

/-- The decorators after `export`, or else those before it; there may not be both. -/
def exportDecorators (rec : Grammar) (marks : List Node) : Parser (List Node) := do
  let lo ← here
  let own ← decorators rec
  if own.isEmpty then pure marks
  else if marks.isEmpty then pure own
  else failAt lo .repeatedDecorators

/-- What is exported by default, after the word `default`. -/
def exportDefault (rec : Grammar) (lo : Nat) (marks : List Node) : Parser Node := do
  let marks ← exportDecorators rec marks
  let base := leftSide rec (← get).limit
  let t := (← get).token
  let next ← peek
  let typed := (← setting).typed
  if t.isWord "class" then
    let c ← classFrom rec base t.lo false false true marks
    nodeFrom lo .exportDefault [c]
  else if typed && t.isWord "abstract" && next.isWord "class" && !next.afterLineEnd then
    step
    let c ← classFrom rec base t.lo true false true marks
    nodeFrom lo .exportDefault [c]
  else if typed && t.isWord "interface" && next.isNameRef && !next.afterLineEnd then
    let n ← interfaceDeclaration rec
    nodeFrom lo n.form []
  else if t.isWord "function" || (t.isWord "async" && next.isWord "function" && !next.afterLineEnd)
  then
    let isAsync := t.isWord "async"
    if isAsync then step
    let f ← functionFrom rec t.lo isAsync false true
    match f.form with
    | .typeOnly _ => pure f
    | _ => nodeFrom lo .exportDefault [f]
  else
    let e ← withIn (rec .assignment)
    expectStatementEnd
    nodeFrom lo .exportDefault [e]

/-- A declaration that is exported. -/
def exportedDeclaration (rec : Grammar) (lo : Nat) (marks : List Node) :
    Parser (Option Node) := do
  let wrap (d : Node) : Parser (Option Node) := do
    match d.form with
    | .typeOnly _ | .ambient => pure (some (← nodeFrom lo (.exportNamed none true) [d]))
    | _ => pure (some (← nodeFrom lo .exportDecl [d]))
  match ← typedDeclaration rec marks (← get).limit with
  | some d => wrap d
  | none =>
    let t := (← get).token
    let next ← peek
    if t.isWord "class" then
      wrap (← classFrom rec (leftSide rec (← get).limit) t.lo false true true marks)
    else if t.isWord "function" then wrap (← functionFrom rec t.lo false true true)
    else if t.isWord "async" && next.isWord "function" && !next.afterLineEnd then
      step
      wrap (← functionFrom rec t.lo true true true)
    else
      match ← declarationWord with
      | some kind => wrap (← declarations rec kind false)
      | none => pure none

/-- An export from its word on. -/
def exportDeclaration (rec : Grammar) (marks : List Node) : Parser Node := do
  let lo ← here
  step
  let t := (← get).token
  let next ← peek
  let typed := (← setting).typed
  if t.isFinish then fail .unexpectedEnd
  else if t.isPunct "*" then exportEverything rec lo false
  else if typed && t.isWord "type" && (next.isPunct "\x7b" || next.isPunct "*") then
    step
    if ← at? "*" then exportEverything rec lo true else exportBindings rec lo true
  else if ← eatWord "default" then exportDefault rec lo marks
  else if typed && t.isWord "as" && next.isWord "namespace" then
    step
    step
    let _ ← identifier
    expectStatementEnd
    nodeFrom lo (.typeOnly none) []
  else if typed && t.isWord "import" then
    step
    let typeOnly ← importsTypes
    if typeOnly then step
    let name ← bindingIdentifier false
    importAssignment lo true typeOnly name
  else if typed && t.isPunct "=" then
    step
    let e ← rec .expression
    expectStatementEnd
    nodeFrom lo .exportAssign [e]
  else
    let marks ← exportDecorators rec marks
    match ← exportedDeclaration rec lo marks with
    | some d => pure d
    | none => exportBindings rec lo false

/-! ### Items -/

/-- A statement, an import or an export. -/
def moduleItem (rec : Grammar) : Parser Node := do
  let marks ← decorators rec
  let t := (← get).token
  let next ← peek
  if t.isWord "import" && !next.isPunct "(" && !next.isPunct "." then importDeclaration rec
  else if t.isWord "export" then exportDeclaration rec marks
  else within (fun c => { c with modular := false }) (statementAfter rec marks true)

end Script

end NotebookEngine
