/-
**Statements.**

Main definitions:

* `Script.statement` — a statement or a declaration;
* `Script.block` — statements in braces;
* `Script.declarations` — the declaration of variables;
* `Script.typedDeclaration` — a declaration that has to do with types.
-/

import NotebookEngine.Script.Parser.Expressions

set_option autoImplicit false

namespace NotebookEngine

namespace Script

/-! ### Blocks -/

/-- A statement before the closing brace; a missing brace is noted. -/
def blockItem (one : Parser Node) : Parser (Option Node) := do
  if ← at? "\x7d" then pure none
  else if ← atFinish then
    note (.expected "'\x7d'" (← get).token.lexeme.title)
    pure none
  else pure (some (← one))

/-- Statements in braces. -/
def block (rec : Grammar) : Parser Node := do
  let lo ← here
  expect "\x7b"
  let items ← within (fun c => { c with modular := false, exporting := false, withoutIn := false })
    (sequenceOf (blockItem (rec (.statement true))))
  let _ ← eat "\x7d"
  nodeFrom lo .block items

/-! ### Variables -/

/-- Whether a declaration goes on with the token after `let`. -/
def followsLet (t : Token) : Bool :=
  match t.lexeme with
  | .word w _ => !keywords.contains w || w = "let" || w = "yield" || w = "await"
  | .punct p => p = "\x7b" || p = "["
  | _ => false

/-- A variable and its value. -/
def declarator (rec : Grammar) (kind : Declaration) (inLoop : Bool) : Parser Node := do
  let lo ← here
  let p ← match kind with
    | .variable => rec .pattern
    | _ => bindingPattern rec true
  if (← setting).typed && p.nameText ≠ "" then
    let _ ← eat "!"
  let _ ← annotation rec
  let value ←
    if inLoop && ((← atWord "of") || (← atWord "in")) then pure .absent
    else if ← eat "=" then
      if inLoop && kind = .variable then rec .assignment else withIn (rec .assignment)
    else
      let c ← setting
      if !c.ambient then
        if kind = .constant then noteAt lo .constantInitializer
        else
          match p.form with
          | .name _ => pure ()
          | _ => failAt lo .patternInitializer
      pure .absent
  nodeFrom lo .declarator [p, value]

/-- More variables after a comma. -/
def declaratorItem (rec : Grammar) (kind : Declaration) (inLoop : Bool) :
    Parser (Option Node) := do
  if !(← at? ",") then pure none
  else
    step
    if ← at? ";" then
      noteAt (← get).before.lo .trailingComma
      pure none
    else pure (some (← declarator rec kind inLoop))

/-- Goes over tokens up to the end of a statement, at most `n`. -/
def skipToEnd : Nat → Parser Unit
  | 0 => pure ()
  | n + 1 => do
    if !(← eatStatementEnd) then
      step
      match (← get).token.lexeme with
      | .bad _ => pure ()
      | _ => skipToEnd n

/-- Whether the head of a loop goes on with `of` or `in` where a variable is missing. -/
def lacksVariables (rec : Grammar) : Parser Bool :=
  lookAhead do
    if (← eatWord "of") || (← eatWord "in") then
      let _ ← rec .assignment
      at? ")"
    else pure false

/-- Variables that are declared, from the word on. -/
def declarations (rec : Grammar) (kind : Declaration) (inLoop : Bool) : Parser Node := do
  let lo ← here
  step
  let wordEnd := (← get).before.hi
  if inLoop && (← setting).typed && (← lacksVariables rec) then
    noteAt wordEnd .emptyDeclarations
    nodeFrom lo (.declare kind) []
  else if ← at? ";" then
    noteAt lo .trailingComma
    if !inLoop then
      let _ ← eatStatementEnd
    nodeFrom lo (.declare kind) []
  else
    let first ← declarator rec kind inLoop
    let more ← sequenceOf (declaratorItem rec kind inLoop)
    if inLoop then nodeFrom lo (.declare kind) (first :: more)
    else
      if !(← eatStatementEnd) then
        note .semicolonExpected
        let _ ← attempt (rec .expression)
        skipToEnd (← get).limit
      nodeFrom lo (.declare kind) (first :: more)

/-- How the word at the token declares variables, if it does. -/
def declarationWord : Parser (Option Declaration) := do
  let t := (← get).token
  if t.isWord "var" then pure (some .variable)
  else if t.isWord "const" then pure (some .constant)
  else if t.isWord "let" && followsLet (← peek) then pure (some .lexical)
  else pure none

/-- A variable that is let go of at the end of its block, and the comma after it. -/
def resourceItem (rec : Grammar) (lo : Nat) (isFirst : Bool) : Parser (Option Node) := do
  if !isFirst && !(← eat ",") then pure none
  else if ← at? ";" then
    noteAt (← get).before.lo .trailingComma
    pure none
  else
    let d ← declarator rec .variable false
    match (d.part 0).form with
    | .name _ => pure ()
    | _ => noteAt lo .resourceName
    if (d.part 1).isAbsent then noteAt lo .resourceInitializer
    pure (some d)

/-- Variables that are let go of at the end of their block, if such are declared at the token. -/
def resources (rec : Grammar) : Parser (Option Node) := do
  let t := (← get).token
  let lo := t.lo
  let next ← peek
  let isAwait := t.isWord "await" && next.isWord "using"
  let word := if isAwait then next else t
  let after := lex word.rest word.hi
  if !(← setting).typed || !word.isWord "using" || !after.isNameRef || after.afterLineEnd then pure none
  else
    if isAwait then step
    step
    match ← resourceItem rec lo true with
    | none => pure (some (← nodeFrom lo (.using isAwait) []))
    | some first =>
      let more ← sequenceOf (resourceItem rec lo false)
      expectStatementEnd
      pure (some (← nodeFrom lo (.using isAwait) (first :: more)))

/-! ### Loops -/

/-- The body of a loop. -/
def loopBody (rec : Grammar) : Parser Node :=
  within (fun c => { c with breakable := true, continuable := true }) (rec (.statement false))

/-- A condition in round brackets. -/
def bracketedCondition (rec : Grammar) : Parser Node := do
  expect "("
  let e ← withIn (rec .expression)
  expect ")"
  pure e

/-- Fails at the word `await` of a loop that cannot await anything. -/
def refuseAwait : Option Nat → Parser Unit
  | some place => failAt place .awaitedLoop
  | none => pure ()

/-- The object and the body of a loop over the parts of an object, from `of` or `in` on; `await?` is the
place of the word `await`. -/
def eachLoop (rec : Grammar) (lo : Nat) (await? : Option Nat) (target : Node) : Parser Node := do
  let isOf ← atWord "of"
  step
  let object ← if isOf then rec .assignment else withIn (rec .expression)
  expect ")"
  let body ← loopBody rec
  if !isOf then refuseAwait await?
  nodeFrom lo (if isOf then .forOf await?.isSome else .forIn) [target, object, body]

/-- The rest of a loop after its start. -/
def countedLoop (rec : Grammar) (lo : Nat) (await? : Option Nat) (start : Node) : Parser Node := do
  let test ←
    if ← eat ";" then pure .absent
    else do
      let e ← rec .expression
      expect ";"
      pure e
  let next ← if ← at? ")" then pure .absent else rec .expression
  expect ")"
  let body ← loopBody rec
  refuseAwait await?
  nodeFrom lo .forLoop [start, test, next, body]

/-- Whether the token is `of` or `in`. -/
def atEach : Parser Bool := do pure ((← atWord "of") || (← atWord "in"))

/-- Notes what a declaration at the start of a loop over the parts of an object may not have. -/
def noteLoopVariables (d : Node) : Parser Unit := do
  match d.parts with
  | [v] =>
    let p := v.part 0
    if !(v.part 1).isAbsent then noteAt p.start .forInitializer
    else if (← setting).typed && v.span.hi > p.span.hi then noteAt p.start .forTyped
  | _ :: w :: _ => noteAt (w.part 0).start .forDeclarations
  | [] => pure ()

/-- Notes a pattern that takes the keys of an object apart. -/
def noteLoopPattern (p : Node) : Parser Unit := do
  if (← setting).typed && (← atWord "in") &&
      (p.form = .arrayPattern || p.form = .objectPattern) then
    noteAt p.start .forPattern

/-- Whether the expression is the word that declares a variable to be let go of; if so, whether it
awaits that. -/
def resourceWord? (e : Node) : Option Bool :=
  match e.form with
  | .name "using" => some false
  | .await => if (e.part 0).form = .name "using" then some true else none
  | _ => none

/-- The variable at the start of a loop that is let go of after each round; the word before it was taken
for an expression. -/
def resourceTarget? (e : Node) : Parser (Option Node) := do
  match resourceWord? e with
  | none => pure none
  | some isAwait =>
    let next ← peek
    if !(← setting).typed || (← atWord "of") || !(next.isWord "of" || next.isWord "in") then
      pure none
    else
      let name ← bindingIdentifier false
      if ← atWord "in" then noteAt e.start .resourceInKeyLoop
      let d ← nodeFrom e.start .declarator [name, .absent]
      pure (some (← nodeFrom e.start (.using isAwait) [d]))

/-- A loop from its word on. -/
def forLoop (rec : Grammar) : Parser Node := do
  let lo ← here
  step
  let place ← here
  let await? := if ← eatWord "await" then some place else none
  expect "("
  match ← declarationWord with
  | some kind =>
    let d ← within (fun c => { c with withoutIn := true }) (declarations rec kind true)
    if ← atEach then
      noteLoopVariables d
      eachLoop rec lo await? d
    else
      expect ";"
      countedLoop rec lo await? d
  | none =>
    if ← eat ";" then countedLoop rec lo await? .absent
    else
      let e ← within (fun c => { c with withoutIn := true, loopStart := some await?.isSome })
        (rec .expression)
      match ← resourceTarget? e with
      | some target => eachLoop rec lo await? target
      | none =>
        if ← atEach then
          let target ← asPattern .target e
          noteLoopPattern target
          eachLoop rec lo await? target
        else
          expect ";"
          countedLoop rec lo await? e

/-! ### Jumps -/

/-- A statement that leaves a loop or starts it again. -/
def jump (isBreak : Bool) : Parser Node := do
  let lo ← here
  step
  let s ← get
  let c := s.setting
  if ← eatStatementEnd then
    if isBreak && !c.breakable then noteAt lo .breakOutside
    if !isBreak && !c.continuable then noteAt lo .continueOutside
    nodeFrom lo (if isBreak then .break none else .continue none) []
  else
    let label ← identifier
    expectStatementEnd
    let name := label.nameText
    if isBreak then
      if !s.labels.contains name then noteAt label.start .breakLabel
    else if !c.continuable then noteAt lo .continueOutside
    else if !s.labels.contains name then noteAt label.start .continueLabel
    nodeFrom lo (if isBreak then .break (some name) else .continue (some name)) []

/-! ### Choices -/

/-- A statement before the next case. -/
def caseItem (rec : Grammar) : Parser (Option Node) := do
  if (← at? "\x7d") || (← atWord "case") || (← atWord "default") then pure none
  else pure (some (← rec (.statement true)))

/-- The cases of a choice; the flag says whether a default came before. -/
def cases (rec : Grammar) : Nat → Bool → Parser (List Node)
  | 0, _ => pure []
  | n + 1, seen => do
    let lo ← here
    let isDefault ← atWord "default"
    if !isDefault && !(← atWord "case") then pure []
    else
      step
      if isDefault && seen then fail .repeatedDefault
      let value ← if isDefault then pure .absent else withIn (rec .expression)
      expect ":"
      let items ← sequenceOf (caseItem rec)
      let c ← nodeFrom lo .case (value :: items)
      let rest ← cases rec n (seen || isDefault)
      pure (c :: rest)

/-- A choice between cases. -/
def switchStatement (rec : Grammar) : Parser Node := do
  let lo ← here
  step
  let value ← bracketedCondition rec
  expect "\x7b"
  let limit := (← get).limit
  let items ← within
    (fun c => { c with breakable := true, modular := false, exporting := false })
    (cases rec limit false)
  expect "\x7d"
  nodeFrom lo .switch (value :: items)

/-- What is done about a failure, if that is said. -/
def catchClause (rec : Grammar) : Parser Node := do
  let lo ← here
  if ← eatWord "catch" then
    let p ←
      if ← eat "(" then do
        let p ← rec .pattern
        let _ ← annotation rec
        expect ")"
        pure p
      else pure .absent
    let b ← rec .block
    nodeFrom lo .catchClause [p, b]
  else pure .absent

/-- What is done in the end, if that is said. -/
def finallyBlock (rec : Grammar) : Parser Node := do
  if ← eatWord "finally" then rec .block else pure .absent

/-- A statement whose failure is dealt with. -/
def tryStatement (rec : Grammar) : Parser Node := do
  let lo ← here
  step
  let body ← rec .block
  let place ← here
  let handler ← catchClause rec
  let final ← finallyBlock rec
  if handler.isAbsent && final.isAbsent then noteAt place .semicolonExpected
  nodeFrom lo .try [body, handler, final]

/-- What deals with the failure of nothing, which is noted. -/
def strayHandler (rec : Grammar) : Parser Node := do
  let lo ← here
  note .semicolonExpected
  let _ ← catchClause rec
  let _ ← finallyBlock rec
  nodeFrom lo .empty []

/-! ### Declarations of types -/

/-- Goes over tokens up to the brace that opens a body, at most `n`. -/
def skipToBrace : Nat → Parser Unit
  | 0 => pure ()
  | n + 1 => do
    if !(← at? "\x7b") && !(← atFinish) then
      step
      skipToBrace n

/-- An interface from its word on. -/
def interfaceDeclaration (rec : Grammar) : Parser Node := do
  let lo ← here
  step
  let name ← identifier
  if isTypeWord name.nameText then noteAt name.start .interfaceName
  typeParameters rec .ofType
  if ← eatWord "extends" then
    let _ ← sequenceOf (heritageItem rec)
  if ← atWord "extends" then
    note .repeatedExtends
    skipToBrace (← get).limit
  objectType rec
  nodeFrom lo (.typeOnly (some name.nameText)) []

/-- A name for a type from its word on. -/
def aliasDeclaration (rec : Grammar) : Parser Node := do
  let lo ← here
  step
  let name ← identifier
  typeParameters rec .ofType
  expect "="
  innerType rec
  expectStatementEnd
  nodeFrom lo (.typeOnly (some name.nameText)) []

/-- A member of an enumeration. A token that cannot follow a name is taken for a comma together with the
one after it. -/
def enumMember (rec : Grammar) : Parser (Option Node) := do
  if ← at? "\x7d" then pure none
  else
    let t := (← get).token
    let name ←
      match t.lexeme with
      | .string v _ => do
        step
        pure v
      | .number _ raw => do
        step
        noteAt t.lo .enumNumericName
        pure raw
      | .punct "[" => do
        step
        let _ ← withIn (rec .expression)
        noteAt t.lo .enumComputedName
        expect "]"
        pure ""
      | _ => do
        let n ← anyName
        pure n.nameText
    let value ←
      if ← eat "=" then withIn (rec .assignment)
      else if (← at? ",") || (← at? "\x7d") then pure .absent
      else do
        note .semicolonExpected
        step
        modify fun s => { s with token := { s.token with lexeme := .punct "," } }
        pure .absent
    let n ← nodeFrom t.lo (.enumMember name) [value]
    if !(← eat ",") && !(← at? "\x7d") then note (.expected "','" (← get).token.lexeme.title)
    pure (some n)

/-- An enumeration from its word on. -/
def enumDeclaration (rec : Grammar) (lo : Nat) (isConst : Bool) : Parser Node := do
  step
  let name ← identifier
  expect "\x7b"
  let members ← sequenceOf (enumMember rec)
  expect "\x7d"
  nodeFrom lo (.enumDecl isConst (← setting).ambient) (name :: members)

/-- The statements of a namespace. -/
def namespaceBlock (rec : Grammar) : Parser (List Node) := do
  expect "\x7b"
  let items ← within
    (fun c => { c with modular := true, exporting := true, withoutIn := false })
    (sequenceOf (blockItem (rec .moduleItem)))
  let _ ← eat "\x7d"
  pure items

/-- A namespace from its name on; `n` bounds the number of names with points between them. -/
def namespaceFrom (rec : Grammar) (lo : Nat) (dotted : Bool) : Nat → Parser Node
  | 0 => fail .identifierExpected
  | n + 1 => do
    let name ← identifier
    let form := Form.namespaceDecl (← setting).ambient dotted
    if ← eat "." then
      let inner ← namespaceFrom rec (← here) true n
      nodeFrom lo form [name, inner]
    else
      let items ← namespaceBlock rec
      nodeFrom lo form (name :: items)

/-- The declaration of a module of another file, from its word on. -/
def moduleDeclaration (rec : Grammar) : Parser Node := do
  let lo ← here
  step
  if ← at? "\x7b" then
    let _ ← within (fun c => { c with ambient := true }) (namespaceBlock rec)
  else
    let _ ← eatStatementEnd
  nodeFrom lo (.typeOnly none) []

/-- The words of what may be declared but not defined. -/
def declaredWords : List String :=
  ["function", "class", "const", "var", "let", "global", "abstract", "enum", "interface", "module",
    "namespace", "type", "async"]

/-- A declaration that has to do with types, if one starts at the token; `n` bounds the words
`declare` in a row. -/
def typedDeclaration (rec : Grammar) (marks : List Node) : Nat → Parser (Option Node)
  | 0 => pure none
  | n + 1 => do
    let t := (← get).token
    if !(← setting).typed then pure none
    else
      let next ← peek
      let sameLine := !next.afterLineEnd
      let base := leftSide rec (← get).limit
      if t.isWord "enum" && next.isNameRef then pure (some (← enumDeclaration rec t.lo false))
      else if t.isWord "const" && next.isWord "enum" then
        step
        pure (some (← enumDeclaration rec t.lo true))
      else if t.isWord "interface" && next.isNameRef && sameLine then
        pure (some (← interfaceDeclaration rec))
      else if t.isWord "type" && next.isNameRef && sameLine then
        pure (some (← aliasDeclaration rec))
      else if (t.isWord "namespace" || t.isWord "module") && next.isNameRef && sameLine then
        step
        pure (some (← namespaceFrom rec t.lo false (← get).limit))
      else if t.isWord "module" && next.lexeme.title = "string literal" && sameLine then
        step
        pure (some (← moduleDeclaration rec))
      else if t.isWord "global" && next.isPunct "\x7b" && sameLine then
        pure (some (← moduleDeclaration rec))
      else if t.isWord "abstract" && next.isWord "class" && sameLine then
        step
        pure (some (← classFrom rec base t.lo true true true marks))
      else if t.isWord "declare" && declaredWords.any next.isWord && sameLine then
        if (← setting).ambient then noteAt t.lo .doubleAmbient
        step
        let d ← within (fun c => { c with ambient := true }) do
          match ← declarationWord with
          | some kind =>
            if next.isWord "const" && (← peek).isWord "enum" then typedDeclaration rec [] n
            else pure (some (← declarations rec kind false))
          | none =>
            if ← atWord "function" then
              pure (some (← functionFrom rec t.lo false true true))
            else if ← atWord "class" then
              pure (some (← classFrom rec base t.lo false true true []))
            else typedDeclaration rec [] n
        match d with
        | some d => pure (some (← nodeFrom t.lo .ambient [d]))
        | none => failUnexpected "a declaration"
      else pure none

/-! ### Statements -/

/-- A statement with a label, from the label on. -/
def labelledStatement (rec : Grammar) : Parser Node := do
  let lo ← here
  let label ← identifier
  expect ":"
  let labels := (← get).labels
  if labels.contains label.nameText then noteAt lo (.repeatedLabel label.nameText)
  let body ← withLabels (label.nameText :: labels) do
    if ← atWord "function" then
      note .labelledFunction
      functionFrom rec (← here) false true true
    else
      within (fun c => { c with breakable := c.breakable || c.typed }) (rec (.statement false))
  nodeFrom lo (.labelled label.nameText label.span) [body]

/-- An expression that is a statement. -/
def expressionStatement (rec : Grammar) : Parser Node := do
  let lo ← here
  let e ← withIn (rec .expression)
  if ← eatStatementEnd then nodeFrom lo .expression [e]
  else
    let t := (← get).token
    if (operatorOf t true).isSome && !t.isAnyWord then
      note .semicolonExpected
      let e ← operatorsFor rec (← get).limit 0 e
      nodeFrom lo .expression [e]
    else fail .statementEndExpected

/-- A statement or a declaration whose decorators were read. -/
def statementAfter (rec : Grammar) (marks : List Node) (allowed : Bool) : Parser Node := do
  let t := (← get).token
  let lo := t.lo
  let base := leftSide rec (← get).limit
  match ← typedDeclaration rec marks (← get).limit with
  | some d => pure d
  | none =>
    match t.lexeme with
    | .punct ";" =>
      step
      nodeFrom lo .empty []
    | .punct "\x7b" => rec .block
    | .word w false =>
      let next ← peek
      if t.isNameRef && next.isPunct ":" then labelledStatement rec
      else if w = "break" then jump true
      else if w = "continue" then jump false
      else if w = "debugger" then
        step
        expectStatementEnd
        nodeFrom lo .debugger []
      else if w = "do" then
        step
        let body ← loopBody rec
        expectWord "while"
        let test ← bracketedCondition rec
        let _ ← eat ";"
        nodeFrom lo .doWhile [body, test]
      else if w = "for" then forLoop rec
      else if w = "function" then
        if !allowed then note .declarationPlace
        functionFrom rec lo false true true
      else if w = "async" && next.isWord "function" && !next.afterLineEnd then
        step
        functionFrom rec lo true true true
      else if w = "class" then
        if !allowed then note .declarationPlace
        classFrom rec base lo false true true marks
      else if w = "if" then
        step
        let test ← bracketedCondition rec
        let yes ← rec (.statement false)
        let no ← if ← eatWord "else" then rec (.statement false) else pure .absent
        nodeFrom lo .ifThen [test, yes, no]
      else if w = "return" then
        step
        let value ← if ← atStatementEnd then pure .absent else withIn (rec .expression)
        expectStatementEnd
        if !(← setting).inFunction then noteAt lo .returnOutside
        nodeFrom lo .return [value]
      else if w = "switch" then switchStatement rec
      else if w = "throw" then
        step
        if (← get).token.afterLineEnd then fail .throwLineBreak
        let value ← withIn (rec .expression)
        expectStatementEnd
        nodeFrom lo .throw [value]
      else if w = "try" then tryStatement rec
      else if (← setting).typed && (w = "catch" || w = "finally") then strayHandler rec
      else if w = "while" then
        step
        let test ← bracketedCondition rec
        let body ← loopBody rec
        nodeFrom lo .whileLoop [test, body]
      else if w = "with" then
        if (← setting).typed then note .withStatement
        step
        let object ← bracketedCondition rec
        let body ← rec (.statement false)
        nodeFrom lo .with [object, body]
      else if w = "import" && (next.isPunct "(" || next.isPunct ".") then
        let e ← rec .expression
        let _ ← eatStatementEnd
        nodeFrom lo .expression [e]
      else if (w = "import" || w = "export") && (← setting).typed then fail .modulePlace
      else if w = "var" then declarations rec .variable false
      else if allowed && (w = "using" || w = "await") then
        match ← resources rec with
        | some d => pure d
        | none => expressionStatement rec
      else if allowed && w = "const" then declarations rec .constant false
      else if allowed && w = "let" && followsLet next then declarations rec .lexical false
      else expressionStatement rec
    | _ => expressionStatement rec

/-- A statement or a declaration; declarations may be barred. -/
def statement (rec : Grammar) (allowed : Bool) : Parser Node := do
  let marks ← decorators rec
  statementAfter rec marks allowed

end Script

end NotebookEngine
