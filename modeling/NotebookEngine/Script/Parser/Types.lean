/-
**Types.**

A type has no effect on what a program does, so the parsers of this module only go over it.

Main definitions:

* `Script.typeExpr` — a type;
* `Script.resultType` — the type of a function's result after a colon;
* `Script.objectType` — the members of an object type.
-/

import NotebookEngine.Script.Parser.Patterns

set_option autoImplicit false

namespace NotebookEngine

namespace Script

/-! ### Functions -/

/-- A type, or what a function says about its argument. -/
def predicateOrType (rec : Grammar) : Parser Unit := do
  let t := (← get).token
  let next ← peek
  if t.isWord "asserts" && next.isAnyWord && !next.afterLineEnd &&
      !(next.isWord "is" || next.isWord "extends") then
    step
    step
    if ← eatWord "is" then innerType rec
  else if t.isAnyWord && next.isWord "is" && !next.afterLineEnd then
    step
    step
    innerType rec
  else innerType rec

/-- The type of a function's result, if it is there. -/
def resultType (rec : Grammar) : Parser Unit := do
  if (← setting).typed && (← at? ":") then
    step
    predicateOrType rec

/-- What a parameter of a signature must be. -/
def signatureWanted : String :=
  "an identifier, [ for an array pattern, \x7b for an object patter or ... for a rest pattern"

/-- Parameters in brackets. -/
def bracketParameters (rec : Grammar) : Parser Unit := do
  expect "("
  let params ← parameters rec
  if params.any isDefaulted then failUnexpected signatureWanted
  expect ")"

/-- The type of a function from its type parameters on. -/
def functionType (rec : Grammar) : Parser Unit := do
  typeParameters rec .ofFunction
  bracketParameters rec
  expect "=>"
  predicateOrType rec

/-- Whether the type of a function starts at the bracket. -/
def startsFunctionType (rec : Grammar) : Parser Bool :=
  lookAhead do
    step
    if (← at? ")") || (← at? "...") then pure true
    else
      let _ ← fieldModifier
      let t := (← get).token
      if t.isAnyWord then step
      else
        let _ ← bindingPattern rec false
      let u := (← get).token
      if [":", ",", "?", "="].any u.isPunct then pure true
      else if u.isPunct ")" then
        step
        at? "=>"
      else pure false

/-! ### Object types -/

/-- Whether an index signature starts at the bracket. -/
def startsIndexSignature : Parser Bool :=
  lookAhead do
    step
    if (← get).token.isAnyWord then
      step
      at? ":"
    else pure false

/-- The key and the type of an index signature, from its bracket on. -/
def indexSignature (rec : Grammar) : Parser Unit := do
  expect "["
  let _ ← identifier
  let _ ← annotation rec
  expect "]"
  let _ ← annotation rec

/-- The end of a member of an object type. -/
def memberEnd : Parser Unit := do
  if !(← eat ",") then expectStatementEnd

/-- A signature from its type parameters on. -/
def signature (rec : Grammar) : Parser Unit := do
  typeParameters rec .ofFunction
  bracketParameters rec
  resultType rec

/-- The key of a member of an object type. -/
def signatureKey (rec : Grammar) : Parser Unit := do
  let t := (← get).token
  match t.lexeme with
  | .word _ _ | .string _ _ | .number _ _ | .bigint _ _ =>
    let _ ← key rec
  | .punct "[" =>
    step
    let _ ← withIn (rec .assignment)
    expect "]"
  | .punct "#" =>
    let _ ← privateName
    noteAt t.lo .privateSignature
  | _ => fail .identifierExpected

/-- A member of an object type. -/
def objectTypeMember (rec : Grammar) : Parser (Option Unit) := do
  if ← at? "\x7d" then pure none
  else
    let t := (← get).token
    let next ← peek
    if t.isFinish then fail .unexpectedEnd
    else if t.isPunct "(" || t.isPunct "<" then signature rec
    else if t.isWord "new" && (next.isPunct "(" || next.isPunct "<") then
      step
      signature rec
    else
      let _ ← modifier? ["readonly"] false
      let bracket ← at? "["
      if bracket && (← startsIndexSignature) then indexSignature rec
      else
        let u := (← get).token
        let accessor := u.isWord "get" || u.isWord "set"
        signatureKey rec
        let after := (← get).token
        if accessor && followsModifier after then
          signatureKey rec
          signature rec
        else
          let _ ← eat "?"
          if (← at? "(") || (← at? "<") then signature rec
          else
            let _ ← annotation rec
            pure ()
    memberEnd
    pure (some ())

/-- The members of an object type. -/
def objectType (rec : Grammar) : Parser Unit := do
  expect "\x7b"
  let _ ← sequenceOf (objectTypeMember rec)
  expect "\x7d"

/-- Whether a type that maps keys starts at the brace. -/
def startsMappedType : Parser Bool :=
  lookAhead do
    step
    if (← eat "+") || (← eat "-") then atWord "readonly"
    else
      let _ ← eatWord "readonly"
      if ← eat "[" then
        if (← get).token.isAnyWord then
          step
          atWord "in"
        else pure false
      else pure false

/-- Goes over a sign before a word or mark. -/
def eatSign : Parser Unit := do
  if !(← eat "+") then
    let _ ← eat "-"

/-- A type that maps keys. -/
def mappedType (rec : Grammar) : Parser Unit := do
  expect "\x7b"
  eatSign
  let _ ← eatWord "readonly"
  expect "["
  let _ ← anyName
  expectWord "in"
  innerType rec
  if ← eatWord "as" then innerType rec
  expect "]"
  eatSign
  let _ ← eat "?"
  let _ ← annotation rec
  let _ ← eatStatementEnd
  expect "\x7d"

/-! ### Other types -/

/-- How an element of a tuple type is there. -/
inductive TupleElement where
  | required
  | optional
  /-- Any number of times. -/
  | rest
  deriving DecidableEq

/-- An element of a tuple type. -/
def tupleElement (rec : Grammar) : Parser TupleElement := do
  let isRest ← eat "..."
  let t := (← get).token
  let next ← peek
  let after := lex next.rest next.hi
  let named := t.isAnyWord && (next.isPunct ":" || (next.isPunct "?" && after.isPunct ":"))
  if named then
    step
    let _ ← eat "?"
    expect ":"
  innerType rec
  if isRest && !named then pure .rest
  else if ← eat "?" then pure .optional
  else pure .required

/-- An element of a tuple type and the comma after it. -/
def tupleItem (rec : Grammar) : Parser (Option TupleElement) := do
  if ← at? "]" then pure none
  else
    let e ← tupleElement rec
    if !(← at? "]") then expect ","
    pure (some e)

/-- A tuple type; no element that must be there follows one that need not be. -/
def tupleType (rec : Grammar) : Parser Unit := do
  let lo ← here
  step
  let items ← sequenceOf (tupleItem rec)
  expect "]"
  if (items.dropWhile (· ≠ .optional)).contains .required then failAt lo .tupleOrder

/-- A part of a name with points. -/
def entityStep (_ : Unit) : Parser (Option Unit) := do
  if ← eat "." then
    let _ ← anyName
    pure (some ())
  else pure none

/-- A name with points, and type arguments. -/
def typeReference (rec : Grammar) : Parser Unit := do
  let _ ← anyName
  extend entityStep ()
  if !(← get).token.afterLineEnd then typeArgumentsHere rec

/-- The source of an import within a type. -/
def importType (rec : Grammar) : Parser Unit := do
  step
  expect "("
  match (← get).token.lexeme with
  | .string _ _ => step
  | _ =>
    note .typeSource
    step
  if ← eat "," then
    let _ ← rec .assignment
    let _ ← eat ","
  expect ")"
  extend entityStep ()
  typeArgumentsHere rec

/-- A template type from a stretch of text on. -/
def templateTypeStep (rec : Grammar) (_ : Unit) : Parser (Option Unit) := do
  let t := (← get).token
  let part := lexTemplate (.ok []) [] 0 t.rest t.hi
  match part.ending with
  | .missing => failAt t.lo .unterminatedTemplate
  | .close =>
    stepPast part.place part.rest
    pure none
  | .value =>
    stepPast part.place part.rest
    innerType rec
    if !(← at? "\x7d") then fail (.expected "'\x7d'" (← get).token.lexeme.title)
    pure (some ())

/-- What a type must be. -/
def typeWanted : String :=
  "an identifier, void, yield, null, await, break, a string literal, a numeric literal, true, " ++
    "false, \x60, -, import, this, typeof, \x7b, [, ("

/-- The words that are types by themselves. -/
def typeWords : List String :=
  ["void", "null", "any", "boolean", "bigint", "never", "number", "object", "string", "symbol",
    "unknown", "undefined", "intrinsic"]

/-- A type without operators. -/
def simpleType (rec : Grammar) : Parser Unit := do
  let t := (← get).token
  match t.lexeme with
  | .finish => fail .unexpectedEnd
  | .string _ _ | .number _ _ | .bigint _ _ => step
  | .backtick => extend (templateTypeStep rec) ()
  | .word w _ =>
    let next ← peek
    if w = "true" || w = "false" then step
    else if w = "import" then importType rec
    else if w = "this" then
      step
      if !(← get).token.afterLineEnd && (← eatWord "is") then innerType rec
    else if w = "typeof" then
      step
      if ← atWord "import" then importType rec else typeReference rec
    else if w = "asserts" && next.isWord "this" then
      step
      step
      if ← eatWord "is" then innerType rec
    else if typeWords.contains w && !next.isPunct "." then step
    else if ["yield", "await", "break"].contains w || !isReserved w || strictWords.contains w then
      typeReference rec
    else failUnexpected typeWanted
  | .punct "-" =>
    step
    match (← get).token.lexeme with
    | .number _ _ | .bigint _ _ => step
    | _ => failUnexpected "numeric literal or bigint literal"
  | .punct "\x7b" => if ← startsMappedType then mappedType rec else objectType rec
  | .punct "[" => tupleType rec
  | .punct "(" =>
    step
    innerType rec
    expect ")"
  | _ => failUnexpected typeWanted

/-- An array of a type, or a part of it. -/
def arrayTypeStep (rec : Grammar) (_ : Unit) : Parser (Option Unit) := do
  if !(← get).token.afterLineEnd && (← eat "[") then
    if !(← eat "]") then
      innerType rec
      expect "]"
    pure (some ())
  else pure none

/-- The words that change the type after them. -/
def typeOperatorStep (_ : Unit) : Parser (Option Unit) := do
  let t := (← get).token
  if ["keyof", "unique", "readonly"].any t.isWord then step; pure (some ()) else pure none

/-- A type with the operators that bind tightest. -/
def operatorType (rec : Grammar) : Parser Unit := do
  extend typeOperatorStep ()
  if ← eatWord "infer" then
    let _ ← identifier
    let _ ← attempt do
      expectWord "extends"
      plainType rec
      if !(← setting).plainTypes && (← at? "?") then failUnexpected "fail"
  else
    simpleType rec
    extend (arrayTypeStep rec) ()

/-- Operands with an operator between them. -/
def operandStep (mark : String) (operand : Parser Unit) (_ : Unit) : Parser (Option Unit) := do
  if ← eat mark then
    operand
    pure (some ())
  else pure none

/-- Operands with an operator between them, which may also stand first. -/
def operands (mark : String) (operand : Parser Unit) : Parser Unit := do
  let _ ← eat mark
  operand
  extend (operandStep mark operand) ()

/-- A type that is not conditional. -/
def unconditionalType (rec : Grammar) : Parser Unit := do
  let t := (← get).token
  let next ← peek
  if t.isPunct "<" then functionType rec
  else if t.isPunct "(" && (← startsFunctionType rec) then functionType rec
  else if t.isWord "new" then
    step
    functionType rec
  else if t.isWord "abstract" && next.isWord "new" then
    step
    step
    functionType rec
  else operands "|" (operands "&" (operatorType rec))

/-- A type. -/
def typeExpr (rec : Grammar) : Parser Node := do
  unconditionalType rec
  if !(← setting).plainTypes && !(← get).token.afterLineEnd && (← eatWord "extends") then
    plainType rec
    expect "?"
    innerType rec
    expect ":"
    innerType rec
  pure .absent

end Script

end NotebookEngine
