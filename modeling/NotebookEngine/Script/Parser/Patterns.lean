/-
**Patterns and parameters.**

Main definitions:

* `Script.bindingPattern` — a name, or a pattern that takes a value apart;
* `Script.bindingElement` — a pattern with a value by default;
* `Script.parameters` — the parameters of a function;
* `Script.decorators` — expressions marked with an at sign.
-/

import NotebookEngine.Script.Parser.Angles

set_option autoImplicit false

namespace NotebookEngine

namespace Script

/-! ### Types of names -/

/-- Goes over a type after a colon, if there is one. -/
def annotation (rec : Grammar) : Parser Bool := do
  if (← setting).typed && (← at? ":") then
    step
    let _ ← within (fun c => { c with plainTypes := false }) (rec .typeExpr)
    pure true
  else pure false

/-! ### Patterns -/

/-- What a pattern must be. -/
def patternWanted : String := "yield, an identifier, [ or \x7b"

/-- A pattern, and a value by default. -/
def bindingElement (rec : Grammar) : Parser Node := do
  let lo ← here
  let left ← rec .pattern
  if ← eat "=" then
    let right ← withIn (rec .assignment)
    nodeFrom lo .defaulted [left, right]
  else pure left

/-- A pattern for the rest of a list. -/
def restElement (rec : Grammar) : Parser Node := do
  let lo ← here
  step
  let p ← rec .pattern
  nodeFrom lo .rest [p]

/-- Whether the node is a rest that does not go by a name. -/
def isNamelessRest (n : Node) : Bool :=
  n.form = .rest &&
    match (n.part 0).form with
    | .name _ => false
    | _ => true

/-- Notes every rest that is not the last of the nodes. -/
def noteEarlyRests : List Node → Parser Unit
  | [] => pure ()
  | [_] => pure ()
  | n :: ns => do
    if n.form = .rest || n.form = .spread then noteAt n.start .lastRest
    noteEarlyRests ns

/-- The elements of an array pattern. -/
def arrayPatternItem (rec : Grammar) : Parser (Option Node) := do
  if ← at? "]" then pure none
  else if ← eat "," then pure (some .absent)
  else
    let isRest ← at? "..."
    let item ← if isRest then restElement rec else bindingElement rec
    if !(← at? "]") then
      expect ","
      if isRest && (← at? "]") then noteAt (← get).before.lo .commaAfterRest
    pure (some item)

/-- The properties of an object pattern. -/
def objectPatternItem (rec : Grammar) : Parser (Option Node) := do
  if ← at? "\x7d" then pure none
  else
    let lo ← here
    let item ← do
      if ← at? "..." then restElement rec
      else
        let (k, computed) ← key rec
        if ← eat ":" then
          let v ← bindingElement rec
          nodeFrom lo (.patternProperty computed) [k, v]
        else
          match k.form with
          | .name w =>
            if computed then failUnexpected "an identifier"
            else if ← eat "=" then
              let v ← withIn (rec .assignment)
              nodeFrom lo .shorthandPattern [k, v]
            else
              if keywords.contains w && !(← setting).typed then noteAt lo .reservedShorthand
              nodeFrom lo .shorthandPattern [k, .absent]
          | _ => failUnexpected "an identifier"
    if !(← at? "\x7d") then
      expect ","
      if item.form = .rest && (← at? "\x7d") then noteAt (← get).before.lo .commaAfterRest
    pure (some item)

/-- A name or a pattern that takes a value apart. -/
def bindingPattern (rec : Grammar) (withoutLet : Bool) : Parser Node := do
  let t := (← get).token
  match t.lexeme with
  | .word _ _ => bindingIdentifier withoutLet
  | .punct "[" =>
    step
    let items ← sequenceOf (arrayPatternItem rec)
    expect "]"
    noteEarlyRests items
    nodeFrom t.lo .arrayPattern items
  | .punct "\x7b" =>
    step
    let items ← sequenceOf (objectPatternItem rec)
    expect "\x7d"
    noteEarlyRests items
    match items.getLast? with
    | some last => if isNamelessRest last then failAt last.start .restName
    | none => pure ()
    nodeFrom t.lo .objectPattern items
  | _ => failUnexpected patternWanted

/-! ### Arguments and decorators -/

/-- Items with commas between them, up to a closing mark. -/
def listItem (close : String) (item : Parser Node) : Parser (Option Node) := do
  if ← at? close then pure none
  else
    let n ← item
    if !(← at? close) then expect ","
    pure (some n)

/-- An expression, or one whose items are spread. -/
def spreadable (rec : Grammar) : Parser Node := do
  let lo ← here
  if ← eat "..." then
    let e ← withIn (rec .assignment)
    nodeFrom lo .spread [e]
  else withIn (rec .assignment)

/-- The arguments of a call in brackets. -/
def arguments (rec : Grammar) : Parser (List Node) := do
  expect "("
  let items ← within (fun c => { c with colonEnds := false })
    (sequenceOf (listItem ")" (spreadable rec)))
  expect ")"
  pure items

/-- The names of a decorator after the first. -/
def decoratorStep (lo : Nat) (n : Node) : Parser (Option Node) := do
  if ← eat "." then
    let p ← anyName
    pure (some (← nodeFrom lo (.member p.nameText p.span false) [n]))
  else pure none

/-- An expression marked with an at sign. -/
def decorator (rec : Grammar) : Parser (Option Node) := do
  if !(← at? "@") then pure none
  else
    step
    let lo ← here
    let e ← do
      if ← eat "(" then
        let e ← withIn (rec .expression)
        expect ")"
        pure e
      else extend (decoratorStep lo) (← identifier)
    let isGeneric := (← setting).typed && (← at? "<")
    if isGeneric then typeArguments rec
    if isGeneric || (← at? "(") then
      let args ← arguments rec
      pure (some (← nodeFrom lo (.call false) (e :: args)))
    else pure (some e)

/-- Expressions marked with an at sign. -/
def decorators (rec : Grammar) : Parser (List Node) := sequenceOf (decorator rec)

/-! ### Parameters -/

/-- A parameter that is not for the rest of the arguments. -/
def plainParameter (rec : Grammar) : Parser Node := do
  let lo ← here
  let modified ← fieldModifier
  let start ← here
  let left ← rec .pattern
  let optional ← if (← setting).typed then eat "?" else pure false
  let _ ← annotation rec
  let n ←
    if ← at? "=" then do
      if optional then noteAt left.start .optionalInitialized
      step
      let right ← withIn (rec .assignment)
      if (← setting).ambient then noteAt lo .ambientInitializer
      nodeFrom start .defaulted [left, right]
    else pure left
  if modified then noteAt lo .parameterFieldPlace
  pure n

/-- A parameter for the rest of the arguments. -/
def restParameter (rec : Grammar) : Parser Node := do
  let lo ← here
  step
  let p ← rec .pattern
  if ← at? "=" then
    step
    let _ ← withIn (rec .assignment)
    noteAt p.start .restInitialized
  let _ ← annotation rec
  let n ← nodeFrom lo .rest [p]
  if (← setting).typed && (← at? "?") then
    note .restOptional
    step
  pure n

/-- A parameter of a constructor, which may also be a field. -/
def constructorParameter (rec : Grammar) : Parser Node := do
  let lo ← here
  let access ← modifier? ["public", "protected", "private"] false
  let override ← modifier? ["override"] false
  let readonly ← modifier? ["readonly"] false
  if access.isNone && override.isNone && readonly.isNone then plainParameter rec
  else
    let p ← plainParameter rec
    match p.form with
    | .name _ => nodeFrom lo .parameterField [p]
    | .defaulted =>
      match (p.part 0).form with
      | .name _ => nodeFrom lo .parameterField [p]
      | _ => failAt p.start .parameterFieldPattern
    | _ => failAt p.start .parameterFieldPattern

/-- A parameter and the comma after it; `one` parses a parameter that is not for the rest. -/
def parameterItem (rec : Grammar) (one : Parser Node) : Parser (Option Node) := do
  if ← at? ")" then pure none
  else
    let marks ← decorators rec
    let isRest ← at? "..."
    let p ← if isRest then restParameter rec else one
    if !(← at? ")") then
      expect ","
      if isRest then
        if ← at? ")" then noteAt (← get).before.lo .commaAfterRest
        else noteAt p.start .restNotLast
    if marks.isEmpty then pure (some p) else pure (some (.mk .decorated p.span (p :: marks)))

/-- The parameter without its decorators. -/
def bareParameter (p : Node) : Node :=
  match p.form with
  | .decorated => p.part 0
  | _ => p

/-- Whether a parameter is a name and nothing else. -/
def isSimpleParameter (p : Node) : Bool :=
  match (bareParameter p).form with
  | .name _ => true
  | _ => false

/-- Whether a parameter has a value by default. -/
def isDefaulted (p : Node) : Bool :=
  let p := bareParameter p
  match p.form with
  | .defaulted => true
  | .parameterField => (p.part 0).form = .defaulted
  | _ => false

/-- Whether the node is a parameter that gives the type of `this`. -/
def isThisParameter (n : Node) : Bool := n.form = .name "this"

/-- Parameters up to the closing bracket. -/
def parametersOf (rec : Grammar) (one : Parser Node) : Parser (List Node) := do
  let items ← sequenceOf (parameterItem rec one)
  pure (items.filter fun n => !isThisParameter n)

/-- The parameters of a function up to the closing bracket. -/
def parameters (rec : Grammar) : Parser (List Node) := parametersOf rec (plainParameter rec)

end Script

end NotebookEngine
