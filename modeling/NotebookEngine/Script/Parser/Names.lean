/-
**Names and keys.**

Main definitions:

* `Script.identifier` — a name that is referred to;
* `Script.bindingIdentifier` — a name that is declared;
* `Script.anyName` — a name after a point, which may be any word;
* `Script.key` — the key of a property;
* `Script.modifier?` — a word that says more about a member.
-/

import NotebookEngine.Script.Parser.State

set_option autoImplicit false

namespace NotebookEngine

namespace Script

/-! ### Names -/

/-- A name that is referred to; `await` and the words with a meaning of their own are refused, and those
that are only reserved in strict code are noted. -/
def identifier : Parser Node := do
  let t := (← get).token
  match t.lexeme with
  | .word w escaped =>
    step
    if strictWords.contains w || (!escaped && (w = "yield" || w = "let")) then
      noteAt t.lo (.reservedInStrict w)
    let c ← setting
    if w = "arguments" && c.typed && c.inField then noteAt t.lo .argumentsInField
    if w = "await" && !escaped then
      if !(← setting).ambient then failAt t.lo (.reservedInAsync w)
    else if keywords.contains w && !escaped &&
        !(w = "let" || w = "yield" || (w = "this" && (← setting).typed)) then
      failAt t.lo .identifierExpected
    nodeFrom t.lo (.name w) []
  | _ => fail .identifierExpected

/-- A name that is declared; `let` may be barred. -/
def bindingIdentifier (withoutLet : Bool) : Parser Node := do
  let t := (← get).token
  if withoutLet && t.isWord "let" then
    failUnexpected "let is reserved in const, let, class declaration"
  let n ← identifier
  if n.nameText = "eval" || n.nameText = "arguments" then noteAt t.lo .evalOrArguments
  pure n

/-- A name that may be any word. -/
def anyName : Parser Node := do
  let t := (← get).token
  match t.word? with
  | none => fail .identifierExpected
  | some w =>
    step
    nodeFrom t.lo (.name w) []

/-! ### Keys -/

/-- What a key must be. -/
def keyWanted : String :=
  "identifier, string literal, numeric literal or [ for the computed key"

/-- One more expression after a comma. -/
def commaItem (rec : Grammar) : Parser (Option Node) := do
  if ← eat "," then pure (some (← rec .assignment)) else pure none

/-- The key of a property, and whether it is computed. -/
def key (rec : Grammar) : Parser (Node × Bool) := do
  let t := (← get).token
  match t.lexeme with
  | .word w _ =>
    step
    pure (← nodeFrom t.lo (.name w) [], false)
  | .string v raw =>
    step
    pure (← nodeFrom t.lo (.string v raw) [], false)
  | .number v raw =>
    step
    pure (← nodeFrom t.lo (.number v raw) [], false)
  | .bigint v raw =>
    step
    pure (← nodeFrom t.lo (.bigint v raw) [], false)
  | .punct "[" =>
    step
    let lo ← here
    let e ← withIn (rec .assignment)
    let more ← if (← setting).typed then withIn (sequenceOf (commaItem rec)) else pure []
    if !more.isEmpty then noteAt lo .computedComma
    expect "]"
    pure (e, true)
  | _ => failUnexpected keyWanted

/-- A name that is private to a class. -/
def privateName : Parser Node := do
  let lo ← here
  step
  if (← here) ≠ lo + 1 then failAt lo .privateSpace
  let n ← anyName
  nodeFrom lo (.privateName n.nameText) []

/-- The key of a member of a class, and whether it is computed. -/
def memberKey (rec : Grammar) : Parser (Node × Bool) := do
  if ← at? "#" then
    let n ← privateName
    if (← setting).typed && n.form = .privateName "constructor" then
      noteAt n.start .privateConstructor
    pure (n, false)
  else key rec

/-! ### Modifiers -/

/-- Whether a token may follow a modifier. -/
def followsModifier (t : Token) : Bool :=
  !t.afterLineEnd &&
    match t.lexeme with
    | .word _ _ | .string _ _ | .number _ _ | .bigint _ _ => true
    | .punct p => ["[", "\x7b", "*", "...", "#"].contains p
    | _ => false

/-- Goes over a modifier, one of the words, and gives it. -/
def modifier? (words : List String) (beforeBlock : Bool) : Parser (Option String) := do
  if !(← setting).typed then pure none
  else
    let t := (← get).token
    match t.word? with
    | none => if t.isFinish then fail .unexpectedEnd else pure none
    | some w =>
      if !words.contains w then pure none
      else
        let next ← peek
        if beforeBlock && w = "static" && next.isPunct "\x7b" then pure none
        else if followsModifier next then step; pure (some w)
        else pure none

/-- Goes over a word that makes a parameter a field. -/
def fieldModifier : Parser Bool := do
  let t := (← get).token
  let next ← peek
  if (← setting).typed && (["public", "protected", "private", "readonly"].any t.isWord) &&
      (next.isAnyWord || next.isPunct "\x7b" || next.isPunct "[") then
    step
    pure true
  else pure false

end Script

end NotebookEngine
