/-
**Parsing programs.**

The grammar's phrases contain one another, so each is parsed by a function that is given the parsers of
the phrases within it.  The knot is tied on a bound of the depth to which phrases are nested; a phrase
within a phrase takes up text or comes later in a short list of kinds, so a bound that is a multiple of
the text's length is never met.

Main definitions:

* `Script.grammar` — the parsers of all kinds of phrases;
* `Script.parseModule` — a text as a module that may contain types;
* `Script.parseScript` — a text as the body of a function or a script.
-/

import NotebookEngine.Script.Parser.Modules

set_option autoImplicit false

namespace NotebookEngine

namespace Script

/-- The parsers of all kinds of phrases, nested no deeper than `n`. -/
def grammar : Nat → Grammar
  | 0, _ => fail .expressionExpected
  | n + 1, goal =>
    let inner : Grammar := grammar n
    match goal with
    | .statement allowed => statement inner allowed
    | .moduleItem => moduleItem inner
    | .block => block inner
    | .expression => expression inner
    | .assignment => assignment inner
    | .unary => unaryExpression inner
    | .pattern => bindingPattern inner false
    | .typeExpr => typeExpr inner

/-- The state at the start of a text. -/
def State.start (text : List Char) (setting : Setting) : State :=
  let token := lex text 0
  { token
    before := ⟨0, 0⟩
    setting
    labels := []
    commas := []
    arrowStart := none
    quiet := false
    issues := token.issues.reverse
    limit := text.length + 8 }

/-- The line of a text that says how to run it, and the text after it. -/
def splitShebang (text : List Char) : Option String × Nat × List Char :=
  match text with
  | '#' :: '!' :: rest =>
    let line := rest.takeWhile fun c => !isLineEnd c
    (some (String.ofList line), line.length + 2, rest.drop line.length)
  | _ => (none, 0, text)

/-- Items up to the end of the text. -/
def itemsToEnd (rec : Grammar) (goal : Goal) : Parser (Option Node) := do
  if ← atFinish then pure none else pure (some (← rec goal))

/-- What parsing a text gave: the program, or the fault that kept the parser from going on; and the
faults that were noted, the first first. -/
structure Parsed where
  program : Except Problem Node
  issues : List Problem

/-- Parses a text as items of a kind. -/
def parseItems (text : List Char) (setting : Setting) (goal : Goal) : Parsed :=
  let (shebang, place, rest) := splitShebang text
  let token := lex rest place
  let start : State := { State.start text setting with token, issues := token.issues.reverse }
  let action : Parser Node := do
    let items ← sequenceOf (itemsToEnd (grammar (8 * text.length + 64)) goal)
    let lo := if shebang.isSome then 0 else token.lo
    pure (.mk (.program shebang) ⟨lo + 1, text.length + 1⟩ items)
  match action start with
  | .ok n s => ⟨.ok n, s.issues.reverse⟩
  | .error e s => ⟨.error e, s.issues.reverse⟩

/-- Parses a text as a module that may contain types. -/
def parseModule (text : String) : Parsed :=
  parseItems text.toList (Setting.module true) .moduleItem

/-- The program of a parsed text, or its first fault: the one that kept the parser from going on, or
else the first that was noted. -/
def Parsed.result (p : Parsed) : Except Problem Node :=
  match p.program, p.issues with
  | .error e, _ => .error e
  | .ok _, e :: _ => .error e
  | .ok n, [] => .ok n

end Script

end NotebookEngine
