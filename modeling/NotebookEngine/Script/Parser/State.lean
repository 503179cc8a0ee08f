/-
**The state of a parser.**

A parser holds the token it stands at, and everything it can say about where it is: whether `await` and
`return` have a meaning here, which labels are open, which faults were noted so far.  A fault that keeps
the parser from going on is an error; the state that it was met in survives it, so that a caller may go on
from there.

Main definitions:

* `Script.Setting` — where in a program the parser is;
* `Script.State`, `Script.Parser` — states and actions on them;
* `Script.Goal` — the kinds of phrases that phrases contain;
* `Script.attempt` — tries an action and takes it back if it fails;
* `Script.sequenceOf`, `Script.extend` — repetition.
-/

import NotebookEngine.Script.Lexer
import NotebookEngine.Script.Syntax

set_option autoImplicit false

namespace NotebookEngine

namespace Script

/-! ### States -/

/-- Where in a program a parser is. -/
structure Setting where
  /-- Types may be written. -/
  typed : Bool
  isAsync : Bool
  isGenerator : Bool
  inFunction : Bool
  /-- Among the parameters of a function. -/
  inParameters : Bool
  /-- In the value of a field, or in a block that makes a class ready. -/
  inField : Bool
  /-- `new.target` has a meaning. -/
  hasNewTarget : Bool
  breakable : Bool
  continuable : Bool
  /-- At the start of a loop; whether the loop awaits what it goes through. -/
  loopStart : Option Bool
  /-- The word `in` ends an expression. -/
  withoutIn : Bool
  /-- Only declared, not defined. -/
  ambient : Bool
  /-- Imports and exports may stand here. -/
  modular : Bool
  /-- Exports may stand here, in a namespace. -/
  exporting : Bool
  /-- The members of a class that extends another one. -/
  derived : Bool
  /-- A part of a conditional expression. -/
  inConditional : Bool
  /-- A colon ends the expression. -/
  colonEnds : Bool
  /-- A conditional type may not stand here without brackets. -/
  plainTypes : Bool
  deriving Inhabited

/-- The setting at the start of a module. -/
def Setting.module (typed : Bool) : Setting :=
  { typed, isAsync := false, isGenerator := false, inFunction := false, inParameters := false,
    inField := false, hasNewTarget := false,
    breakable := false, continuable := false, loopStart := none, withoutIn := false, ambient := false,
    modular := true,
    exporting := false, derived := false, inConditional := false, colonEnds := false,
    plainTypes := false }

/-- What a parser knows. -/
structure State where
  token : Token
  /-- The token before. -/
  before : Span
  setting : Setting
  labels : List String
  /-- The places where lists and objects start whose last item is followed by a comma, and the places of
  these commas. -/
  commas : List (Nat × Nat)
  /-- The place where an arrow function may start. -/
  arrowStart : Option Nat
  /-- Faults are not noted. -/
  quiet : Bool
  /-- The faults noted so far, the last first. -/
  issues : List Problem
  /-- More than the number of tokens. -/
  limit : Nat
  deriving Inhabited

/-- An action of a parser. -/
abbrev Parser := EStateM Problem State

/-- The kinds of phrases that occur within phrases. -/
inductive Goal where
  /-- A statement; declarations may be barred. -/
  | statement (declarations : Bool)
  /-- A statement, import or export. -/
  | moduleItem
  | block
  | expression
  | assignment
  | unary
  /-- A pattern of a declaration. -/
  | pattern
  | typeExpr
  deriving DecidableEq

/-- How phrases within phrases are parsed. -/
abbrev Grammar := Goal → Parser Node

/-! ### Faults -/

/-- Notes a fault at a place. -/
def noteAt (place : Nat) (complaint : Complaint) : Parser Unit :=
  modify fun s => if s.quiet then s else { s with issues := ⟨place, complaint⟩ :: s.issues }

/-- Notes a fault at the token. -/
def note (complaint : Complaint) : Parser Unit := do
  noteAt (← get).token.lo complaint

/-- Fails at a place; text that is no token is a fault of its own, unless a statement has to end. -/
def failAt {α : Type} (place : Nat) (complaint : Complaint) : Parser α := do
  match (← get).token.lexeme with
  | .bad problem => throw (if complaint = .statementEndExpected then ⟨place, complaint⟩ else problem)
  | _ => throw ⟨place, complaint⟩

/-- Fails at the token. -/
def fail {α : Type} (complaint : Complaint) : Parser α := do
  failAt (← get).token.lo complaint

/-- Fails because the token is none of what may stand here. -/
def failUnexpected {α : Type} (wanted : String) : Parser α := do
  fail (.unexpected (← get).token.lexeme.title wanted)

/-! ### Tokens -/

/-- Goes on to a token that was read. -/
def stepTo (token : Token) : Parser Unit :=
  modify fun s =>
    { s with
      token
      before := ⟨s.token.lo, s.token.hi⟩
      issues := if s.quiet then s.issues else token.issues.reverse ++ s.issues }

/-- Goes on to the next token. -/
def step : Parser Unit := do
  let t := (← get).token
  stepTo (lex t.rest t.hi)

/-- The token after this one. -/
def peek : Parser Token := do
  let t := (← get).token
  pure (lex t.rest t.hi)

/-- Goes on to what comes after a place that was reached while the token was looked at. -/
def stepPast (place : Nat) (rest : List Char) : Parser Unit := do
  modify fun s => { s with token := { s.token with hi := place, rest } }
  step

/-- Reads the token again, from another token's start. -/
def rescan (token : Token) : Parser Unit :=
  modify fun s =>
    { s with
      token := { token with afterLineEnd := s.token.afterLineEnd }
      issues := if s.quiet then s.issues else token.issues.reverse ++ s.issues }

/-- The place where the token starts. -/
def here : Parser Nat := do pure (← get).token.lo

/-- Whether the token is the mark. -/
def at? (mark : String) : Parser Bool := do pure ((← get).token.isPunct mark)

/-- Whether the token is the word. -/
def atWord (word : String) : Parser Bool := do pure ((← get).token.isWord word)

/-- Whether the text is at its end. -/
def atFinish : Parser Bool := do pure (← get).token.isFinish

/-- Goes over the mark if the token is it. -/
def eat (mark : String) : Parser Bool := do
  if ← at? mark then step; pure true else pure false

/-- Goes over the word if the token is it. -/
def eatWord (word : String) : Parser Bool := do
  if ← atWord word then step; pure true else pure false

/-- Goes over the mark, which must be there. -/
def expect (mark : String) : Parser Unit := do
  if !(← eat mark) then fail (.expected ("'" ++ mark ++ "'") (← get).token.lexeme.title)

/-- Goes over the word, which must be there. -/
def expectWord (word : String) : Parser Unit := do
  if !(← eatWord word) then fail (.expected ("'" ++ word ++ "'") (← get).token.lexeme.title)

/-- Whether a statement may end here. -/
def atStatementEnd : Parser Bool := do
  let t := (← get).token
  pure (t.isPunct ";" || t.isPunct "\x7d" || t.isFinish || t.afterLineEnd)

/-- Goes over the end of a statement if there is one. -/
def eatStatementEnd : Parser Bool := do
  if ← at? ";" then step; pure true else atStatementEnd

/-- Goes over the end of a statement, which must be there. -/
def expectStatementEnd : Parser Unit := do
  if !(← eatStatementEnd) then fail (.expected "';'" (← get).token.lexeme.title)

/-! ### Spans -/

/-- The span from a place to the end of the token before. -/
def spanFrom (lo : Nat) : Parser Span := do pure ⟨lo + 1, (← get).before.hi + 1⟩

/-- A node that starts at a place and ends before the token. -/
def nodeFrom (lo : Nat) (form : Form) (parts : List Node) : Parser Node := do
  pure (.mk form (← spanFrom lo) parts)

/-- The place where a node starts. -/
def Node.start (n : Node) : Nat := n.span.lo - 1

/-! ### Settings -/

/-- Runs an action in another setting. -/
def within {α : Type} (change : Setting → Setting) (p : Parser α) : Parser α := fun s =>
  match p { s with setting := change s.setting } with
  | .ok a t => .ok a { t with setting := s.setting }
  | .error e t => .error e { t with setting := s.setting }

/-- Runs an action with other labels open. -/
def withLabels {α : Type} (labels : List String) (p : Parser α) : Parser α := fun s =>
  match p { s with labels } with
  | .ok a t => .ok a { t with labels := s.labels }
  | .error e t => .error e { t with labels := s.labels }

/-- The setting. -/
def setting : Parser Setting := do pure (← get).setting

/-- Runs an action where `in` is an operator. -/
def withIn {α : Type} (p : Parser α) : Parser α :=
  within (fun c => { c with withoutIn := false }) p

/-! ### Choice and repetition -/

/-- Tries an action; if it fails, nothing has happened. Faults are not noted meanwhile. -/
def attempt {α : Type} (p : Parser α) : Parser (Option α) := fun s =>
  match p { s with quiet := true } with
  | .ok a t => .ok (some a) { t with quiet := s.quiet }
  | .error _ _ => .ok none s

/-- The answer of an action that looks ahead; nothing has happened afterwards. -/
def lookAhead (p : Parser Bool) : Parser Bool := fun s =>
  match p { s with quiet := true } with
  | .ok a _ => .ok a s
  | .error _ _ => .ok false s

/-- Runs an action until it gives nothing, at most `n` times. -/
def repeatFor {α : Type} (p : Parser (Option α)) : Nat → Parser (List α)
  | 0 => pure []
  | n + 1 => do
    match ← p with
    | none => pure []
    | some a =>
      let rest ← repeatFor p n
      pure (a :: rest)

/-- Runs an action until it gives nothing. -/
def sequenceOf {α : Type} (p : Parser (Option α)) : Parser (List α) := do
  repeatFor p (← get).limit

/-- Extends a value as long as an action does, at most `n` times. -/
def extendFor {α : Type} (p : α → Parser (Option α)) : Nat → α → Parser α
  | 0, a => pure a
  | n + 1, a => do
    match ← p a with
    | none => pure a
    | some b => extendFor p n b

/-- Extends a value as long as an action does. -/
def extend {α : Type} (p : α → Parser (Option α)) (a : α) : Parser α := do
  extendFor p (← get).limit a

end Script

end NotebookEngine
