/-
**Names that a stretch of program declares.**

Which variables a function has, and which names a block has, can be told before it runs.

Main definitions:

* `Engine.variableNames` — the variables that belong to the function around a statement;
* `Engine.lexicalNames` — the names that a list of statements declares for itself;
* `Engine.functionStatements` — the functions that a list of statements declares;
* `Engine.codeOf` — a function with what can be told before it runs.
-/

import NotebookEngine.Engine.Value
import NotebookEngine.Script.Lowering

set_option autoImplicit false

namespace NotebookEngine

namespace Engine

open Script (Node Form FunctionMode)

/-! ### Variables of functions -/

/-- The names that a pattern binds. -/
def patternNames (p : Node) : List String := (Script.boundNames p).map Node.nameText

mutual

/-- The variables that belong to the function around a statement. -/
def variableNames : Node → List String
  | .mk form span parts =>
    match form with
    | .declare .variable => (Script.declaredNames (.mk form span parts)).map Node.nameText
    | .declare _ | .expression | .functionDecl _ | .classDecl | .return | .throw => []
    | .function _ | .arrow _ | .method _ _ _ _ | .field _ _ | .object | .array | .call _ | .assign _
    | .name _ | .paren | .template _ _ => []
    | .class => []
    | _ => variableNamesIn parts

/-- The variables that belong to the function around statements. -/
def variableNamesIn : List Node → List String
  | [] => []
  | n :: ns => variableNames n ++ variableNamesIn ns

end

/-! ### Names of blocks -/

/-- A statement without its labels. -/
def withoutLabels : Node → Node
  | .mk (.labelled _ _) _ [n] => withoutLabels n
  | n => n

/-- The names that statements declare for their own block, functions left out. -/
def lexicalNames (ns : List Node) : List (String × BindingKind) :=
  ns.flatMap fun n =>
    match n.form with
    | .declare .lexical => (Script.declaredNames n).map fun m => (m.nameText, BindingKind.variable)
    | .declare .constant => (Script.declaredNames n).map fun m => (m.nameText, BindingKind.constant)
    | .classDecl => [((n.part 0).nameText, BindingKind.variable)]
    | _ => []

/-- The functions that statements declare. -/
def functionStatements (ns : List Node) : List Node :=
  (ns.map withoutLabels).filter fun n =>
    match n.form with
    | .functionDecl _ => true
    | _ => false

/-! ### Functions -/

/-- The words at the start of a body that say how it is meant. -/
def directives (ns : List Node) : List String :=
  (ns.takeWhile fun n =>
    match n.form, (n.part 0).form with
    | .expression, .string _ _ => true
    | _, _ => false).filterMap fun n =>
      match (n.part 0).form with
      | .string _ raw => some raw
      | _ => none

/-- Whether a body asks to be strict. -/
def asksStrict (body : Node) : Bool :=
  body.form = .block && (directives body.parts).any fun d => d = "'use strict'" || d = "\"use strict\""

/-- Whether parameters assign something when they get their values: such parameters have variables of
their own, apart from those of the body. -/
def assignsInParameters (ps : List Node) : Bool :=
  !ps.all fun p => p.all fun n =>
    match n.form with
    | .defaulted | .assign _ => false
    | .shorthandPattern => (n.part 1).isAbsent
    | _ => true

/-- A function with what can be told before it runs. -/
def codeOf (parameters : List Node) (body : Node) (mode : FunctionMode) (role : Role) (strict : Bool)
    (span : Script.Span) (start : Place) : Code :=
  { parameters, body, mode, role, span, start
    strict := strict || asksStrict body
    copies := assignsInParameters parameters
    hoisted := if body.form = .block then (variableNamesIn body.parts).eraseDups else [] }

/-- The number of arguments that a function expects. -/
def parameterCount (ps : List Node) : Nat :=
  (ps.takeWhile fun p =>
    match p.form with
    | .defaulted | .rest => false
    | _ => true).length

end Engine

end NotebookEngine
