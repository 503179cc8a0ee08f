/-
**Variables of cells.**

The variables that a cell declares at its outermost level are seen by the cells after it.

Main definitions:

* `Program.declaredLocals` — the names of the variables that a cell declares.
-/

import NotebookEngine.Script.Lowering
import NotebookEngine.Script.Parser

set_option autoImplicit false

namespace NotebookEngine

namespace Program

/-- The statements of a cell, which runs as the body of an asynchronous function; faults that do not keep
the parser from going on are passed over. -/
def cellStatements (body : String) : List Script.Node :=
  match (Script.parseModule ("(async () => \x7b\n" ++ body ++ "\n\x7d);")).program with
  | .error _ => []
  | .ok program =>
    let first := program.part 0
    let arrow := (first.part 0).part 0
    match first.form, (first.part 0).form, arrow.form, (arrow.part 0).form with
    | .expression, .paren, .arrow _, .block => (arrow.part 0).parts
    | _, _, _, _ => []

/-- The identifiers that a statement binds as variables, also those that are only declared. -/
def statementNames (s : Script.Node) : List Script.Node :=
  match s.form with
  | .ambient => Script.declaredNames (s.part 0)
  | _ => Script.declaredNames s

/-- The names of the variables that a cell declares, each once, in order. -/
def declaredLocals (body : String) : List String :=
  (((cellStatements body).flatMap statementNames).map Script.Node.nameText).eraseDups

end Program

end NotebookEngine
