/-
**Compiling programs.**

A program with types and imports becomes a text that the engine can run, and a map that leads from the
places of that text to those of the program.

Main definitions:

* `Program.Compiled` — what compiling gives;
* `Program.compile` — compiles a program;
* `Program.Compiler` — a way of compiling.
-/

import NotebookEngine.Diagnostic
import NotebookEngine.Files.Path
import NotebookEngine.Script.Erasure
import NotebookEngine.Script.Parser
import NotebookEngine.Script.Printer
import NotebookEngine.SourceMap.Basic

set_option autoImplicit false

namespace NotebookEngine

namespace Program

/-! ### Places -/

/-- The lines and columns of the characters and of the end of a text that starts at a place, after those
of what comes before it. A carriage return by itself ends a line too. -/
def placesFrom (line column : Nat) (places : Array (Nat × Nat)) :
    List Char → Array (Nat × Nat)
  | [] => places.push (line, column)
  | c :: cs =>
    let places := places.push (line, column)
    if c = '\n' || (c = '\r' && cs.head? ≠ some '\n') then placesFrom (line + 1) 0 places cs
    else placesFrom line (column + 1) places cs

/-- The line and the column of every character and of the end of a text, counted from zero. -/
def placesOf (text : String) : Array (Nat × Nat) := placesFrom 0 0 #[] text.toList

/-- The place of a character, that of the end of the text for one beyond it. -/
def placeIn (places : Array (Nat × Nat)) (i : Nat) : Nat × Nat :=
  places[i]?.getD (places[places.size - 1]?.getD (0, 0))

/-! ### Compiling -/

/-- What compiling a program gave. -/
structure Compiled where
  text? : Option String
  map? : Option SourceMap
  diagnostics : List Diagnostic

/-- A way of compiling programs of a project. -/
abbrev Compiler := String → String → Compiled

/-- The diagnostic of a fault. -/
def faultDiagnostic (project : String) (places : Array (Nat × Nat)) (p : Script.Problem) :
    Diagnostic :=
  let (line, column) := placeIn places p.place
  let raw := Path.join project programName ++ ": " ++ p.complaint.message ++ " (" ++
    toString (line + 1) ++ ":" ++ toString column ++ ")"
  ⟨cleanMessage raw, some ⟨programName, line + 1, column⟩, .compilation⟩

/-- The entry of a source map that a mark becomes. -/
def entryOf (places : Array (Nat × Nat)) (m : Script.Mark) : SourceMap.Entry :=
  let (line, column) := placeIn places (m.place - 1)
  ⟨m.line, m.column, line, column, some programName⟩

/-- A program as the engine runs it. -/
def lower (program : Script.Node) : Script.Node :=
  Script.trackAwaits (Script.captureLocals (Script.erase (Script.lowerImports program)))

/-- Compiles a program of a project. -/
def compile : Compiler := fun code project =>
  let places := placesOf code
  match (Script.parseModule code).result with
  | .error p => ⟨none, none, [faultDiagnostic project places p]⟩
  | .ok program =>
    let (text, marks) := Script.printProgram (lower program)
    ⟨some text, some (SourceMap.ofEntries (marks.map (entryOf places))), []⟩

end Program

end NotebookEngine
