/-
**Programs from cells.**

The cells of a notebook become one program.  To be evaluated, each cell runs in a function of its own
within that of the cell before, so that it sees that cell's variables; to be exported, the cells follow
one another.  Imports go to the start of the program and leave an empty line behind, so that the lines of
a cell keep their numbers.

Main definitions:

* `Program.Generated` — a program and the maps from its places to the cells;
* `Program.generate` — the program of some cells;
* `Program.build` — the program of some cells as the engine runs it.
-/

import NotebookEngine.Document.Notebook
import NotebookEngine.Failure
import NotebookEngine.Json.Printer
import NotebookEngine.Package.Specifier
import NotebookEngine.Program.Compile
import NotebookEngine.Program.Locals
import NotebookEngine.Text.Blank

set_option autoImplicit false

namespace NotebookEngine

namespace Program

/-! ### Texts -/

/-- What ends the lines of a program. -/
def lineEnd : String := "\r\n"

/-- Lines, each ended. -/
def endLines (lines : List String) : String := String.join (lines.map (· ++ lineEnd))

/-- What a program to be evaluated starts with. -/
def evaluationHead : String := endLines ["const wrapperFn = (async function () \x7b"]

/-- What a program to be evaluated ends with. -/
def evaluationTail : String := lineEnd ++ "\x7d)"

/-- What an exported program starts with. -/
def exportHead : String :=
  endLines
    ["function display() \x7b",
      "     for (const arg of arguments) \x7b",
      "          console.log(arg);",
      "     \x7d",
      "\x7d",
      "",
      "async function main() \x7b"]

/-- What an exported program ends with. -/
def exportTail : String :=
  endLines
    ["",
      "\x7d",
      "",
      "main()",
      "    .then(() => console.log(\"Done\"))",
      "    .catch(err => console.error(err && err.stack || err));"]

/-- What a compiled program is called with. -/
def injectedNames : List String :=
  ["require", "__filename", "__dirname", "display", "__cell", "__end", "__capture_locals",
    "__auto_display"]

/-- What a compiled program is put after. -/
def compiledHead : String :=
  "(async function (" ++ String.intercalate ", " injectedNames ++ ") \x7b "

/-- What a compiled program is put before. -/
def compiledTail : String := " await wrapperFn(); \x7d)"

/-! ### Bodies -/

/-- The text of a cell split into the imports to be moved and the lines that stay. -/
structure Body where
  hoisted : List String
  lines : List String

/-- The body of a cell: its lines without the blanks at their ends, imports moved. -/
def bodyOf (source : String) : Body :=
  let lines := (Text.splitOnChar '\n' source).map Text.trimRight
  ⟨lines.filter Specifier.isImportLine,
    lines.map fun l => if Specifier.isImportLine l then "" else l⟩

theorem length_lines_bodyOf (source : String) :
    (bodyOf source).lines.length = (Text.splitOnChar '\n' source).length := by
  simp [bodyOf]

/-! ### Programs -/

/-- What has been written of a program. -/
structure Draft where
  text : String
  /-- The number of line ends in the text, whatever its size; it does not wrap around at 32 bits. -/
  lines : Nat
  entries : List SourceMap.Entry
  /-- The variables that the cells so far declare. -/
  locals : List String

/-- Adds text to a program. -/
def Draft.add (d : Draft) (s : String) : Draft :=
  { d with text := d.text ++ s, lines := d.lines + s.toList.count '\n' }

/-- What a cell is opened with when it is evaluated. -/
def cellHead (index : Nat) (id : String) : String :=
  endLines ["__cell(" ++ toString index ++ ", " ++ Json.quote id ++ ", async () => \x7b"]

/-- The call that captures variables at the end of a cell. -/
def captureCall (index : Nat) (id : String) (names : List String) : String :=
  endLines ["__capture_locals(" ++ toString index ++ ", " ++ Json.quote id ++ ", () => (\x7b" ++
    String.intercalate ", " names ++ "\x7d));"]

/-- Adds the text of a cell and the entries that map its lines. -/
def Draft.addBody (d : Draft) (c : Cell) : Draft :=
  let entries := SourceMap.linesFrom (SourceMap.cellSource c.id) c.source d.lines 0
  { d with entries := d.entries ++ entries }.add
    (String.intercalate lineEnd (bodyOf c.source).lines ++ lineEnd)

/-- The variables declared so far and those that a cell adds. -/
def localsAfter (locals : List String) (c : Cell) : List String :=
  (locals ++ declaredLocals (String.intercalate "\n" (bodyOf c.source).lines)).eraseDups

/-- Adds a cell that is evaluated. -/
def Draft.addCell (d : Draft) (index : Nat) (c : Cell) : Draft :=
  let d := ((d.add (cellHead index c.id)).addBody c).add (captureCall index c.id d.locals)
  { d with locals := localsAfter d.locals c }

/-- Adds cells that are evaluated, numbered from `index` on. -/
def Draft.addCells (d : Draft) : Nat → List Cell → Draft
  | _, [] => d
  | index, c :: cs => (d.addCell index c).addCells (index + 1) cs

/-- The program of the code cells to be exported or evaluated, and its map. -/
def generate (cells : List Cell) (forExport : Bool) : String × SourceMap :=
  let cells := cells.filter Cell.isCode
  let imports := cells.flatMap fun c => (bodyOf c.source).hoisted
  let start : Draft := (Draft.mk "" 0 [] []).add (endLines imports)
  let d :=
    if forExport then ((cells.foldl Draft.addBody (start.add exportHead))).add exportTail
    else
      let d := (start.add evaluationHead).addCells 0 cells
      d.add (endLines ("__end();" :: cells.map fun _ => "\x7d);") ++ evaluationTail)
  (d.text, SourceMap.ofEntries d.entries)

/-- The program of the code cells outside of a notebook. -/
def exported (cells : List Cell) : String := (generate cells true).1

/-- A program as the engine runs it, the maps that lead back to the cells, the first of which ends there,
and what went wrong. -/
structure Generated where
  text? : Option String
  maps : List SourceMap
  diagnostics : List Diagnostic

/-- The map from the last places to the cells. -/
def Generated.finalMap? (g : Generated) : Option SourceMap :=
  match g.maps with
  | [] => none
  | first :: rest => some (rest.foldl SourceMap.merge first)

/-- The text of the program, or what kept it from being made. -/
def Generated.program (g : Generated) : Except Failure String :=
  match g.text? with
  | some t => .ok t
  | none =>
    .error <| .compilation <|
      match g.diagnostics with
      | [] => "no program was generated"
      | ds => String.intercalate "; " (ds.map Diagnostic.message)

/-- The program of the code cells as the engine runs it. -/
def build (compiler : Compiler) (cells : List Cell) (project : String) : Generated :=
  let (text, map) := generate cells false
  let c := compiler text project
  ⟨c.text?.map fun t => compiledHead ++ t ++ compiledTail, map :: c.map?.toList, c.diagnostics⟩

end Program

end NotebookEngine
