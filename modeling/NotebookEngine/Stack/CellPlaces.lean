/-
**Errors in terms of cells.**

Errors are positioned in the program that was generated or compiled from a notebook.  Source maps take
those places back to cells, and what is shown never mentions a frame of the host.

Main definitions:

* `CellPlaces` — the maps of one run;
* `CellPlaces.frameLine`, `CellPlaces.trace` — a frame and a trace as lines of cells;
* `RawError`, `ShownError`, `CellPlaces.shown` — an error before and after.
-/

import NotebookEngine.Stack.Frame
import NotebookEngine.SourceMap.Basic
import NotebookEngine.Files.Path
import NotebookEngine.Diagnostic

set_option autoImplicit false

namespace NotebookEngine

/-- The maps that take places of one run's programs back to cells. -/
structure CellPlaces where
  /-- The name of the notebook file. -/
  file : String
  /-- From the generated program to cells. -/
  generated? : Option SourceMap
  /-- From the compiled program to cells. -/
  compiled? : Option SourceMap
  deriving Inhabited

/-- The parts of an error, any of which may be missing. -/
structure RawError where
  message? : Option String
  /-- A place in the generated program, as a compiler reports it. -/
  place? : Option FilePlace
  /-- A trace through the compiled program. -/
  stack? : Option String
  deriving DecidableEq, Inhabited

/-- An error as it is shown. -/
structure ShownError where
  /-- The message with the place or the trace in cells. -/
  display : String
  /-- The cell that the error is blamed on. -/
  cell? : Option String
  place? : Option String
  stack? : Option String
  deriving DecidableEq, Inhabited

namespace CellPlaces

/-! ### Names -/

/-- The name under which the compiled program runs. -/
def scriptName : String := "eval_script"

/-- The message when nothing better is known. -/
def fallback : String := "An error occurred."

/-- The functions at which a cell's own frames end. -/
def boundaries : List String := ["__cell", "__end", "__ember_run", "__ember_start"]

/-- The functions that stand for the cell itself. -/
def cellFunctions : List String := ["__sync", "wrapperFn", "<anonymous>"]

/-- Whether a frame is one of the host's around a cell. -/
def isBoundary (f : Frame) : Bool :=
  match f.function? with
  | some name => boundaries.contains name
  | none => false

/-- How a function is shown. -/
def functionTitle : Option String → String
  | none => "Code cell"
  | some name => if name.isEmpty ∨ cellFunctions.contains name then "Code cell" else name

/-- The last part of a file's path. -/
def baseName (file : String) : String :=
  match Path.fileName? file with
  | some name => String.ofList name
  | none => file

/-- Whether a file is the program of the run. -/
def isProgramFile (t : CellPlaces) (file : String) : Bool :=
  [t.file, programName, "in-memory-file.js", scriptName].contains (baseName file)

/-! ### Frames and traces -/

/-- A frame as a line of a cell. -/
def frameLine (f : Frame) (map? : Option SourceMap) : Option String := do
  let line ← f.line?
  let map ← map?
  let place ← map.mapLine line (f.column?.getD 0)
  return "at " ++ functionTitle f.function? ++ ", line " ++ toString place.line

/-- The frames before the first of the host's around a cell. -/
def ownFrames (fs : List Frame) : List Frame := fs.takeWhile fun f => !isBoundary f

/-- The lines of a trace that lie in cells. -/
def traceLines (t : CellPlaces) (stack : String) : List String :=
  ((ownFrames (Frame.ofTrace stack)).filter fun f => t.isProgramFile f.file).filterMap fun f =>
    frameLine f t.compiled?

/-- A trace in terms of cells. -/
def trace (t : CellPlaces) (stack : String) : String := "\n".intercalate (t.traceLines stack)

/-- The cell of the first frame that lies in the program. -/
def cellOfStack (t : CellPlaces) (map : SourceMap) (stack : String) : Option String := do
  let f ← (Frame.ofTrace stack).find? fun f => f.line?.isSome && t.isProgramFile f.file
  let line ← f.line?
  let place ← map.mapLine line (f.column?.getD 0)
  return place.cell

/-! ### Messages -/

/-- A message from the end of the program's name on. -/
def withoutFile (message : String) : String :=
  match Text.findPart programName.toList message.toList with
  | some (_, after) =>
    String.ofList (Text.dropBlanksRight (Text.dropBlanksLeft (after.dropWhile (· = ':'))))
  | none => message

/-- The text of a trace before its first frame line. -/
def headOfStack (stack : String) : String :=
  match Text.findPart "\n    at".toList stack.toList with
  | some (before, _) => Text.trim (String.ofList before)
  | none => Text.trim stack

/-- The text if it is not empty. -/
def nonempty (s : Option String) : Option String := s.filter fun s => !s.isEmpty

/-! ### Errors -/

/-- The place of an error that a trace states in its first line. -/
def placeOfStack (t : CellPlaces) (stack : String) : Option String :=
  if stack.startsWith (t.file ++ ":") then
    frameLine (Frame.ofLocator ((Text.linesOf stack).headD "").toList) t.compiled?
  else none

/-- The place of an error in terms of cells. -/
def placeLine (t : CellPlaces) (e : RawError) : Option String :=
  let reported := e.place?.bind fun p =>
    frameLine ⟨none, p.file, some p.line, some p.column⟩ t.generated?
  match reported with
  | some line => some line
  | none => e.stack?.bind t.placeOfStack

/-- The message of an error. -/
def messageOf (e : RawError) : String :=
  let stated := nonempty (e.message?.map withoutFile)
  let found := stated.or (e.stack?.map headOfStack)
  (nonempty found).getD fallback

/-- The cell that an error is blamed on: that of the compiler's place, else that of the trace, else the
one that was current. -/
def blame (t : CellPlaces) (current? : Option String) (e : RawError) : Option String :=
  let byPlace := do
    let p ← e.place?
    let map ← t.generated?
    return (← map.mapLine p.line p.column).cell
  let byStack := do t.cellOfStack (← t.compiled?) (← e.stack?)
  (byPlace.or byStack).or current?

/-- An error as it is shown. -/
def shown (t : CellPlaces) (current? : Option String) (e : RawError) : ShownError :=
  let place? := t.placeLine e
  let stack? := e.stack?.map t.trace
  let tail := match place?.or (nonempty stack?) with
    | some text => "\r\n" ++ text
    | none => ""
  ⟨messageOf e ++ tail, t.blame current? e, place?, stack?⟩

end CellPlaces

end NotebookEngine
