/-
**Problems found while a notebook is prepared and run.**

Main definitions:

* `Stage` — the stage of the work that a problem comes from;
* `FilePlace`, `Diagnostic` — a problem and where it was found;
* `programName` — the name of the program while it is compiled;
* `cleanMessage` — a compiler's message without excerpts and positions.
-/

import NotebookEngine.Text.Lines
import NotebookEngine.Text.Digits

set_option autoImplicit false

namespace NotebookEngine

/-! ### Stages -/

/-- The stages of the work on a notebook. -/
inductive Stage where
  | installation
  | compilation
  | setup
  | evaluation
  deriving DecidableEq, Inhabited

/-- How a stage is shown. -/
def Stage.title : Stage → String
  | .installation => "Module installation"
  | .compilation => "Compiler"
  | .setup => "Code setup"
  | .evaluation => "Code evaluation"

/-! ### Diagnostics -/

/-- A place in a file; the line counts from one, the column from zero. -/
structure FilePlace where
  file : String
  line : Nat
  column : Nat
  deriving DecidableEq, Inhabited

/-- A problem and where it was found. -/
structure Diagnostic where
  message : String
  place? : Option FilePlace
  stage : Stage
  deriving DecidableEq, Inhabited

/-- The name of the program while it is compiled. -/
def programName : String := "in-memory-file.ts"

/-! ### Messages -/

/-- What follows a pair of numbers in parentheses whose opening mark is consumed. -/
def positionMark (cs : List Char) : Option (List Char) :=
  match cs.dropWhile Text.isDecimalDigit with
  | ':' :: rest =>
    match rest.dropWhile Text.isDecimalDigit with
    | ')' :: after => some after
    | _ => none
  | _ => none

/-- The text before the last pair of numbers in parentheses. -/
def beforePosition : List Char → Option (List Char)
  | [] => none
  | c :: cs =>
    match beforePosition cs with
    | some before => some (c :: before)
    | none => if c = '(' ∧ (positionMark cs).isSome then some [] else none

/-- A compiler's message: the lines before the first empty one, cut down to what precedes the position
on the first line that has one. -/
def cleanMessage (raw : String) : String :=
  let lines := (Text.pieces '\n' raw.toList).takeWhile fun l => !l.isEmpty
  match lines.findSome? beforePosition with
  | some before => String.ofList before
  | none => String.ofList (['\n'].intercalate lines)

end NotebookEngine
