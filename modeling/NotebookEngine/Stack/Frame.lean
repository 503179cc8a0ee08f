/-
**Frames of a stack trace.**

A frame line starts with `at` and names a place, or a function with its place in parentheses:

    at run (eval_script:4:58)
    at notes.notebook:17:5
    at <anonymous>

Main definitions:

* `Frame` — a frame;
* `Frame.ofLocator` — a place written as a path, a line and a column;
* `Frame.ofTrace` — the frames of a trace; other lines are skipped.
-/

import NotebookEngine.Text.Blank
import NotebookEngine.Text.Lines
import NotebookEngine.Text.Digits

set_option autoImplicit false

namespace NotebookEngine

/-- One frame of a stack trace. -/
structure Frame where
  function? : Option String
  file : String
  line? : Option Nat
  column? : Option Nat
  deriving DecidableEq, Inhabited

namespace Frame

/-- The file of a frame that has no place. -/
def systemFile : String := "<system>"

/-- What stands for a place that is not known. -/
def anonymous : List Char := "<anonymous>".toList

/-- A frame that has no place. -/
def system : Frame := ⟨none, systemFile, none, none⟩

/-- Trimmed characters. -/
def trimmed (cs : List Char) : List Char := Text.dropBlanksRight (Text.dropBlanksLeft cs)

/-! ### Places -/

/-- The frame of the parts of a place, given from the last to the first. -/
def ofParts (parts : List (List Char)) : Frame :=
  let file (ps : List (List Char)) : String := String.ofList ([':'].intercalate ps.reverse)
  match parts with
  | p :: q :: rest =>
    match Text.nat32? p with
    | none => ⟨none, file parts, none, none⟩
    | some n =>
      match rest, Text.nat32? q with
      | _ :: _, some m => ⟨none, file rest, some m, some n⟩
      | _, _ => ⟨none, file (q :: rest), some n, none⟩
  | ps => ⟨none, file ps, none, none⟩

/-- The frame of a place written as a path, a line and a column. The numbers are taken from the right, so
that colons in the path are kept. -/
def ofLocator (locator : List Char) : Frame :=
  ofParts ((Text.pieces ':' (trimmed locator)).map trimmed).reverse

/-! ### Lines -/

/-- The text before and after the first occurrence of a character. -/
def splitFirst (c : Char) (cs : List Char) : Option (List Char × List Char) :=
  match cs.dropWhile (· ≠ c) with
  | [] => none
  | _ :: after => some (cs.takeWhile (· ≠ c), after)

/-- The text before the last occurrence of a character. -/
def beforeLast (c : Char) (cs : List Char) : Option (List Char) :=
  (splitFirst c cs.reverse).map fun parts => parts.2.reverse

/-- The frame of a line whose mark is removed. -/
def ofText (text : List Char) : Frame :=
  let text := trimmed text
  if text = anonymous then system
  else
    match splitFirst '(' text with
    | none => ofLocator text
    | some (name, inner) =>
      match beforeLast ')' inner with
      | none => ofLocator text
      | some locator =>
        let locator := trimmed locator
        if locator = anonymous then system
        else { ofLocator locator with function? := some (String.ofList (trimmed name)) }

/-- The text of a frame line without its mark. -/
def textOfLine? (line : List Char) : Option (List Char) :=
  Text.dropStart? "at ".toList (trimmed line)

/-- The frames of a trace in order. -/
def ofTrace (trace : String) : List Frame :=
  (Text.pieces '\n' trace.toList).filterMap fun line => (textOfLine? line).map ofText

/-! ### Printing -/

/-- The text of a place. -/
def place (f : Frame) : String :=
  f.file ++ (match f.line? with | some n => ":" ++ toString n | none => "") ++
    match f.column? with | some n => ":" ++ toString n | none => ""

/-- The line of a frame, without indentation. -/
def write (f : Frame) : String :=
  match f.function? with
  | some name => "at " ++ name ++ " (" ++ f.place ++ ")"
  | none => "at " ++ f.place

end Frame

end NotebookEngine
