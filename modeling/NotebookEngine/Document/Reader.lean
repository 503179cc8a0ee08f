/-
**Reading notebook documents.**

Main definitions:

* `Notebook.reader` — the JSON reader of a notebook;
* `Notebook.read` — the notebook of a document, with an identity for every cell.
-/

import NotebookEngine.Document.Notebook
import NotebookEngine.Json.Record
import NotebookEngine.Failure

set_option autoImplicit false

namespace NotebookEngine

open Json.Reader

/-! ### Cells -/

/-- The kind of a cell. -/
def CellKind.reader : Json.Reader CellKind := do
  let w ← variant ["code", "markdown"] "\x60code\x60 or \x60markdown\x60"
  return if w = "markdown" then .markdown else .code

/-- The fields of a cell that were read; an inner `none` is a `null`. -/
structure Cell.Fields where
  id : Option (Option String)
  kind : Option CellKind
  source : Option (Option String)

/-- What follows the name of a cell's field. -/
def Cell.field (name : String) (s : Cell.Fields) : Json.Reader Cell.Fields := do
  match name with
  | "instanceId" => return { s with id := ← known name s.id optionalText }
  | "cellType" => return { s with kind := ← known name s.kind CellKind.reader }
  | "code" => return { s with source := ← known name s.source optionalText }
  | _ => do unknown; return s

/-- A cell must have a kind. -/
def Cell.finish (s : Cell.Fields) : Json.Reader Cell :=
  match s.kind with
  | some kind => return ⟨s.id.join, kind, s.source.join⟩
  | none => failLater (.missingField "cellType")

/-- A cell as a list. -/
def Cell.positional : Json.Reader Cell := do
  let id ← nextItem true optionalText
  match ← nextItem id.isNone CellKind.reader with
  | none => failLater (.invalidLength 1 "struct Cell with 3 elements")
  | some kind => return ⟨id.join, kind, (← nextItem false optionalText).join⟩

/-- The JSON reader of a cell. -/
def Cell.reader : Json.Reader Cell :=
  record "struct Cell" ⟨none, none, none⟩ Cell.field Cell.finish Cell.positional

/-! ### Notebooks -/

namespace Notebook

/-- The fields of a notebook that were read. -/
structure Fields where
  version : Option Nat
  language : Option String
  cells : Option (List Cell)

/-- What follows the name of a notebook's field. -/
def field (name : String) (s : Fields) : Json.Reader Fields := do
  match name with
  | "version" => return { s with version := ← known name s.version nat32 }
  | "language" => return { s with language := ← known name s.language text }
  | "cells" => return { s with cells := ← known name s.cells (listOf Cell.reader) }
  | _ => do unknown; return s

/-- Every field of a notebook may be left out. -/
def finish (s : Fields) : Json.Reader Notebook :=
  return ⟨s.version.getD defaultVersion, s.language.getD defaultLanguage, s.cells.getD []⟩

/-- A notebook as a list. -/
def positional : Json.Reader Notebook := do
  let version ← nextItem true nat32
  let language ← if version.isSome then nextItem false text else pure none
  let cells ← if language.isSome then nextItem false (listOf Cell.reader) else pure none
  finish ⟨version, language, cells⟩

/-- The JSON reader of a notebook. -/
def reader : Json.Reader Notebook :=
  record "struct Notebook" ⟨none, none, none⟩ field finish positional

/-- The notebook of a document as it is written. -/
def readPlain (s : String) : Except Json.Fault Notebook := run (wholeDocument reader) s

/-- The notebook of a document, with an identity from `fresh` for each cell that has none. -/
def read (fresh : Nat → String) (s : String) : Except Failure Notebook :=
  match readPlain s with
  | .ok n => .ok (n.withIds fresh)
  | .error f => .error (.document f.message)

end Notebook

end NotebookEngine
