/-
**Writing notebook documents.**

Fields come in their declared order, and a cell's identity and text are left out where there are none.

Main definitions:

* `Notebook.write` — the document of a notebook.
-/

import NotebookEngine.Document.Notebook
import NotebookEngine.Json.Printer

set_option autoImplicit false

namespace NotebookEngine

/-- The fields of a cell, in the order in which they are written. -/
def Cell.toJson (c : Cell) : Json :=
  .obj (Json.optionalField "instanceId" c.id? ++ [("cellType", .str c.kind.word)] ++
    Json.optionalField "code" c.source?)

/-- The fields of a notebook, in the order in which they are written. -/
def Notebook.toJson (n : Notebook) : Json :=
  .obj [("version", .int n.version), ("language", .str n.language),
    ("cells", .arr (n.cells.map Cell.toJson))]

/-- The document of a notebook. -/
def Notebook.write (n : Notebook) : String := n.toJson.pretty

end NotebookEngine
