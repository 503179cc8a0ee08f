/-
**A picture of the operations in flight.**

Main definitions:

* `Tracker.operationTree` — an operation with those it triggered, as JSON;
* `Tracker.dump` — the JSON text of all operations.
-/

import NotebookEngine.Tracking.Tracker
import NotebookEngine.Json.Printer

set_option autoImplicit false

namespace NotebookEngine

namespace Tracker

/-- An operation as JSON, above the given values of those it triggered. -/
def operationJson (op : Operation) (children : List Json) : Json :=
  .obj [("asyncId", .int op.id), ("cellIndex", .int op.cell), ("children", .arr children),
    ("status", .str op.status.word), ("triggerAsyncId", .int op.trigger), ("type", .str op.kind)]

/-- An operation with those it triggered, at most `n` levels deep. -/
def operationTree (t : Tracker) : Nat → Operation → Json
  | 0, op => operationJson op []
  | n + 1, op =>
    operationJson op ((op.children.filterMap t.operations.get?).map (t.operationTree n))

/-- The counts of the cells, by the texts of their numbers. -/
def countFields (t : Tracker) : List (String × Json) :=
  t.counts.toList.foldl (fun fields (cell, n) => Json.put (toString cell) (.int n) fields) []

/-- The operations in flight and how they came about. -/
def snapshot (t : Tracker) : Json :=
  let current := (t.current.toList.map (·.1)).filterMap t.operations.get?
  let roots := t.roots.filterMap t.operations.get?
  .obj [("curOps", .arr (current.map fun op => operationJson op [])),
    ("isTracking", .bool t.tracking), ("numCellOps", .obj t.countFields),
    ("ops", .arr (roots.map (t.operationTree t.operations.size))),
    ("remainingOps", .int t.inFlight)]

/-- The JSON text of all operations. -/
def dump (t : Tracker) : String := t.snapshot.pretty

end Tracker

end NotebookEngine
