/-
**Requiring modules.**

A module is run the first time that it is required, and kept under the path that its specifier led to.
The same path gives the same module from then on, also while the module still runs.  A path is kept as it
was spelled: one that is required relative to a module begins with the directory of the module, unless a
manifest names an entry from the root.

Main definitions:

* `Module.directoryOf` — the directory that a module requires others from;
* `Module.Demand`, `Module.demand` — what requiring a module comes to.
-/

import NotebookEngine.Package.Resolve

set_option autoImplicit false

namespace NotebookEngine

namespace Module

/-- The directory of a path: what stands before its last separator. -/
def directoryOf (path : String) : String :=
  let above := (path.toList.reverse.dropWhile fun c => c ≠ '/').tail.reverse
  if above.isEmpty then "/" else String.ofList above

/-- What requiring a module comes to. -/
inductive Demand (α : Type) where
  /-- No file is meant. -/
  | missing
  /-- The path was required before. -/
  | known (module : α)
  /-- The file cannot be read, and why. -/
  | unreadable (message : String)
  /-- The path was not required before; the text of its file. -/
  | fresh (path : String) (format : Format) (source : String)

/-- What requiring a specifier from the directory `base` comes to, where modules have been loaded. -/
def demand {α : Type} (t : FileTree) (loaded : List (String × α)) (base specifier : String) : Demand α :=
  match resolve t base specifier with
  | none => .missing
  | some path =>
    match loaded.find? fun (p, _) => p = path with
    | some (_, m) => .known m
    | none =>
      match load t path with
      | .failed message => .unreadable message
      | .text format _ source => .fresh path format source

end Module

end NotebookEngine
