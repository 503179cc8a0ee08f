/-
**File paths as they are written.**

A path is a text with `/` between its parts.  Paths are joined and cut without being normalised, so a
resolved file keeps the spelling that led to it.

Main definitions:

* `Path.join` — a path below another;
* `Path.components` — the parts that matter: empty ones, and `.` other than at the start, do not;
* `Path.parent?`, `Path.ancestors` — the paths above a path, itself first;
* `Path.fileName?`, `Path.extension?` — the last part, and what follows its last point.
-/

import NotebookEngine.Text.Lines

set_option autoImplicit false

namespace NotebookEngine

namespace Path

/-! ### Joining -/

/-- Whether a path does not depend on where it is used. -/
def isAbsolute (p : String) : Bool := p.startsWith "/"

/-- The path `p` as seen from `base`. -/
def join (base p : String) : String :=
  if isAbsolute p then p
  else if base.isEmpty ∨ base.endsWith "/" then base ++ p
  else base ++ "/" ++ p

/-! ### Parts -/

/-- Whether a part is one that does not matter after the start. -/
def isIdle (part : List Char) : Bool := part = [] || part = ['.']

/-- The parts between separators with the number of characters before the end of each. -/
def partEnds : Nat → List (List Char) → List (List Char × Nat)
  | _, [] => []
  | i, p :: ps => (p, i + p.length) :: partEnds (i + p.length + 1) ps

/-- The parts that matter with the place where each ends: a `.` counts only at the very start. -/
def components (p : String) : List (List Char × Nat) :=
  match partEnds 0 (Text.pieces '/' p.toList) with
  | [] => []
  | first :: rest =>
    (if first.1 = [] then [] else [first]) ++ rest.filter fun part => !isIdle part.1

/-- The path without its last part. -/
def parent? (p : String) : Option String :=
  match (components p).reverse with
  | [] => none
  | [_] => if isAbsolute p then some "/" else some ""
  | _ :: (_, stop) :: _ => some (String.ofList (p.toList.take stop))

/-- The paths above `p`, at most `n` of them. -/
def ancestorsFrom : Nat → String → List String
  | 0, p => [p]
  | n + 1, p =>
    match parent? p with
    | none => [p]
    | some q => p :: ancestorsFrom n q

/-- The path itself and those above it. -/
def ancestors (p : String) : List String := ancestorsFrom (components p).length p

/-- The last part, unless it leads upwards or nowhere. -/
def fileName? (p : String) : Option (List Char) :=
  match (components p).getLast? with
  | some (part, _) => if part = ['.'] ∨ part = ['.', '.'] then none else some part
  | none => none

/-- What follows the last point of the last part, if something precedes it. -/
def extension? (p : String) : Option String :=
  match fileName? p with
  | none => none
  | some name =>
    match (Text.pieces '.' name).reverse with
    | last :: _ :: _ =>
      if last.length + 1 = name.length then none else some (String.ofList last)
    | _ => none

end Path

end NotebookEngine
