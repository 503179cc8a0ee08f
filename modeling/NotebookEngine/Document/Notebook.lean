/-
**Notebook documents.**

A notebook is an ordered list of cells: code, which is evaluated, and markdown, which is not.  A cell
has an identity that lasts across a run; where a document gives none, one is assigned.

Main definitions:

* `CellKind`, `Cell`, `Notebook` — the document;
* `Notebook.codeCells` — the cells that are evaluated;
* `Notebook.withIds`, `Notebook.ofCells` — identities for the cells that have none.

Main results:

* `Notebook.hasId_of_mem_withIds` — every cell gets an identity;
* `Notebook.withIds_eq_self` — and one that has an identity keeps it.
-/

set_option autoImplicit false

namespace NotebookEngine

/-! ### Cells -/

/-- What a cell holds. -/
inductive CellKind where
  /-- Code to evaluate. -/
  | code
  /-- Documentation. -/
  | markdown
  deriving DecidableEq, Inhabited

/-- The word for the kind in documents. -/
def CellKind.word : CellKind → String
  | .code => "code"
  | .markdown => "markdown"

/-- A cell of a notebook. -/
structure Cell where
  /-- The identity of the cell. -/
  id? : Option String
  /-- What the cell holds. -/
  kind : CellKind
  /-- The text of the cell. -/
  source? : Option String
  deriving DecidableEq, Inhabited

namespace Cell

/-- The identity, empty for a cell that has none. -/
def id (c : Cell) : String := c.id?.getD ""

/-- The text, empty for a cell that has none. -/
def source (c : Cell) : String := c.source?.getD ""

/-- Whether the cell is evaluated. -/
def isCode (c : Cell) : Bool := c.kind = .code

/-- Whether the cell has an identity that can tell it from others. -/
def hasId (c : Cell) : Bool := c.id ≠ ""

end Cell

/-! ### Notebooks -/

/-- A notebook document. -/
structure Notebook where
  /-- The version of the document format. -/
  version : Nat
  /-- The language of the code cells. -/
  language : String
  /-- The cells in order. -/
  cells : List Cell
  deriving DecidableEq, Inhabited

namespace Notebook

/-- The version of a document that states none. -/
def defaultVersion : Nat := 1

/-- The language of a document that states none. -/
def defaultLanguage : String := "javascript"

/-- The cells that are evaluated, in order. -/
def codeCells (n : Notebook) : List Cell := n.cells.filter Cell.isCode

/-- The cells with an identity from `fresh` for each that has none. -/
def assignIds (fresh : Nat → String) : Nat → List Cell → List Cell
  | _, [] => []
  | i, c :: cs =>
    (if c.hasId then c else { c with id? := some (fresh i) }) :: assignIds fresh (i + 1) cs

/-- The notebook with an identity from `fresh` for each cell that has none. -/
def withIds (fresh : Nat → String) (n : Notebook) : Notebook :=
  { n with cells := assignIds fresh 0 n.cells }

/-- The notebook of the given cells. -/
def ofCells (fresh : Nat → String) (cells : List Cell) : Notebook :=
  withIds fresh ⟨defaultVersion, defaultLanguage, cells⟩

/-! ### Identities -/

theorem assignIds_eq_self (fresh : Nat → String) (i : Nat) (cells : List Cell)
    (h : ∀ c ∈ cells, c.hasId = true) : assignIds fresh i cells = cells := by
  induction cells generalizing i with
  | nil => rfl
  | cons c cs ih =>
    simp [assignIds, h c (by simp), ih (i + 1) (fun d hd => h d (by simp [hd]))]

/-- Cells that have an identity keep it. -/
theorem withIds_eq_self (fresh : Nat → String) (n : Notebook)
    (h : ∀ c ∈ n.cells, c.hasId = true) : n.withIds fresh = n := by
  simp [withIds, assignIds_eq_self fresh 0 n.cells h]

theorem hasId_of_mem_assignIds {fresh : Nat → String} (hf : ∀ i, fresh i ≠ "") (i : Nat)
    (cells : List Cell) (c : Cell) (h : c ∈ assignIds fresh i cells) : c.hasId = true := by
  induction cells generalizing i with
  | nil => simp [assignIds] at h
  | cons d ds ih =>
    rw [assignIds, List.mem_cons] at h
    rcases h with rfl | h
    · split
      next hd => exact hd
      next => simp [Cell.hasId, Cell.id, hf]
    · exact ih (i + 1) h

/-- Every cell gets an identity. -/
theorem hasId_of_mem_withIds {fresh : Nat → String} (hf : ∀ i, fresh i ≠ "") (n : Notebook)
    (c : Cell) (h : c ∈ (n.withIds fresh).cells) : c.hasId = true :=
  hasId_of_mem_assignIds hf 0 n.cells c h

end Notebook

end NotebookEngine
