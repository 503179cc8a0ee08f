/-
**Properties of letters.**

A property is a category, a group of categories, a trait, or a writing system.  Its letters are given as
ranges in increasing order that do not touch.

Main definitions:

* `LetterProperty.joined`, `LetterProperty.complement`, `LetterProperty.without` — sets of letters as
  ranges;
* `LetterProperty.ranges?` — the letters that have a property.
-/

import NotebookEngine.Script.Letters
import NotebookEngine.Text.CategoryTable
import NotebookEngine.Text.TraitTable
import NotebookEngine.Text.WritingTable

set_option autoImplicit false

namespace NotebookEngine

namespace LetterProperty

/-! ### Sets of letters -/

/-- Ranges of letters. -/
abbrev Ranges := List (Nat × Nat)

/-- The greatest letter. -/
def lastLetter : Nat := 0x10FFFF

/-- A range and ranges that start no earlier, ordered by where they start; those that touch are joined. -/
def joinSorted (lo hi : Nat) : Ranges → Ranges
  | [] => [(lo, hi)]
  | (lo', hi') :: rest =>
    if lo' ≤ hi + 1 then joinSorted lo (max hi hi') rest else (lo, hi) :: joinSorted lo' hi' rest

/-- The letters of some ranges, in order. -/
def joined (rs : Ranges) : Ranges :=
  match rs.mergeSort fun a b => a.1 ≤ b.1 with
  | [] => []
  | (lo, hi) :: rest => joinSorted lo hi rest

/-- The letters from one on that lie in none of the ranges, which must be in order. -/
def complementFrom (next : Nat) : Ranges → Ranges
  | [] => if next ≤ lastLetter then [(next, lastLetter)] else []
  | (lo, hi) :: rest =>
    if next < lo then (next, lo - 1) :: complementFrom (hi + 1) rest
    else complementFrom (max next (hi + 1)) rest

/-- The letters that lie in none of the ranges. -/
def complement (rs : Ranges) : Ranges := complementFrom 0 (joined rs)

/-- The letters of some ranges that lie in none of others. -/
def without (rs others : Ranges) : Ranges := complement (complement rs ++ others)

/-! ### Categories -/

/-- The ranges that a row of a table lists. -/
def rangesOf (row : String) : Ranges := (Script.readRanges row).toList

/-- The names of groups of categories, and how the short names of their categories start. -/
def groups : List (String × String × List String) :=
  [("L", "Letter", ["Lu", "Ll", "Lt", "Lm", "Lo"]), ("LC", "Cased_Letter", ["Lu", "Ll", "Lt"]),
   ("M", "Mark", ["Mn", "Mc", "Me"]), ("M", "Combining_Mark", ["Mn", "Mc", "Me"]),
   ("N", "Number", ["Nd", "Nl", "No"]), ("P", "Punctuation", ["Pc", "Pd", "Ps", "Pe", "Pi", "Pf", "Po"]),
   ("P", "punct", ["Pc", "Pd", "Ps", "Pe", "Pi", "Pf", "Po"]), ("S", "Symbol", ["Sm", "Sc", "Sk", "So"]),
   ("Z", "Separator", ["Zs", "Zl", "Zp"]), ("Nd", "digit", ["Nd"]), ("Cc", "cntrl", ["Cc"])]

/-- The letters of the categories with short names. -/
def ofCategories (names : List String) : Ranges :=
  joined ((categoryRows.filter fun (short, _, _) => names.contains short).flatMap fun (_, _, row) =>
    rangesOf row)

/-- The letters that belong to no category of the table. -/
def unassigned : Ranges := complement (categoryRows.flatMap fun (_, _, row) => rangesOf row)

/-- The letters of a category or a group of categories. -/
def category? (name : String) : Option Ranges :=
  match categoryRows.find? fun (short, long, _) => name = short || name = long with
  | some (_, _, row) => some (rangesOf row)
  | none =>
    match groups.find? fun (short, long, _) => name = short || name = long with
    | some (_, _, names) => some (ofCategories names)
    | none =>
      if name = "Cn" || name = "Unassigned" then some unassigned
      else if name = "C" || name = "Other" then
        some (joined (unassigned ++ ofCategories ["Cc", "Cf", "Cs", "Co"]))
      else none

/-! ### Traits and writing systems -/

/-- The letters that have a trait. -/
def trait? (name : String) : Option Ranges :=
  match name with
  | "Any" => some [(0, lastLetter)]
  | "ASCII" => some [(0, 0x7F)]
  | "Assigned" => some (complement unassigned)
  | _ =>
    (traitRows.find? fun row => row.names.contains name).map fun row =>
      without (ofCategories row.categories ++ rangesOf row.further) (rangesOf row.except)

/-- The letters of a writing system, or all that are used in it. -/
def writing? (name : String) (used : Bool) : Option Ranges :=
  (writingRows.find? fun row => row.names.contains name).map fun row =>
    if used then without (rangesOf row.own ++ rangesOf row.further) (rangesOf row.elsewhere)
    else rangesOf row.own

/-! ### Properties -/

/-- The letters that have a property, as patterns name it. -/
def ranges? (text : String) : Option Ranges :=
  match text.splitOn "=" with
  | [name] => (category? name).orElse fun _ => trait? name
  | [kind, name] =>
    if kind = "General_Category" || kind = "gc" then category? name
    else if kind = "Script" || kind = "sc" then writing? name false
    else if kind = "Script_Extensions" || kind = "scx" then writing? name true
    else none
  | _ => none

end LetterProperty

end NotebookEngine
