/-
**Splitting text at a separator.**

Sources, stacks, source maps and messages are all read piece by piece between separators.  The pieces
are kept exactly: joining them with the separator gives the text back.

Main definitions:

* `Text.pieces` — the parts of a character list between the characters that satisfy a predicate;
* `Text.splitOnChar` — the same for strings and one separator;
* `Text.linesOf` — the lines of a text as a terminal shows them: a final line break opens no line, and
  a carriage return before a break belongs to the break.

Main results:

* `Text.pieces_ne_nil` — there is always a piece;
* `Text.intercalate_pieces` — joining the pieces gives the text back;
* `Text.length_pieces` — one piece more than separators.
-/

set_option autoImplicit false

namespace NotebookEngine

namespace Text

/-! ### Pieces of a character list -/

/-- The parts of the text between occurrences of the separator. -/
def pieces (sep : Char) : List Char → List (List Char)
  | [] => [[]]
  | c :: cs =>
    if c = sep then [] :: pieces sep cs
    else
      match pieces sep cs with
      | [] => [[c]]
      | p :: ps => (c :: p) :: ps

@[simp] theorem pieces_nil (sep : Char) : pieces sep [] = [[]] := rfl

theorem pieces_ne_nil (sep : Char) (cs : List Char) : pieces sep cs ≠ [] := by
  cases cs with
  | nil => simp
  | cons c cs =>
    rw [pieces]
    split
    · simp
    · split <;> simp

/-- Joining the pieces with the separator gives the text back. -/
theorem intercalate_pieces (sep : Char) (cs : List Char) :
    [sep].intercalate (pieces sep cs) = cs := by
  induction cs with
  | nil => rfl
  | cons c cs ih =>
    rw [pieces]
    split
    next h =>
      subst h
      cases hp : pieces c cs with
      | nil => exact absurd hp (pieces_ne_nil c cs)
      | cons p ps => rw [hp] at ih; simp [List.intercalate, List.intersperse] at ih ⊢; exact ih
    next h =>
      cases hp : pieces sep cs with
      | nil => exact absurd hp (pieces_ne_nil sep cs)
      | cons p ps =>
        rw [hp] at ih
        cases ps with
        | nil => simpa [List.intercalate] using ih
        | cons q qs => simp [List.intercalate, List.intersperse] at ih ⊢; exact ih

/-- There is one piece more than there are separators. -/
theorem length_pieces (sep : Char) (cs : List Char) :
    (pieces sep cs).length = cs.count sep + 1 := by
  induction cs with
  | nil => rfl
  | cons c cs ih =>
    rw [pieces]
    split
    next h => subst h; simp [ih]
    next h =>
      cases hp : pieces sep cs with
      | nil => exact absurd hp (pieces_ne_nil sep cs)
      | cons p ps =>
        rw [hp] at ih
        simpa [List.count_cons, h] using ih

/-! ### Pieces of a string -/

/-- The parts of the string between occurrences of the separator. -/
def splitOnChar (sep : Char) (s : String) : List String :=
  (pieces sep s.toList).map String.ofList

/-- The string without one final carriage return. -/
def dropReturn (s : String) : String :=
  match s.toList.reverse with
  | '\r' :: rest => String.ofList rest.reverse
  | _ => s

/-- The lines of a text: a final line break opens no further line, and a carriage return directly
before a line break belongs to the break. -/
def linesOf (s : String) : List String :=
  let ps := splitOnChar '\n' s
  let closed := ps.dropLast.map dropReturn
  match ps.getLast? with
  | none | some "" => closed
  | some last => closed ++ [last]

/-- Whether the text has the given start; what follows it then. -/
def dropStart? : List Char → List Char → Option (List Char)
  | [], cs => some cs
  | _ :: _, [] => none
  | p :: ps, c :: cs => if p = c then dropStart? ps cs else none

/-- What follows the first occurrence of `part`, with what precedes it. -/
def findPart (part : List Char) : List Char → Option (List Char × List Char)
  | [] => if part.isEmpty then some ([], []) else none
  | c :: cs =>
    match dropStart? part (c :: cs) with
    | some rest => some ([], rest)
    | none => (findPart part cs).map fun (before, after) => (c :: before, after)

end Text

end NotebookEngine
