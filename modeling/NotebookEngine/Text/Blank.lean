/-
**Blank characters, and text without blank ends.**

Cell sources, stack lines and installer output are trimmed before they are looked at.  What counts as
blank is the Unicode property `White_Space`, not the smaller set of a programming language.

Main definitions:

* `Text.isBlank` — membership in `White_Space`;
* `Text.dropBlanksRight`, `Text.trimRight`, `Text.trim` — text without blank ends.

Main results:

* `Text.dropBlanksRight_append_blanks` — what is dropped is blank.
-/

set_option autoImplicit false

namespace NotebookEngine

namespace Text

/-! ### The property -/

/-- The characters of the Unicode property `White_Space`. -/
def isBlank (c : Char) : Bool :=
  let n := c.toNat
  (9 ≤ n && n ≤ 13) || n == 0x20 || n == 0x85 || n == 0xA0 || n == 0x1680 ||
    (0x2000 ≤ n && n ≤ 0x200A) || n == 0x2028 || n == 0x2029 || n == 0x202F ||
    n == 0x205F || n == 0x3000

/-! ### Trimming character lists -/

/-- The text without its longest blank start. -/
def dropBlanksLeft (cs : List Char) : List Char := cs.dropWhile isBlank

/-- The text without its longest blank end. -/
def dropBlanksRight : List Char → List Char
  | [] => []
  | c :: cs =>
    match dropBlanksRight cs with
    | [] => if isBlank c then [] else [c]
    | kept => c :: kept

@[simp] theorem dropBlanksRight_nil : dropBlanksRight [] = [] := rfl

/-- What is dropped from the end is blank. -/
theorem dropBlanksRight_append_blanks (cs : List Char) :
    ∃ bs, cs = dropBlanksRight cs ++ bs ∧ ∀ b ∈ bs, isBlank b = true := by
  induction cs with
  | nil => exact ⟨[], rfl, by simp⟩
  | cons c cs ih =>
    obtain ⟨bs, hcs, hbs⟩ := ih
    rw [dropBlanksRight]
    split
    next h =>
      rw [h] at hcs
      split
      next hc =>
        refine ⟨c :: cs, rfl, fun b hb => ?_⟩
        rcases List.mem_cons.1 hb with rfl | hb
        · exact hc
        · exact hbs b (by rw [hcs] at hb; simpa using hb)
      next hc => exact ⟨bs, by simpa using hcs, hbs⟩
    next h => exact ⟨bs, by rw [List.cons_append, ← hcs], hbs⟩

/-! ### Trimming strings -/

/-- The string without its blank end. -/
def trimRight (s : String) : String := String.ofList (dropBlanksRight s.toList)

/-- The string without its blank start and end. -/
def trim (s : String) : String := String.ofList (dropBlanksRight (dropBlanksLeft s.toList))

end Text

end NotebookEngine
