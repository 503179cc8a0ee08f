/-
**Module specifiers in source text.**

Imports are recognised in the text itself, before any parsing: a call `require("name")`, or the word
`import`, a blank and later on the same line a quoted name.  The quoted name holds no quotation mark,
parenthesis or bar.  Matches are taken from left to right and do not overlap.

Main definitions:

* `Specifier.requireAt`, `Specifier.importAt` — the two forms at the start of a text;
* `Specifier.isImportLine` — whether a text holds either;
* `Specifier.find` — the specifiers of a text in order of first appearance.
-/

import NotebookEngine.Text.Blank
import NotebookEngine.Text.Lines

set_option autoImplicit false

namespace NotebookEngine

namespace Specifier

/-! ### Quoted names -/

/-- Whether the character is a quotation mark. -/
def isMark (c : Char) : Bool := c = '\'' || c = '"'

/-- Whether the character may stand in a quoted name. -/
def isNameChar (c : Char) : Bool := !(isMark c || c = '(' || c = ')' || c = '|')

/-- The quoted name at the start of the text, whose mark is included, and what follows it. -/
def quotedName : List Char → Option (List Char × List Char)
  | [] => none
  | m :: cs =>
    if isMark m then
      match cs.takeWhile isNameChar, cs.dropWhile isNameChar with
      | [], _ => none
      | name, closing :: rest => if isMark closing then some (name, rest) else none
      | _, [] => none
    else none

/-! ### The two forms -/

/-- A match at the start of a text: the characters before the name, the name, and all it covers. -/
structure Match where
  before : Nat
  name : List Char
  length : Nat

/-- A call of `require` with a quoted name. -/
def requireAt (cs : List Char) : Option Match := do
  let rest ← Text.dropStart? "require(".toList cs
  let quoted := rest.dropWhile Text.isBlank
  let (name, rest) ← quotedName quoted
  match rest.dropWhile Text.isBlank with
  | ')' :: after => some ⟨cs.length - quoted.length + 1, name, cs.length - after.length⟩
  | _ => none

/-- The first quoted name on the line. -/
def nameOnLine : List Char → Option (List Char × List Char × List Char)
  | [] => none
  | c :: cs =>
    match quotedName (c :: cs) with
    | some (name, rest) => some (c :: cs, name, rest)
    | none => if c = '\n' then none else nameOnLine cs

/-- The word `import`, a blank, and the first quoted name after it. -/
def importAt (cs : List Char) : Option Match := do
  let rest ← Text.dropStart? "import".toList cs
  match rest with
  | [] => none
  | b :: rest =>
    if Text.isBlank b then
      let (quoted, name, after) ← nameOnLine rest
      some ⟨cs.length - quoted.length + 1, name, cs.length - after.length⟩
    else none

/-! ### All matches -/

/-- The matches of a form in a text whose first character has the given place, after `skip` characters
that a match already covers. -/
def scan (form : List Char → Option Match) : Nat → Nat → List Char → List (Nat × List Char)
  | _, _, [] => []
  | skip + 1, place, _ :: cs => scan form skip (place + 1) cs
  | 0, place, c :: cs =>
    match form (c :: cs) with
    | some m => (place + m.before, m.name) :: scan form (m.length - 1) (place + 1) cs
    | none => scan form 0 (place + 1) cs

/-- The places and names of all matches of both forms, in the order of their places. -/
def occurrences (source : String) : List (Nat × List Char) :=
  let cs := source.toList
  (scan requireAt 0 0 cs ++ scan importAt 0 0 cs).mergeSort fun a b => a.1 ≤ b.1

/-- Whether a text holds an import in either form. -/
def isImportLine (line : String) : Bool :=
  !(scan requireAt 0 0 line.toList).isEmpty || !(scan importAt 0 0 line.toList).isEmpty

/-- The items without those that came before. -/
def firsts {α : Type} [BEq α] : List α → List α → List α
  | _, [] => []
  | seen, a :: as => if seen.contains a then firsts seen as else a :: firsts (a :: seen) as

/-- The specifiers of a text in order of first appearance. -/
def find (source : String) : List String :=
  firsts [] ((occurrences source).map fun (_, name) => Text.trim (String.ofList name))

end Specifier

end NotebookEngine
