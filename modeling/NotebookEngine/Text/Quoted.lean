/-
**Texts as messages quote them.**

A quoted text stands between quotation marks.  Characters that could not be told apart on paper are
written as escapes: marks and backslashes, control characters, separators other than the plain space,
characters without a meaning, and marks that join the character before them.

Main definitions:

* `Text.isHidden` — the characters that are written by their numbers;
* `Text.quoted` — a text between quotation marks.
-/

import NotebookEngine.Text.LetterProperty

set_option autoImplicit false

namespace NotebookEngine

namespace Text

/-- The characters that have no image of their own. -/
def hiddenRanges : Array (Nat × Nat) :=
  (LetterProperty.joined (["C", "Z", "Grapheme_Extend"].flatMap fun name =>
    (LetterProperty.ranges? name).getD [])).toArray

/-- Whether a character is written by its number. -/
def isHidden (c : Char) : Bool := c ≠ ' ' && Script.inRanges hiddenRanges c

/-- A character as it stands in a quoted text. -/
def quotedChar (c : Char) : String :=
  match c with
  | '\x00' => "\\0"
  | '\t' => "\\t"
  | '\n' => "\\n"
  | '\r' => "\\r"
  | '"' => "\\\""
  | '\\' => "\\\\"
  | c =>
    if isHidden c then "\\u\x7b" ++ String.ofList (Nat.toDigits 16 c.toNat) ++ "\x7d" else c.toString

/-- A text between quotation marks. -/
def quoted (text : String) : String := "\"" ++ String.join (text.toList.map quotedChar) ++ "\""

end Text

end NotebookEngine
