/-
**Literals without a source text.**

A literal that a program has from its source is written as it stands there.  One that was made up has no
such text; strings are put between the marks that need fewer escapes, and numbers are written without an
exponent.

Main definitions:

* `Script.quoteMark` — the mark that a string is put between;
* `Script.quoteString` — the text of a string;
* `Script.plainNumber` — the text of a number;
* `Script.stringNode`, `Script.numberNode` — made-up literals.
-/

import NotebookEngine.Json.Printer
import NotebookEngine.Script.Arithmetic
import NotebookEngine.Script.Lexer
import NotebookEngine.Script.Syntax

set_option autoImplicit false

namespace NotebookEngine

namespace Script

/-! ### Strings -/

/-- The mark that a string is put between: double marks, unless it holds more of these than single
ones. -/
def quoteMark (cs : List Char) : Char := if cs.count '"' > cs.count '\'' then '\'' else '"'

/-- Two hexadecimal digits. -/
def hexPair (n : Nat) : List Char := [Json.hexDigit (n / 16), Json.hexDigit (n % 16)]

/-- A character within a string between two marks, before a character that may be a digit. -/
def quoteLetter (mark : Char) (c : Char) (beforeDigit : Bool) : List Char :=
  match halfUnit? c with
  | some u => '\\' :: 'u' :: (hexPair (u / 256) ++ hexPair (u % 256)).map Char.toUpper
  | none =>
    match c.toNat with
    | 0 => if beforeDigit then "\\x00".toList else "\\0".toList
    | 8 => "\\b".toList
    | 9 => [c]
    | 10 => "\\n".toList
    | 11 => "\\v".toList
    | 12 => "\\f".toList
    | 13 => "\\r".toList
    | 92 => "\\\\".toList
    | 0x2028 => "\\u2028".toList
    | 0x2029 => "\\u2029".toList
    | 0xFEFF => "\\uFEFF".toList
    | n => if n < 32 then '\\' :: 'x' :: hexPair n else if c = mark then ['\\', c] else [c]

/-- The characters of a string between two marks. -/
def quoteLetters (mark : Char) : List Char → List Char
  | [] => []
  | c :: cs => quoteLetter mark c (cs.head?.any Char.isDigit) ++ quoteLetters mark cs

/-- The text of a string. -/
def quoteString (s : String) : String :=
  let mark := quoteMark s.toList
  String.ofList (mark :: (quoteLetters mark s.toList ++ [mark]))

/-- A text in which what is half of a pair has been replaced. -/
def wholeLetters (s : String) : String :=
  s.map fun c => if (halfUnit? c).isSome then Char.ofNat 0xFFFD else c

/-! ### Numbers -/

/-- Numbers without an exponent. -/
def positional : Decimal.Layout := ⟨400, -400, false, false⟩

/-- The text of a number. -/
def plainNumber (x : Float) : String :=
  if x.isNaN then "NaN"
  else if x.isInf then (if x < 0 then "-Infinity" else "Infinity")
  else if x == 0 then "0"
  else positional.write x

/-! ### Nodes -/

/-- A string that was made up. -/
def stringNode (s : String) : Node := .made (.string s (quoteString s)) []

/-- A number that was made up. -/
def numberNode (x : Float) : Node :=
  if isNegative x then .made (.unary "-") [.made (.number (-x) (plainNumber (-x))) []]
  else .made (.number x (plainNumber x)) []

/-- No value, as an expression. -/
def voidNode : Node := .made (.unary "void") [.made (.number 0 "0") []]

end Script

end NotebookEngine
