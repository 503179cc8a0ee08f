/-
**Terminal escape sequences.**

Main definitions:

* `Ansi.sequenceLength` — the length of the escape sequence at the start of a text;
* `Ansi.strip` — a text without escape sequences.
-/

set_option autoImplicit false

namespace NotebookEngine

namespace Ansi

/-- The character that starts an escape sequence. -/
def escape : Char := Char.ofNat 27

/-- The character that ends an operating system command. -/
def bell : Char := Char.ofNat 7

/-- Whether the code of a character is within the bounds. -/
def within (lo hi : Nat) (c : Char) : Bool := lo ≤ c.toNat && c.toNat ≤ hi

/-- Whether the character is a parameter of a control sequence. -/
def isParameter (c : Char) : Bool := c.isDigit || c = ';' || c = '?'

/-- The length of a control sequence after its opening: parameters, intermediates, and a final. -/
def controlLength (cs : List Char) : Option Nat :=
  let afterParameters := cs.dropWhile isParameter
  match afterParameters.dropWhile (within 0x20 0x2F) with
  | c :: rest => if within 0x40 0x7E c then some (cs.length - rest.length) else none
  | [] => none

/-- The length of an operating system command after its opening: all up to the bell. -/
def commandLength (cs : List Char) : Option Nat :=
  match cs.dropWhile (· ≠ bell) with
  | _ :: rest => some (cs.length - rest.length)
  | [] => none

/-- The length of the escape sequence at the start of a text. -/
def sequenceLength : List Char → Option Nat
  | e :: '[' :: rest => if e = escape then (controlLength rest).map (· + 2) else none
  | e :: ']' :: rest => if e = escape then (commandLength rest).map (· + 2) else none
  | _ => none

/-- A text without escape sequences, after `skip` characters of one. -/
def stripFrom : Nat → List Char → List Char
  | _, [] => []
  | skip + 1, _ :: cs => stripFrom skip cs
  | 0, c :: cs =>
    match sequenceLength (c :: cs) with
    | some n => stripFrom (n - 1) cs
    | none => c :: stripFrom 0 cs

/-- A text without escape sequences. -/
def strip (s : String) : String := String.ofList (stripFrom 0 s.toList)

end Ansi

end NotebookEngine
