/-
**Text from bytes.**

A program's output is bytes.  Where they are not UTF-8, each ill-formed stretch is shown as one
replacement character.

Main definitions:

* `Text.sequence?` — the character at the start of some bytes;
* `Text.ofBytes` — all characters, ill-formed stretches replaced.
-/

set_option autoImplicit false

namespace NotebookEngine

namespace Text

/-- The character that stands for bytes that are no text. -/
def replacement : Char := Char.ofNat 0xFFFD

/-- The number of bytes that follow a first byte, with the least and greatest second byte and the bits
that the first byte gives. -/
def leadByte (b : Nat) : Option (Nat × Nat × Nat × Nat) :=
  if b < 0x80 then some (0, 0, 0, b)
  else if 0xC2 ≤ b ∧ b ≤ 0xDF then some (1, 0x80, 0xBF, b - 0xC0)
  else if b = 0xE0 then some (2, 0xA0, 0xBF, b - 0xE0)
  else if b = 0xED then some (2, 0x80, 0x9F, b - 0xE0)
  else if 0xE1 ≤ b ∧ b ≤ 0xEF then some (2, 0x80, 0xBF, b - 0xE0)
  else if b = 0xF0 then some (3, 0x90, 0xBF, b - 0xF0)
  else if 0xF1 ≤ b ∧ b ≤ 0xF3 then some (3, 0x80, 0xBF, b - 0xF0)
  else if b = 0xF4 then some (3, 0x80, 0x8F, b - 0xF0)
  else none

/-- The bytes read as continuation of a character whose bits so far are `bits`: `none` if they break
off, with the number that were right. -/
def continuation : Nat → Nat → Nat → Nat → Nat → List Nat → Option Char × Nat
  | 0, _, _, bits, used, _ => (some (Char.ofNat bits), used)
  | _ + 1, _, _, _, used, [] => (none, used)
  | n + 1, lo, hi, bits, used, b :: bs =>
    if lo ≤ b ∧ b ≤ hi then continuation n 0x80 0xBF (bits * 64 + (b - 0x80)) (used + 1) bs
    else (none, used)

/-- The character at the start of some bytes, if they are well formed, and the bytes it covers beyond
the first. -/
def sequence? (b : Nat) (bs : List Nat) : Option Char × Nat :=
  match leadByte b with
  | none => (none, 0)
  | some (n, lo, hi, bits) => continuation n lo hi bits 0 bs

/-- The characters of bytes after `skip` bytes that belong to the character before. -/
def charsOfBytes : Nat → List Nat → List Char
  | _, [] => []
  | skip + 1, _ :: bs => charsOfBytes skip bs
  | 0, b :: bs =>
    match sequence? b bs with
    | (some c, used) => c :: charsOfBytes used bs
    | (none, used) => replacement :: charsOfBytes used bs

/-- The text of bytes, ill-formed stretches replaced. -/
def ofBytes (bs : List Nat) : String := String.ofList (charsOfBytes 0 bs)

/-- The bytes of a text. -/
def toBytes (s : String) : List Nat := s.toUTF8.toList.map UInt8.toNat

end Text

end NotebookEngine
