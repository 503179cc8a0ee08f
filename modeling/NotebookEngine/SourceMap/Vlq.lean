/-
**Numbers of variable length.**

The mappings of a source map are written as differences, each in groups of five bits: the lowest group
comes first and holds the sign in its lowest bit, and a sixth bit says that more groups follow.

Main definitions:

* `Vlq.alphabet`, `Vlq.digit`, `Vlq.value?` — the sixty-four digits;
* `Vlq.encode` — the text of an integer;
* `Vlq.decode` — the integers of a text.
-/

import NotebookEngine.Text.Bytes

set_option autoImplicit false

namespace NotebookEngine

namespace Vlq

/-! ### Digits -/

/-- The digits in the order of their values. -/
def alphabet : List Char :=
  "ABCDEFGHIJKLMNOPQRSTUVWXYZabcdefghijklmnopqrstuvwxyz0123456789+/".toList

/-- The digit of a value. -/
def digit (n : Nat) : Char := alphabet[n]?.getD 'A'

/-- The value of a digit, given as a byte. -/
def value? (b : Nat) : Option Nat :=
  if 65 ≤ b ∧ b ≤ 90 then some (b - 65)
  else if 97 ≤ b ∧ b ≤ 122 then some (b - 71)
  else if 48 ≤ b ∧ b ≤ 57 then some (b + 4)
  else if b = 43 then some 62
  else if b = 47 then some 63
  else none

/-! ### Writing -/

/-- The groups of a natural number. -/
def groups (n : Nat) : List Char :=
  if n < 32 then [digit n] else digit (n % 32 + 32) :: groups (n / 32)
termination_by n

/-- An integer with its sign in the lowest bit. -/
def signed (i : Int) : Nat := if i < 0 then 2 * i.natAbs + 1 else 2 * i.natAbs

/-- The text of an integer. -/
def encode (i : Int) : List Char := groups (signed i)

/-! ### Reading -/

/-- The reasons a text holds no integers. -/
inductive Fault where
  | unfinished
  | tooLong
  deriving DecidableEq, Inhabited

/-- The integer whose sign is the lowest bit of a word of 64 bits. -/
def unsigned (bits : Nat) : Int :=
  let word : Nat := bits % Nat.pow 2 64
  let half : Int := (if word < Nat.pow 2 63 then (word : Int) else (word : Int) - Nat.pow 2 64) / 2
  if word % 2 = 1 then -half else half

/-- The integers of bytes, after the groups gathered in `word`; a byte that is no digit counts as a full
group that is continued. -/
def decodeFrom : Nat → Nat → List Nat → Except Fault (List Int)
  | _, shift, [] => if shift = 0 then .ok [] else .error .unfinished
  | word, shift, b :: bs =>
    let v := (value? b).getD 63
    if shift ≥ 64 then .error .tooLong
    else
      let word := word + v % 32 * Nat.pow 2 shift
      if v < 32 then do return unsigned word :: (← decodeFrom 0 0 bs)
      else decodeFrom word (shift + 5) bs

/-- The integers of a text. -/
def decode (text : List Char) : Except Fault (List Int) :=
  decodeFrom 0 0 (Text.toBytes (String.ofList text))

end Vlq

end NotebookEngine
