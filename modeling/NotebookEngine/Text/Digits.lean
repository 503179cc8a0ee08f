/-
**Decimal digits.**

Main definitions:

* `Text.digitZeros`, `Text.isDecimalDigit` — the characters of the Unicode category of decimal digits;
* `Text.nat32?` — the number below `2 ^ 32` that a text of ASCII digits stands for.
-/

set_option autoImplicit false

namespace NotebookEngine

namespace Text

/-- The zeros of the Unicode digits; each is followed by its digits one to nine. -/
def digitZeros : List Nat :=
  [0x30, 0x660, 0x6F0, 0x7C0, 0x966, 0x9E6, 0xA66, 0xAE6, 0xB66, 0xBE6, 0xC66, 0xCE6, 0xD66, 0xDE6,
    0xE50, 0xED0, 0xF20, 0x1040, 0x1090, 0x17E0, 0x1810, 0x1946, 0x19D0, 0x1A80, 0x1A90, 0x1B50,
    0x1BB0, 0x1C40, 0x1C50, 0xA620, 0xA8D0, 0xA900, 0xA9D0, 0xA9F0, 0xAA50, 0xABF0, 0xFF10, 0x104A0,
    0x10D30, 0x10D40, 0x11066, 0x110F0, 0x11136, 0x111D0, 0x112F0, 0x11450, 0x114D0, 0x11650,
    0x116C0, 0x116D0, 0x116DA, 0x11730, 0x118E0, 0x11950, 0x11BF0, 0x11C50, 0x11D50, 0x11DA0,
    0x11F50, 0x16A60, 0x16AC0, 0x16B50, 0x1CCF0, 0x1D7CE, 0x1D7D8, 0x1D7E2, 0x1D7EC, 0x1D7F6,
    0x1E140, 0x1E2F0, 0x1E4F0, 0x1E5F1, 0x1E950, 0x1FBF0]

/-- Whether the character is a decimal digit of any script. -/
def isDecimalDigit (c : Char) : Bool :=
  digitZeros.any fun z => z ≤ c.toNat && c.toNat ≤ z + 9

/-- The digits zero to nine are decimal digits. -/
theorem isDecimalDigit_of_isDigit (c : Char) (h : c.isDigit = true) : isDecimalDigit c = true := by
  have hz : (0x30 : Nat) ∈ digitZeros := by simp [digitZeros]
  refine List.any_eq_true.2 ⟨0x30, hz, ?_⟩
  simp only [Char.isDigit, Bool.and_eq_true, decide_eq_true_eq] at h
  have h1 : (48 : Nat) ≤ c.toNat := UInt32.le_iff_toNat_le.1 h.1
  have h2 : c.toNat ≤ 57 := UInt32.le_iff_toNat_le.1 h.2
  simp only [Bool.and_eq_true, decide_eq_true_eq]
  omega

/-- The number that ASCII digits stand for, after the digits already gathered. -/
def natOfDigits : Nat → List Char → Option Nat
  | n, [] => some n
  | n, c :: cs => if '0' ≤ c ∧ c ≤ '9' then natOfDigits (n * 10 + (c.toNat - 48)) cs else none

/-- The number below `2 ^ 32` that a text of digits stands for; a plus sign may precede them. -/
def nat32? (cs : List Char) : Option Nat :=
  let digits := match cs with
    | '+' :: rest => rest
    | cs => cs
  if digits.isEmpty then none else (natOfDigits 0 digits).filter (· < Nat.pow 2 32)

end Text

end NotebookEngine
