/-
**Text as code units.**

Scripts count the length of a text and cut it in units of 16 bits.  A character beyond the first 65536
takes two units; a unit that is half of such a pair and has lost its other half is kept as a character
of a private area (`Script.charOfCode`).

Main definitions:

* `Script.units`, `Script.unitAt?`, `Script.unitCount` — the units of a text, one of them, their number;
* `Script.ofUnits` — the text of units;
* `Script.append` — two texts one after the other, halves that meet joined;
* `Script.slice` — a stretch of a text, counted in units.
-/

import NotebookEngine.Script.Lexer

set_option autoImplicit false

namespace NotebookEngine

namespace Script

/-! ### Units of characters -/

/-- The units of a character. -/
def unitsOfChar (c : Char) : List Nat :=
  match halfUnit? c with
  | some u => [u]
  | none =>
    let n := c.toNat
    if n < 0x10000 then [n] else [0xD800 + (n - 0x10000) / 0x400, 0xDC00 + (n - 0x10000) % 0x400]

/-- Whether a unit opens a pair. -/
def opensPair (u : Nat) : Bool := 0xD800 ≤ u && u < 0xDC00

/-- Whether a unit closes a pair. -/
def closesPair (u : Nat) : Bool := 0xDC00 ≤ u && u < 0xE000

/-- The character of a pair of units. -/
def charOfPair (hi lo : Nat) : Char :=
  Char.ofNat (0x10000 + (hi - 0xD800) * 0x400 + (lo - 0xDC00))

/-! ### Units of texts -/

/-- The units of a text. -/
def units (s : String) : Array Nat :=
  s.toList.foldl (fun us c => (unitsOfChar c).foldl Array.push us) #[]

/-- Whether every character of a text takes a single byte, and so is a unit. -/
def isPlain (s : String) : Bool := s.utf8ByteSize = s.length

/-- The character at a place of a text whose characters take a single byte each. -/
def plainChar (s : String) (i : Nat) : Char := String.Pos.Raw.get s ⟨i⟩

/-- The number of units of a text. -/
def unitCount (s : String) : Nat :=
  if isPlain s then s.length else s.toList.foldl (fun n c => n + (unitsOfChar c).length) 0

/-- The unit at a place of a text. -/
def unitAt? (s : String) (i : Nat) : Option Nat :=
  if isPlain s then (if i < s.length then some (plainChar s i).toNat else none) else (units s)[i]?

/-- A text followed by the characters of units. -/
def pushUnits (s : String) : List Nat → String
  | [] => s
  | [u] => s.push (charOfCode u)
  | hi :: lo :: rest =>
    if opensPair hi && closesPair lo then pushUnits (s.push (charOfPair hi lo)) rest
    else pushUnits (s.push (charOfCode hi)) (lo :: rest)

/-- The text of units. -/
def ofUnits (us : List Nat) : String := pushUnits "" us

/-- The text of a stretch of units. -/
def ofUnitsBetween (us : Array Nat) (lo hi : Nat) : String := ofUnits (us.extract lo hi).toList

/-- Two texts one after the other. -/
def append (s t : String) : String :=
  if t.isEmpty then s
  else
    match halfUnit? t.front with
    | some lo =>
      match s.toList.getLast?.bind halfUnit? with
      | some hi =>
        if opensPair hi && closesPair lo then
          String.ofList (s.toList.dropLast ++ charOfPair hi lo :: t.toList.tail)
        else s ++ t
      | none => s ++ t
    | none => s ++ t

/-- Texts one after the other. -/
def appendAll (texts : List String) : String := texts.foldl append ""

/-- The stretch of a text from one unit to before another. -/
def slice (s : String) (lo hi : Nat) : String :=
  if isPlain s then String.Pos.Raw.extract s ⟨lo⟩ ⟨min hi s.length⟩ else ofUnitsBetween (units s) lo hi

/-- Whether one text comes before another by their units. -/
def textBefore (s t : String) : Bool := (units s).toList < (units t).toList

end Script

end NotebookEngine
