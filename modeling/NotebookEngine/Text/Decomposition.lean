/-
**Decomposed and composed text.**

A letter with a mark can be written as one character or as two.  To compare texts, all characters are taken
apart and their marks put into a fixed order; then they may be put together again.

Main definitions:

* `Decomposition.decomposed` — characters taken apart;
* `Decomposition.ordered` — marks in order;
* `Decomposition.composed` — characters put together;
* `Decomposition.Form`, `Decomposition.normalize` — the four forms of a text.
-/

import NotebookEngine.Script.Letters
import NotebookEngine.Text.DecompositionTable
import Std.Data.HashMap.Basic

set_option autoImplicit false

namespace NotebookEngine

namespace Decomposition

/-! ### Tables -/

/-- A row of a table: the first and the last character, and what belongs to the first. -/
def readRow (row : String) : Option (Nat × Nat × List Nat) :=
  match row.splitOn ":" with
  | [range, parts] =>
    let (lo, hi) := Script.rangeBounds range
    some (lo, hi, (parts.splitOn ".").map fun p => Script.hexNumber p.toList)
  | _ => none

/-- The rows of a table. -/
def readRows (table : String) : List (Nat × Nat × List Nat) :=
  ((table.map fun c => if c = '\n' then ' ' else c).splitOn " ").filterMap readRow

/-- What the characters of a table are made of. -/
def partsTable (table : String) : Std.HashMap Nat (List Nat) :=
  (readRows table).foldl (fun m (lo, hi, parts) =>
    (List.range (hi + 1 - lo)).foldl (fun m i =>
      m.insert (lo + i) (match parts with
        | [p] => [p + i]
        | ps => ps)) m) ∅

/-- The parts of characters that are the same as others. -/
def canonical : Thunk (Std.HashMap Nat (List Nat)) := ⟨fun _ => partsTable canonicalRows⟩

/-- The parts of characters that differ from others only in how they look. -/
def compatible : Thunk (Std.HashMap Nat (List Nat)) := ⟨fun _ => partsTable compatibleRows⟩

/-- The classes of marks. -/
def classes : Thunk (Std.HashMap Nat Nat) :=
  ⟨fun _ => (readRows classRows).foldl (fun m (lo, hi, parts) =>
    (List.range (hi + 1 - lo)).foldl (fun m i => m.insert (lo + i) (parts.headD 0)) m) ∅⟩

/-- The characters that two characters are put together to. -/
def pairs : Thunk (Std.HashMap (Nat × Nat) Nat) :=
  ⟨fun _ =>
    let skipped := (Script.readRanges excluded).toList
    canonical.get.fold (fun m c parts =>
      match parts with
      | [a, b] => if skipped.any fun (lo, hi) => lo ≤ c && c ≤ hi then m else m.insert (a, b) c
      | _ => m) ∅⟩

/-- The class of a character, zero if it is no mark. -/
def classOf (c : Nat) : Nat := (classes.get.get? c).getD 0

/-! ### Syllables -/

/-- The first of the Korean syllables. -/
def firstSyllable : Nat := 0xAC00

/-- The number of Korean syllables. -/
def syllableCount : Nat := 11172

/-- The parts of a Korean syllable. -/
def syllableParts (c : Nat) : List Nat :=
  let i := c - firstSyllable
  [0x1100 + i / 588, 0x1161 + i % 588 / 28] ++ (if i % 28 = 0 then [] else [0x11A7 + i % 28])

/-- The Korean syllable that two parts are put together to. -/
def syllable? (a b : Nat) : Option Nat :=
  if 0x1100 ≤ a && a < 0x1113 && 0x1161 ≤ b && b < 0x1176 then
    some (firstSyllable + ((a - 0x1100) * 21 + (b - 0x1161)) * 28)
  else if firstSyllable ≤ a && a < firstSyllable + syllableCount && (a - firstSyllable) % 28 = 0 &&
      0x11A8 ≤ b && b < 0x11C3 then
    some (a + (b - 0x11A7))
  else none

/-! ### Forms -/

/-- The characters that a character is made of; no character has parts within parts deeper than `n`. -/
def decompose (looks : Bool) : Nat → Nat → List Nat
  | 0, c => [c]
  | n + 1, c =>
    if firstSyllable ≤ c && c < firstSyllable + syllableCount then syllableParts c
    else
      match canonical.get.get? c with
      | some parts => parts.flatMap (decompose looks n)
      | none =>
        match if looks then compatible.get.get? c else none with
        | some parts => parts.flatMap (decompose looks n)
        | none => [c]

/-- Characters taken apart. -/
def decomposed (looks : Bool) (cs : List Nat) : List Nat := cs.flatMap (decompose looks 16)

/-- Marks in the order of their classes, those of one class as they were. -/
def ordered : List Nat → List Nat
  | cs => go cs []
where
  /-- The rest in order, after marks that have been met, the last first. -/
  go : List Nat → List Nat → List Nat
    | [], marks => inOrder marks
    | c :: cs, marks =>
      if classOf c = 0 then inOrder marks ++ c :: go cs [] else go cs (c :: marks)
  /-- Marks in order, given the last first. -/
  inOrder (marks : List Nat) : List Nat :=
    marks.reverse.mergeSort fun a b => classOf a ≤ classOf b

/-- The character that two characters are put together to. -/
def pair? (a b : Nat) : Option Nat := (syllable? a b).orElse fun _ => pairs.get.get? (a, b)

/-- Characters put together: `start?` is the last one that marks may join, `between` what lies between it
and the rest, the last first. -/
def compose (start? : Option Nat) (between : List Nat) : List Nat → List Nat
  | [] => start?.toList ++ between.reverse
  | c :: cs =>
    let blocked := between.any fun m => classOf m = 0 || classOf m ≥ classOf c
    match if blocked then none else start?.bind fun s => pair? s c with
    | some joined => compose (some joined) between cs
    | none =>
      if classOf c = 0 then start?.toList ++ between.reverse ++ compose (some c) [] cs
      else compose start? (c :: between) cs

/-- Characters put together. -/
def composed (cs : List Nat) : List Nat := compose none [] cs

/-- The forms of a text. -/
structure Form where
  /-- Characters that differ only in how they look become the same. -/
  looks : Bool
  /-- Characters are put together again. -/
  composes : Bool

/-- The form with a name. -/
def Form.ofName? : String → Option Form
  | "NFC" => some ⟨false, true⟩
  | "NFD" => some ⟨false, false⟩
  | "NFKC" => some ⟨true, true⟩
  | "NFKD" => some ⟨true, false⟩
  | _ => none

/-- A text in a form. -/
def normalize (f : Form) (s : String) : String :=
  if s.toList.all fun c => c.toNat < 0x80 then s
  else
    let cs := ordered (decomposed f.looks (s.toList.map Char.toNat))
    String.ofList ((if f.composes then composed cs else cs).map Char.ofNat)

end Decomposition

end NotebookEngine
