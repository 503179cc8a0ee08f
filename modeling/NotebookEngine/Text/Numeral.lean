/-
**Reading numbers from text.**

Main definitions:

* `Numeral.ofText` — the number that a whole text writes;
* `Numeral.decimalStart` — the number that the start of a text writes;
* `Numeral.integerStart` — the integer in some base that the start of a text writes;
* `Numeral.bigint?` — the integer that a whole text writes;
* `Numeral.inBase` — a number written in some base.
-/

import NotebookEngine.Script.Arithmetic
import NotebookEngine.Script.Letters

set_option autoImplicit false

namespace NotebookEngine

namespace Numeral

/-! ### Digits -/

/-- The value of a digit in bases up to 36. -/
def digit? (c : Char) : Option Nat :=
  if c.isDigit then some (c.toNat - 48)
  else if 'a' ≤ c && c ≤ 'z' then some (c.toNat - 87)
  else if 'A' ≤ c && c ≤ 'Z' then some (c.toNat - 55)
  else none

/-- Whether a character is a digit of a base. -/
def isDigitOf (base : Nat) (c : Char) : Bool := (digit? c).any fun d => d < base

/-- The number that digits of a base write. -/
def ofDigits (base : Nat) (cs : List Char) : Nat :=
  cs.foldl (fun n c => n * base + (digit? c).getD 0) 0

/-- Whether a character is blank or ends a line. -/
def isGap (c : Char) : Bool := Script.isSpace c || Script.isLineEnd c

/-- Text without the blanks at its start and its end. -/
def trimChars (cs : List Char) : List Char :=
  ((cs.dropWhile isGap).reverse.dropWhile isGap).reverse

/-! ### Decimal numbers -/

/-- A power of ten times a natural number. -/
def scaled (n : Nat) (exponent : Int) : Float :=
  if n = 0 then 0
  else if exponent > 400 then Script.infinity
  else if exponent < -400 - (Nat.log2 n : Int) then 0
  else if exponent < 0 then Float.ofScientific n true exponent.natAbs
  else Float.ofScientific n false exponent.toNat

/-- The exponent that the start of a text writes, and the text after it. -/
def exponentStart (cs : List Char) : Int × List Char :=
  match cs with
  | e :: rest =>
    if e = 'e' || e = 'E' then
      let (negative, after) := match rest with
        | '-' :: r => (true, r)
        | '+' :: r => (false, r)
        | r => (false, r)
      let ds := after.takeWhile Char.isDigit
      if ds.isEmpty then (0, cs)
      else
        let n : Int := ofDigits 10 ds
        (if negative then -n else n, after.drop ds.length)
    else (0, cs)
  | [] => (0, cs)

/-- The number without sign that the start of a text writes in decimal, and the text after it. -/
def unsignedStart (cs : List Char) : Option (Float × List Char) :=
  if "Infinity".toList.isPrefixOf cs then some (Script.infinity, cs.drop 8)
  else
    let whole := cs.takeWhile Char.isDigit
    let rest := cs.drop whole.length
    let (part, rest) := match rest with
      | '.' :: after => let ds := after.takeWhile Char.isDigit
        if whole.isEmpty && ds.isEmpty then ([], rest) else (ds, after.drop ds.length)
      | _ => ([], rest)
    if whole.isEmpty && part.isEmpty then none
    else
      let (exponent, rest) := exponentStart rest
      some (scaled (ofDigits 10 (whole ++ part)) (exponent - part.length), rest)

/-- The number that the start of a text writes in decimal, and the text after it. -/
def decimalStart (cs : List Char) : Option (Float × List Char) :=
  match cs with
  | '-' :: rest => (unsignedStart rest).map fun (x, r) => (-x, r)
  | '+' :: rest => unsignedStart rest
  | rest => unsignedStart rest

/-- The integer that a text writes with a mark of its base. -/
def marked? (cs : List Char) : Option Nat :=
  let read (base : Nat) (ds : List Char) : Option Nat :=
    if !ds.isEmpty && ds.all (isDigitOf base) then some (ofDigits base ds) else none
  match cs with
  | '0' :: m :: ds =>
    if m = 'x' || m = 'X' then read 16 ds
    else if m = 'o' || m = 'O' then read 8 ds
    else if m = 'b' || m = 'B' then read 2 ds
    else none
  | _ => none

/-- The number that a whole text writes; what writes none is not a number. -/
def ofText (s : String) : Float :=
  match trimChars s.toList with
  | [] => 0
  | cs =>
    match marked? cs with
    | some n => Float.ofNat n
    | none =>
      match decimalStart cs with
      | some (x, []) => x
      | _ => Script.nan

/-! ### Integers -/

/-- The integer in a base that the start of a text writes; base 0 means the usual one. -/
def integerStart (s : String) (base : Nat) : Float :=
  let cs := s.toList.dropWhile isGap
  let (negative, cs) := match cs with
    | '-' :: r => (true, r)
    | '+' :: r => (false, r)
    | r => (false, r)
  let (base, cs) :=
    if base = 0 || base = 16 then
      match cs with
      | '0' :: x :: r => if x = 'x' || x = 'X' then (16, r) else (if base = 0 then 10 else base, cs)
      | _ => (if base = 0 then 10 else base, cs)
    else (base, cs)
  let ds := cs.takeWhile (isDigitOf base)
  if base < 2 || base > 36 || ds.isEmpty then Script.nan
  else
    let x := if base = 10 then scaled (ofDigits 10 ds) 0 else Float.ofNat (ofDigits base ds)
    if negative then -x else x

/-- The integer that a whole text writes. -/
def bigint? (s : String) : Option Int :=
  match trimChars s.toList with
  | [] => some 0
  | cs =>
    match marked? cs with
    | some n => some n
    | none =>
      let (negative, ds) := match cs with
        | '-' :: r => (true, r)
        | '+' :: r => (false, r)
        | r => (false, r)
      if !ds.isEmpty && ds.all Char.isDigit then
        let n : Int := ofDigits 10 ds
        some (if negative then -n else n)
      else none

/-! ### Writing in a base -/

/-- The digit of a value in bases up to 36. -/
def digitChar (d : Nat) : Char := if d < 10 then Char.ofNat (48 + d) else Char.ofNat (87 + d)

/-- The digits of a natural number, added before others. -/
def digitsBefore (base : Nat) : Nat → Nat → List Char → List Char
  | 0, _, acc => acc
  | fuel + 1, n, acc =>
    let acc := digitChar (n % base) :: acc
    if n / base = 0 then acc else digitsBefore base fuel (n / base) acc

/-- A natural number written in a base. -/
def natInBase (base n : Nat) : String := String.ofList (digitsBefore base (Nat.log2 n + 1) n [])

/-- An integer written in a base. -/
def intInBase (base : Nat) (i : Int) : String :=
  if i < 0 then "-" ++ natInBase base i.natAbs else natInBase base i.natAbs

/-- The greatest number below which all whole numbers are floats. -/
def greatestSafe : Nat := Nat.pow 2 53 - 1

/-- The digits of a whole number, added before others. While what is left cannot be told from its
neighbours its digits are zeros. -/
def roughDigits (base : Float) : Nat → Float → List Char → List Char
  | 0, _, acc => acc
  | fuel + 1, x, acc =>
    if x < base then digitChar x.toUInt64.toNat :: acc
    else
      let left := (x / base).floor
      let d := if left ≥ Float.ofNat greatestSafe then 0 else Script.remainder x base
      roughDigits base fuel left (digitChar d.toUInt64.toNat :: acc)

/-- The digits of a fraction, the last first, and what is left of it: as many as a float can hold,
`number` being all digits so far and `room` the binary places that are left. -/
def fractionDigits (base : Nat) (digitPlaces : Float) :
    Nat → Float → Nat → Float → List Char → List Char × Float
  | 0, fraction, _, _, acc => (acc, fraction)
  | fuel + 1, fraction, number, room, acc =>
    if fraction == 0 || number > greatestSafe / 2 || room ≤ 0 then (acc, fraction)
    else
      let scaled := fraction * Float.ofNat base
      let d := scaled.floor
      let n := d.toUInt64.toNat
      fractionDigits base digitPlaces fuel (scaled - d) (number * base + n) (room - digitPlaces)
        (digitChar n :: acc)

/-- The digit after another one. -/
def nextDigit (c : Char) : Char := if c = '9' then 'a' else Char.ofNat (c.toNat + 1)

/-- Digits, the last first, with one added to the last. -/
def incremented (nine : Char) : List Char → List Char
  | [] => ['1']
  | c :: cs => if c = nine then '0' :: incremented nine cs else nextDigit c :: cs

/-- The text of whole digits and the digits of a fraction, the last first, of which `left` is left. -/
def roundedText (base : Nat) (whole fraction : List Char) (left : Float) : String :=
  let nine := digitChar (base - 1)
  let up := left * Float.ofNat base ≥ Float.ofNat (base / 2)
  let fraction := fraction.dropWhile fun c => c = (if up then nine else '0')
  match fraction with
  | [] => String.ofList (if up then (incremented nine whole.reverse).reverse else whole)
  | c :: cs => String.ofList (whole ++ '.' :: ((if up then nextDigit c else c) :: cs).reverse)

/-- A finite number written in a base. -/
def inBase (base : Nat) (x : Float) : String :=
  let a := x.abs
  let whole := a.floor
  let sign := if x < 0 then "-" else ""
  if whole > Float.ofNat greatestSafe then
    sign ++ String.ofList (roughDigits (Float.ofNat base) 1100 whole [])
  else
    let digits := (natInBase base whole.toUInt64.toNat).toList
    let fraction := a - whole
    if fraction == 0 then sign ++ String.ofList digits
    else
      let (found, left) :=
        fractionDigits base (Float.ofNat base).log2 1100 fraction whole.toUInt64.toNat 1074 []
      sign ++ roundedText base digits found left

end Numeral

end NotebookEngine
