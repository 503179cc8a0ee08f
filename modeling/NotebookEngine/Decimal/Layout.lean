/-
**Laying out decimal digits as text.**

The digits of a float come from `Decimal.shortest`; where the point goes, when an exponent is written
and what integers end in are decisions of a format, gathered in one record per format.

Main definitions:

* `Decimal.Layout` — the decisions;
* `Decimal.Layout.json`, `Decimal.Layout.script` — the two formats of the program;
* `Decimal.Layout.write` — the text of a finite float;
* `Decimal.fixed` — a float rounded to a fixed number of places.
-/

import NotebookEngine.Decimal.Shortest

set_option autoImplicit false

namespace NotebookEngine

namespace Decimal

/-! ### Formats -/

/-- The decisions of a float format. The *point position* of a decimal is the number of digits before
its point; it is negative or zero for a decimal below one tenth or one. -/
structure Layout where
  /-- The largest point position that is written without an exponent. -/
  maxPoint : Int
  /-- The least point position that is written without an exponent. -/
  minPoint : Int
  /-- Whether integers end in a point and a zero. -/
  pointAlways : Bool
  /-- Whether the sign of zero is written. -/
  signedZero : Bool

/-- Numbers of JSON documents. -/
def Layout.json : Layout := ⟨16, -4, true, true⟩

/-- Numbers as the script language prints them. -/
def Layout.script : Layout := ⟨21, -5, false, false⟩

/-- A run of zeros. -/
def zeros (n : Nat) : String := String.ofList (List.replicate n '0')

/-- The text of positive decimal digits. -/
def Layout.writeDigits (l : Layout) (d : Digits) : String :=
  let ds := toString d.digits
  let count : Int := Int.ofNat ds.length
  let point := count + d.exponent
  if d.exponent ≥ 0 ∧ point ≤ l.maxPoint then
    ds ++ zeros d.exponent.toNat ++ (if l.pointAlways then ".0" else "")
  else if 0 < point ∧ point ≤ l.maxPoint then
    String.ofList (ds.toList.take point.toNat) ++ "." ++ String.ofList (ds.toList.drop point.toNat)
  else if l.minPoint ≤ point ∧ point ≤ 0 then
    "0." ++ zeros (-point).toNat ++ ds
  else
    let e := point - 1
    let sign := if e < 0 then "-" else "+"
    let head := String.ofList (ds.toList.take 1)
    let tail := String.ofList (ds.toList.drop 1)
    head ++ (if tail.isEmpty then "" else "." ++ tail) ++ "e" ++ sign ++ toString e.natAbs

/-- The text of a finite float. -/
def Layout.write (l : Layout) (x : Float) : String :=
  if x == 0 then
    let negative := x.toBits ≠ 0
    (if negative ∧ l.signedZero then "-0" else "0") ++ (if l.pointAlways then ".0" else "")
  else if x < 0 then "-" ++ l.writeDigits (shortest (-x))
  else l.writeDigits (shortest x)

/-! ### A fixed number of places -/

/-- The quotient rounded to the nearest integer, a half going up. -/
def roundDiv (num den : Nat) : Nat := (2 * num + den) / (2 * den)

/-- The nonnegative decimal `n / 10 ^ places` with exactly that many places. -/
def placed (n places : Nat) : String :=
  if places = 0 then toString n
  else
    let ds := toString n
    let padded := zeros (places + 1 - ds.length) ++ ds
    let cut := padded.length - places
    String.ofList (padded.toList.take cut) ++ "." ++ String.ofList (padded.toList.drop cut)

/-- The magnitude of a finite float with the given number of places, a half going up. -/
def fixed (x : Float) (places : Nat) : String :=
  let b := decode x
  let v := Ratio.binary b.mantissa b.exponent
  placed (roundDiv (v.num * Nat.pow 10 places) v.den) places

/-- The decimal of `count` significant digits that is nearest to a positive float, a half going up. -/
def significant (x : Float) (count : Nat) : Digits :=
  let b := decode x
  let v := Ratio.binary b.mantissa b.exponent
  let scale := scaleOf v - (count : Int) + 1
  let n := if scale ≥ 0 then roundDiv v.num (v.den * Nat.pow 10 scale.toNat)
    else roundDiv (v.num * Nat.pow 10 scale.natAbs) v.den
  if n ≥ Nat.pow 10 count then ⟨n / 10, scale + 1⟩ else ⟨n, scale⟩

/-- A decimal with one digit before its point and an exponent. -/
def scientific (d : Digits) : String :=
  let ds := (toString d.digits).toList
  let e := d.exponent + ds.length - 1
  let tail := ds.drop 1
  String.ofList (ds.take 1) ++ (if tail.isEmpty then "" else "." ++ String.ofList tail) ++ "e" ++
    (if e < 0 then "-" else "+") ++ toString e.natAbs

end Decimal

end NotebookEngine
