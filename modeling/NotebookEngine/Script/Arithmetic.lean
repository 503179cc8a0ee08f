/-
**Arithmetic of scripts.**

Numbers are floats; some operations cut them to 32 bits first.

Main definitions:

* `Script.toInteger` — a float without its fraction;
* `Script.toInt32`, `Script.toUint32` — the 32 bits of a number;
* `Script.remainder`, `Script.power` — the operations that differ from those of the machine;
* `Script.numberText` — how a number is written.
-/

import NotebookEngine.Decimal.Layout

set_option autoImplicit false

namespace NotebookEngine

namespace Script

/-! ### Integers -/

/-- The integer that a finite float is without its fraction. -/
def toInteger (x : Float) : Int :=
  let b := Decimal.decode x
  let n : Nat :=
    if b.exponent ≥ 0 then b.mantissa * Nat.pow 2 b.exponent.toNat
    else b.mantissa / Nat.pow 2 (-b.exponent).toNat
  if x < 0 then -(n : Int) else n

/-- The lowest 32 bits of a number without its fraction; none for what is no finite number. -/
def toUint32 (x : Float) : Nat :=
  if x.isFinite then (Int.emod (toInteger x) (Nat.pow 2 32)).toNat else 0

/-- The lowest 32 bits of a number, the first of which is its sign. -/
def toInt32 (x : Float) : Int := Int.bmod (toUint32 x) (Nat.pow 2 32)

/-- The number that 32 bits with a sign are. -/
def ofInt32 (i : Int) : Float := Float.ofInt (Int.bmod i (Nat.pow 2 32))

/-- An operation on the 32 bits of two numbers. -/
def bitwise (op : Nat → Nat → Nat) (x y : Float) : Float :=
  ofInt32 (op (toUint32 x) (toUint32 y))

/-- The bits moved to the left. -/
def shiftLeft (x y : Float) : Float := ofInt32 (toUint32 x * Nat.pow 2 (toUint32 y % 32))

/-- The bits moved to the right, the sign kept. -/
def shiftRight (x y : Float) : Float := ofInt32 (Int.fdiv (toInt32 x) (Nat.pow 2 (toUint32 y % 32)))

/-- The bits moved to the right, zeros put in. -/
def shiftRightZero (x y : Float) : Float := Float.ofNat (toUint32 x / Nat.pow 2 (toUint32 y % 32))

/-! ### Remainders and powers -/

/-- Not a number. -/
def nan : Float := 0.0 / 0.0

/-- Greater than all numbers. -/
def infinity : Float := 1.0 / 0.0

/-- Whether the sign of a float is set. -/
def isNegative (x : Float) : Bool := x.toBits.toNat ≥ Nat.pow 2 63

/-- The positive float that is a multiple of a power of two. -/
def ofBinary (m : Nat) (e : Int) : Float :=
  if e ≥ 0 then Float.ofNat (m * Nat.pow 2 e.toNat) else (Float.ofNat m).scaleB e

/-- What is left of `x` after the largest multiple of `y` that is no greater; it has the sign of `x`. -/
def remainder (x y : Float) : Float :=
  if x.isNaN || y.isNaN || x.isInf || y == 0 then nan
  else if y.isInf || x == 0 then x
  else
    let a := Decimal.decode x
    let b := Decimal.decode y
    let e := min a.exponent b.exponent
    let m := a.mantissa * Nat.pow 2 (a.exponent - e).toNat % (b.mantissa * Nat.pow 2 (b.exponent - e).toNat)
    let r := ofBinary m e
    if isNegative x then -r else r

/-- `x` to the power `y`. -/
def power (x y : Float) : Float :=
  if y.isNaN then nan
  else if y == 0 then 1
  else if y.isInf && (x == 1 || x == -1) then nan
  else x.pow y

/-! ### Texts -/

/-- How a number is written. -/
def numberText (x : Float) : String :=
  if x.isNaN then "NaN"
  else if x.isInf then (if x < 0 then "-Infinity" else "Infinity")
  else if x == 0 then "0"
  else Decimal.Layout.script.write x

end Script

end NotebookEngine
