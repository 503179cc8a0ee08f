/-
**Floats nearest to exact results.**

The functions of this module compute with integers of any size, and round once, at the end.  Where a
result cannot be written down exactly, it is known to hundreds of binary places before it is rounded.

Main definitions:

* `Script.nearest` — the float nearest to a quotient;
* `Script.floorRoot` — the whole part of a root;
* `Script.sumNearest`, `Script.hypotenuse`, `Script.cubeRoot` — sums and roots;
* `Script.expOneLess`, `Script.logOneMore` — exponentials and logarithms near one.
-/

import NotebookEngine.Script.Arithmetic

set_option autoImplicit false

namespace NotebookEngine

namespace Script

/-! ### Rounding -/

/-- A quotient rounded to a whole number, a half to the even one. -/
def roundEven (num den : Nat) : Nat :=
  let q := num / den
  let r := 2 * (num % den)
  if r > den || (r = den && q % 2 = 1) then q + 1 else q

/-- The exponent of two that scales a quotient to a whole number of 53 bits, or of fewer if it is near
zero. -/
def unitExponent (num den : Nat) : Int :=
  let e : Int := (Nat.log2 num : Int) - Nat.log2 den - 52
  let e := if num * Nat.pow 2 (-e).toNat < den * Nat.pow 2 e.toNat * Nat.pow 2 52 then e - 1 else e
  max e (-1074)

/-- The float nearest to a quotient that is not negative. -/
def nearest (num den : Nat) : Float :=
  if num = 0 then 0
  else
    let e := unitExponent num den
    (Float.ofNat (roundEven (num * Nat.pow 2 (-e).toNat) (den * Nat.pow 2 e.toNat))).scaleB e

/-- The float nearest to an integer divided by a power of two. -/
def nearestFixed (i : Int) (places : Nat) : Float :=
  let x := nearest i.natAbs (Nat.pow 2 places)
  if i < 0 then -x else x

/-! ### Roots -/

/-- The greatest number whose power is at most `n`, the bits from the `bits`-th on being known. -/
def rootBits (power n : Nat) : Nat → Nat → Nat
  | 0, r => r
  | bits + 1, r =>
    let r' := r + Nat.pow 2 bits
    rootBits power n bits (if Nat.pow r' power ≤ n then r' else r)

/-- The greatest number whose power is at most `n`. -/
def floorRoot (power n : Nat) : Nat := rootBits power n (Nat.log2 n / power + 1) 0

/-- The float nearest to a root of `n * 2 ^ (power * e)`. -/
def nearestRoot (power n : Nat) (e : Int) : Float :=
  if n = 0 then 0
  else
    let r := floorRoot power (n * Nat.pow 2 (power * 128))
    let r := 2 * r + (if Nat.pow r power = n * Nat.pow 2 (power * 128) then 0 else 1)
    let e := e - 129
    nearest (r * Nat.pow 2 e.toNat) (Nat.pow 2 (-e).toNat)

/-- The cube root of a number. -/
def cubeRoot (x : Float) : Float :=
  if !x.isFinite || x == 0 then x
  else
    let b := Decimal.decode x.abs
    let shift := (Int.emod b.exponent 3).toNat
    let y := nearestRoot 3 (b.mantissa * Nat.pow 2 shift) ((b.exponent - shift) / 3)
    if x < 0 then -y else y

/-- The root of the sum of two squares. -/
def hypotenuse (x y : Float) : Float :=
  if x.isInf || y.isInf then infinity
  else if x.isNaN || y.isNaN then nan
  else
    let a := Decimal.decode x.abs
    let b := Decimal.decode y.abs
    let e := min a.exponent b.exponent
    let m := a.mantissa * Nat.pow 2 (a.exponent - e).toNat
    let n := b.mantissa * Nat.pow 2 (b.exponent - e).toNat
    nearestRoot 2 (m * m + n * n) e

/-! ### Sums -/

/-- A finite float as a multiple of the least positive one. -/
def inLeastUnits (x : Float) : Int :=
  let b := Decimal.decode x.abs
  let n : Int := (b.mantissa * Nat.pow 2 (b.exponent + 1074).toNat : Nat)
  if x < 0 then -n else n

/-- The float nearest to the sum of floats; it is only negative zero if none of them is anything else. -/
def sumNearest (xs : List Float) : Float :=
  if xs.any Float.isNaN then nan
  else if xs.any Float.isInf then (xs.filter Float.isInf).foldl (· + ·) 0
  else if xs.all fun x => x == 0 && isNegative x then -0.0
  else nearestFixed (xs.foldl (fun n x => n + inLeastUnits x) 0) 1074

/-! ### Exponentials and logarithms -/

/-- The binary places that the series are summed with. -/
def places : Nat := 400

/-- A float that is not too small, with `places` binary places. -/
def toFixed (x : Float) : Int :=
  let b := Decimal.decode x.abs
  let n : Int := (b.mantissa * Nat.pow 2 (b.exponent + places).toNat : Nat)
  if x < 0 then -n else n

/-- The product of two numbers with `places` binary places. -/
def timesFixed (i j : Int) : Int := Int.fdiv (i * j) (Nat.pow 2 places)

/-- The terms of the exponential series of `t` from the `k`-th on, which is `term`. -/
def expTerms (t : Int) : Nat → Nat → Int → Int
  | 0, _, _ => 0
  | n + 1, k, term => term + expTerms t n (k + 1) (Int.fdiv (timesFixed term t) (k + 1))

/-- One less than the square of one more than a number, again and again. -/
def squareOneMore : Nat → Int → Int
  | 0, s => s
  | n + 1, s => squareOneMore n (2 * s + timesFixed s s)

/-- One less than the exponential of a number. -/
def expOneLess (x : Float) : Float :=
  if x.isNaN || x.abs < 1e-18 then x
  else if x > 45 then x.exp
  else if x < -45 then -1
  else
    let t := Int.fdiv (toFixed x) (Nat.pow 2 10)
    nearestFixed (squareOneMore 10 (expTerms t 100 1 t)) places

/-- The odd powers of `z` divided by their exponents, from the `k`-th on, which is `power`. -/
def oddTerms (square : Int) : Nat → Nat → Int → Int
  | 0, _, _ => 0
  | n + 1, k, power => Int.fdiv power k + oddTerms square n (k + 2) (timesFixed power square)

/-- The logarithm of a quotient that is near one. -/
def logFixed (num den : Int) : Int :=
  let z := Int.fdiv ((num - den) * Nat.pow 2 places) (num + den)
  2 * oddTerms (timesFixed z z) 150 1 z

/-- The logarithm of one more than a number. -/
def logOneMore (x : Float) : Float :=
  if x.isNaN || x.abs < 1e-18 then x
  else if x < -1 then nan
  else if x == -1 then -infinity
  else if x > 1e18 then x.log
  else
    let one : Int := Nat.pow 2 places
    let y := toFixed x + one
    let k : Int := (Nat.log2 y.natAbs : Int) - places
    let k := if 2 * y.natAbs ≥ 3 * Nat.pow 2 (k + places).toNat then k + 1 else k
    nearestFixed (logFixed (y * Nat.pow 2 (-k).toNat) (one * Nat.pow 2 k.toNat) + k * logFixed 2 1) places

end Script

end NotebookEngine
