/-
**The shortest decimal that reads back as a given float.**

A finite binary float is `m * 2 ^ q`.  The decimals that round to it fill an interval around it, whose
ends belong to it exactly when `m` is even.  The shortest text of the float is found by trying grids of
one, two, … seventeen significant digits: on each grid only the two neighbours of the value can lie in
the interval without a nearer one doing so, and the first grid with a hit wins.

Main definitions:

* `Decimal.Ratio` — a positive rational, compared by cross multiplication;
* `Decimal.Binary`, `Decimal.decode` — the mantissa and exponent of a float;
* `Decimal.Digits` — a decimal `digits * 10 ^ exponent`;
* `Decimal.shortest` — the shortest decimal of a positive finite float.
-/

set_option autoImplicit false

namespace NotebookEngine

namespace Decimal

/-! ### Positive rationals -/

/-- A positive rational number, not necessarily in lowest terms. -/
structure Ratio where
  num : Nat
  den : Nat

namespace Ratio

/-- The order of rationals. -/
def le (a b : Ratio) : Bool := a.num * b.den ≤ b.num * a.den

/-- The strict order of rationals. -/
def lt (a b : Ratio) : Bool := a.num * b.den < b.num * a.den

/-- The rational `n * 10 ^ e`. -/
def scaled (n : Nat) (e : Int) : Ratio :=
  if e ≥ 0 then ⟨n * Nat.pow 10 e.toNat, 1⟩ else ⟨n, Nat.pow 10 (-e).toNat⟩

/-- The rational `n * 2 ^ e`. -/
def binary (n : Nat) (e : Int) : Ratio :=
  if e ≥ 0 then ⟨n * Nat.pow 2 e.toNat, 1⟩ else ⟨n, Nat.pow 2 (-e).toNat⟩

/-- The integral part of the quotient by `10 ^ e`. -/
def floorDiv (a : Ratio) (e : Int) : Nat :=
  if e ≥ 0 then a.num / (a.den * Nat.pow 10 e.toNat) else a.num * Nat.pow 10 (-e).toNat / a.den

/-- Twice the distance of two rationals over a common denominator, as numerators to compare. -/
def distance (a b : Ratio) : Ratio :=
  let x := a.num * b.den
  let y := b.num * a.den
  ⟨if x ≤ y then y - x else x - y, a.den * b.den⟩

end Ratio

/-! ### Floats as binary fractions -/

/-- A positive finite float as `mantissa * 2 ^ exponent`. -/
structure Binary where
  mantissa : Nat
  exponent : Int
  /-- The gap below the float is half the gap above it. -/
  narrowBelow : Bool

/-- The mantissa and exponent of the magnitude of a finite float. -/
def decode (x : Float) : Binary :=
  let bits := x.toBits
  let fraction := (bits &&& 0xFFFFFFFFFFFFF).toNat
  let biased := ((bits >>> 52) &&& 0x7FF).toNat
  if biased = 0 then ⟨fraction, -1074, false⟩
  else ⟨fraction + Nat.pow 2 52, Int.ofNat biased - 1075, fraction == 0 && biased > 1⟩

/-! ### Search for the shortest decimal -/

/-- The decimal `digits * 10 ^ exponent`. -/
structure Digits where
  digits : Nat
  exponent : Int

/-- The largest `e`, from `e` on and within `fuel` steps, with `10 ^ e ≤ v`. -/
def raiseScale (v : Ratio) : Nat → Int → Int
  | 0, e => e
  | fuel + 1, e => if (Ratio.scaled 1 (e + 1)).le v then raiseScale v fuel (e + 1) else e

/-- The exponent `e` with `10 ^ e ≤ v < 10 ^ (e + 1)`. -/
def scaleOf (v : Ratio) : Int :=
  let bits : Int := Int.ofNat v.num.log2 - Int.ofNat v.den.log2
  raiseScale v 5 (Int.fdiv (bits * 30103) 100000 - 2)

/-- Remove trailing zeros of the digits. -/
def Digits.normalize (d : Digits) : Nat → Digits
  | 0 => d
  | fuel + 1 =>
    if d.digits % 10 = 0 ∧ d.digits ≠ 0 then
      normalize ⟨d.digits / 10, d.exponent + 1⟩ fuel
    else d

/-- The neighbour of `v` on the grid of multiples of `10 ^ k` that rounds to the same float. -/
def onGrid (v low high : Ratio) (closed : Bool) (k : Int) : Option Digits :=
  let n := v.floorDiv k
  let within (c : Nat) : Bool :=
    c ≠ 0 &&
      (let r := Ratio.scaled c k
       if closed then low.le r && r.le high else low.lt r && r.lt high)
  match within n, within (n + 1) with
  | true, true =>
    let below := Ratio.distance v (Ratio.scaled n k)
    let above := Ratio.distance v (Ratio.scaled (n + 1) k)
    if below.lt above then some ⟨n, k⟩
    else if above.lt below then some ⟨n + 1, k⟩
    else some ⟨if n % 2 = 0 then n else n + 1, k⟩
  | true, false => some ⟨n, k⟩
  | false, true => some ⟨n + 1, k⟩
  | false, false => none

/-- Try grids of `count`, `count + 1`, … significant digits. -/
def search (v low high : Ratio) (closed : Bool) (scale : Int) : Nat → Nat → Digits
  | 0, count => ⟨v.floorDiv (scale - count + 1), scale - count + 1⟩
  | fuel + 1, count =>
    match onGrid v low high closed (scale - Int.ofNat count + 1) with
    | some d => d.normalize 400
    | none => search v low high closed scale fuel (count + 1)

/-- The shortest decimal that reads back as the positive finite float `x`. -/
def shortest (x : Float) : Digits :=
  let b := decode x
  let v := Ratio.binary b.mantissa b.exponent
  let high := Ratio.binary (2 * b.mantissa + 1) (b.exponent - 1)
  let low :=
    if b.narrowBelow then Ratio.binary (4 * b.mantissa - 1) (b.exponent - 2)
    else Ratio.binary (2 * b.mantissa - 1) (b.exponent - 1)
  search v low high (b.mantissa % 2 == 0) (scaleOf v) 17 1

end Decimal

end NotebookEngine
