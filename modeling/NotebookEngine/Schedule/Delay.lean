/-
**Delays of timers.**

A timer asks for a delay in milliseconds, as a float; the clock counts nanoseconds.

Main definitions:

* `Delay.roundTies` — a quotient rounded to the nearest integer, a half going to the even one;
* `Delay.ofMillis` — the nanoseconds of a delay.
-/

import NotebookEngine.Decimal.Shortest

set_option autoImplicit false

namespace NotebookEngine

namespace Delay

/-- The quotient rounded to the nearest integer, a half going to the even one. -/
def roundTies (num den : Nat) : Nat :=
  let q := num / den
  let twice := 2 * (num % den)
  if twice < den then q
  else if den < twice then q + 1
  else if q % 2 = 0 then q else q + 1

/-- The greatest delay that is honoured, in milliseconds. -/
def longest : Float := 2147483647.0

/-- The delay of a timer that asks for one out of range: one millisecond. -/
def outOfRange : Nat := 1000000

/-- The nanoseconds of a nonnegative number of seconds. -/
def ofSeconds (seconds : Float) : Nat :=
  let b := Decimal.decode seconds
  let v := Decimal.Ratio.binary b.mantissa b.exponent
  roundTies (v.num * 1000000000) v.den

/-- The nanoseconds of a delay in milliseconds. -/
def ofMillis (millis : Float) : Nat :=
  if 0.0 ≤ millis ∧ millis ≤ longest then ofSeconds (millis / 1000.0) else outOfRange

end Delay

end NotebookEngine
