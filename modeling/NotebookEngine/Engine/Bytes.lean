/-
**Numbers as bytes.**

A program may look at a stretch of bytes as a row of numbers of one kind.  Each kind says how many bytes a
number takes, which bits stand for it, and which number some bits stand for; the bytes themselves are the
digits of those bits to the base 256.

Main definitions:

* `Engine.Element` — the kinds of numbers;
* `Engine.Element.ofFloat`, `Engine.Element.ofInt` — the bits that stand for a number;
* `Engine.Element.toFloat`, `Engine.Element.toInt` — the number that bits stand for;
* `Engine.Buffer` — bytes that views share; `Engine.Buffer.read`, `Engine.Buffer.write`.
-/

import NotebookEngine.Script.Arithmetic

set_option autoImplicit false

namespace NotebookEngine

namespace Engine

/-! ### Digits to the base 256 -/

/-- The lowest `width` digits of a number, the lowest first. -/
def digits : Nat → Nat → List UInt8
  | 0, _ => []
  | width + 1, n => UInt8.ofNat n :: digits width (n / 256)

/-- The number with some digits, the lowest first. -/
def ofDigits : List UInt8 → Nat
  | [] => 0
  | d :: ds => d.toNat + 256 * ofDigits ds

/-! ### Kinds of numbers -/

/-- What lies at each place of a row of numbers. -/
inductive Element where
  | uint8Clamped
  | int8
  | uint8
  | int16
  | uint16
  | int32
  | uint32
  | bigInt64
  | bigUint64
  | float16
  | float32
  | float64
  deriving DecidableEq, Inhabited

namespace Element

/-- The name of a kind. -/
def name : Element → String
  | uint8Clamped => "Uint8Clamped"
  | int8 => "Int8"
  | uint8 => "Uint8"
  | int16 => "Int16"
  | uint16 => "Uint16"
  | int32 => "Int32"
  | uint32 => "Uint32"
  | bigInt64 => "BigInt64"
  | bigUint64 => "BigUint64"
  | float16 => "Float16"
  | float32 => "Float32"
  | float64 => "Float64"

/-- The number of bytes that a number takes. -/
def width : Element → Nat
  | uint8Clamped | int8 | uint8 => 1
  | int16 | uint16 | float16 => 2
  | int32 | uint32 | float32 => 4
  | bigInt64 | bigUint64 | float64 => 8

/-- Whether the numbers are big integers. -/
def isBig : Element → Bool
  | bigInt64 | bigUint64 => true
  | _ => false

/-- Whether the numbers are integers that may be negative. -/
def isSigned : Element → Bool
  | int8 | int16 | int32 | bigInt64 => true
  | _ => false

/-- Whether the numbers have fractions. -/
def isFloat : Element → Bool
  | float16 | float32 | float64 => true
  | _ => false

end Element

/-! ### Floats of two bytes -/

/-- The whole number that is nearest to the quotient of two, an even one if two are as near. -/
def nearestEven (num den : Nat) : Nat :=
  let q := num / den
  let twice := 2 * (num % den)
  if twice < den then q else if twice > den then q + 1 else q + q % 2

/-- The bits of the float of two bytes that is nearest to a float. -/
def halfBits (x : Float) : Nat :=
  let sign := if Script.isNegative x then 32768 else 0
  if x.isNaN then 32256
  else if x.isInf then sign + 31744
  else if x == 0 then sign
  else
    let b := Decimal.decode x
    let unit := max (Int.ofNat (Nat.log2 b.mantissa) + b.exponent - 10) (-24)
    let shift := b.exponent - unit
    let count := nearestEven (b.mantissa * Nat.pow 2 shift.toNat) (Nat.pow 2 (-shift).toNat)
    sign + min ((unit + 24).toNat * 1024 + count) 31744

/-- The float that two bytes stand for. -/
def ofHalfBits (n : Nat) : Float :=
  let exponent := n / 1024 % 32
  let fraction := n % 1024
  let size :=
    if exponent = 31 then (if fraction = 0 then Script.infinity else Script.nan)
    else if exponent = 0 then Script.ofBinary fraction (-24)
    else Script.ofBinary (1024 + fraction) (Int.ofNat exponent - 25)
  if n / 32768 % 2 = 1 then -size else size

namespace Element

/-! ### Bits -/

/-- The number of bits as an integer, kept within 0 and 255; of two that are as near the even one. -/
def clamp (x : Float) : Nat :=
  if x.isNaN || x ≤ 0 then 0
  else if x ≥ 255 then 255
  else
    let b := Decimal.decode x
    nearestEven (b.mantissa * Nat.pow 2 b.exponent.toNat) (Nat.pow 2 (-b.exponent).toNat)

/-- The bits that stand for an integer. -/
def ofInt (e : Element) (i : Int) : Nat := (Int.emod i (Nat.pow 2 (8 * e.width))).toNat

/-- The bits that stand for a number. -/
def ofFloat (e : Element) (x : Float) : Nat :=
  match e with
  | float64 => x.toBits.toNat
  | float32 => x.toFloat32.toBits.toNat
  | float16 => halfBits x
  | uint8Clamped => clamp x
  | _ => if x.isFinite then e.ofInt (Script.toInteger x) else 0

/-- The integer that bits stand for. -/
def toInt (e : Element) (bits : Nat) : Int :=
  if e.isSigned then Int.bmod bits (Nat.pow 2 (8 * e.width)) else bits

/-- The number that bits stand for. -/
def toFloat (e : Element) (bits : Nat) : Float :=
  match e with
  | float64 => Float.ofBits (UInt64.ofNat bits)
  | float32 => (Float32.ofBits (UInt32.ofNat bits)).toFloat
  | float16 => ofHalfBits bits
  | _ => Float.ofInt (e.toInt bits)

end Element

/-! ### Buffers -/

/-- Bytes that views share. -/
structure Buffer where
  bytes : Array UInt8
  /-- The greatest number of bytes there may be, if that number can change. -/
  limit? : Option Nat
  /-- The bytes have been handed over to another buffer. -/
  detached : Bool
  shared : Bool
  /-- The place of the buffer that the bytes have been handed over to, and how many there were. -/
  heir? : Option (Nat × Nat)
  deriving Inhabited

namespace Buffer

/-- A buffer of zeros. -/
def zeros (size : Nat) (limit? : Option Nat) (shared : Bool) : Buffer :=
  ⟨Array.replicate size 0, limit?, false, shared, none⟩

/-- The bits that some bytes are, the lowest byte first unless told otherwise. -/
def read (b : Buffer) (start width : Nat) (highFirst : Bool) : Nat :=
  let ds := (List.range width).map fun i => b.bytes[start + i]?.getD 0
  ofDigits (if highFirst then ds.reverse else ds)

/-- Bytes put over others, from a place on. -/
def putBytes (bytes : Array UInt8) (start : Nat) : List UInt8 → Array UInt8
  | [] => bytes
  | d :: ds => putBytes (bytes.setIfInBounds start d) (start + 1) ds

/-- The buffer with some bits written, the lowest byte first unless told otherwise. -/
def write (b : Buffer) (start width bits : Nat) (highFirst : Bool) : Buffer :=
  let ds := digits width bits
  match b with
  | ⟨bytes, limit?, detached, shared, heir?⟩ =>
    ⟨putBytes bytes start (if highFirst then ds.reverse else ds), limit?, detached, shared, heir?⟩

/-- The buffer with its bytes cut or zeros added to a number. -/
def resize (b : Buffer) (size : Nat) : Buffer :=
  { b with bytes := b.bytes.extract 0 size ++ Array.replicate (size - b.bytes.size) 0 }

/-- Some of the bytes. -/
def slice (b : Buffer) (start stop : Nat) : Array UInt8 := b.bytes.extract start stop

end Buffer

end Engine

end NotebookEngine
