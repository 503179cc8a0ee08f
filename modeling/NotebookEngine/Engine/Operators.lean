/-
**Operators.**

Main definitions:

* `Engine.binaryOperation` — the value of an operator of two operands;
* `Engine.unaryOperation` — the value of an operator of one operand.
-/

import NotebookEngine.Engine.Assignment

set_option autoImplicit false

namespace NotebookEngine

namespace Engine

open Act

/-! ### Arithmetic -/

/-- Two operands of arithmetic. -/
inductive Operands where
  | numbers (x y : Float)
  | bigints (i j : Int)

/-- Two values as operands of arithmetic. -/
def toOperands (a b : Value) : Act Operands := do
  match a, b with
  | .number x, .number y => pure (.numbers x y)
  | _, _ =>
    match ← toNumeric a, ← toNumeric b with
    | .number x, .number y => pure (.numbers x y)
    | .bigint i, .bigint j => pure (.bigints i j)
    | _, _ => throwType "cannot convert to BigInt"

/-- The greatest number of bits of a big integer. -/
def bigintLimit : Nat := 1048576

/-- A big integer, unless it is too big. -/
def bigintValue (i : Int) : Act Value :=
  if Nat.log2 i.natAbs > bigintLimit then throwRange "BigInt is too large to allocate" else pure (.bigint i)

/-- A bitwise operation on integers of any size, the negative ones with endless ones before them. -/
def bitwiseInt (op : Nat → Nat → Nat) (i j : Int) : Int :=
  let width := max (Nat.log2 i.natAbs) (Nat.log2 j.natAbs) + 2
  let bits (k : Int) : Nat := (Int.emod k (Nat.pow 2 width)).toNat
  Int.bmod (op (bits i) (bits j)) (Nat.pow 2 width)

/-- An arithmetic operation on big integers. -/
def bigintOperation (op : String) (i j : Int) : Act Value := do
  match op with
  | "+" => bigintValue (i + j)
  | "-" => bigintValue (i - j)
  | "*" => bigintValue (i * j)
  | "/" => if j = 0 then throwRange "invalid operation" else pure (.bigint (Int.tdiv i j))
  | "%" => if j = 0 then throwRange "invalid operation" else pure (.bigint (Int.tmod i j))
  | "**" =>
    if j < 0 then throwRange "invalid operation"
    else if i.natAbs > 1 && j.toNat * (Nat.log2 i.natAbs) > bigintLimit then
      throwRange "BigInt is too large to allocate"
    else pure (.bigint (if i.natAbs ≤ 1 then (if i = -1 && j % 2 = 0 then 1 else if j = 0 then 1 else i) else Int.pow i j.toNat))
  | "&" => pure (.bigint (bitwiseInt (· &&& ·) i j))
  | "|" => pure (.bigint (bitwiseInt (· ||| ·) i j))
  | "^" => pure (.bigint (bitwiseInt (· ^^^ ·) i j))
  | "<<" =>
    if j > bigintLimit then throwRange "BigInt is too large to allocate"
    else pure (.bigint (if j ≥ 0 then i * Nat.pow 2 j.toNat else Int.fdiv i (Nat.pow 2 j.natAbs)))
  | ">>" =>
    if j < -bigintLimit then throwRange "BigInt is too large to allocate"
    else if j > 4 * bigintLimit then pure (.bigint (if i < 0 then -1 else 0))
    else pure (.bigint (if j ≥ 0 then Int.fdiv i (Nat.pow 2 j.toNat) else i * Nat.pow 2 j.natAbs))
  | _ => throwType "BigInt operands are forbidden for >>>"

/-- An arithmetic operation on numbers. -/
def numberOperation (op : String) (x y : Float) : Value :=
  match op with
  | "+" => .number (x + y)
  | "-" => .number (x - y)
  | "*" => .number (x * y)
  | "/" => .number (x / y)
  | "%" => .number (Script.remainder x y)
  | "**" => .number (Script.power x y)
  | "&" => .number (Script.bitwise (· &&& ·) x y)
  | "|" => .number (Script.bitwise (· ||| ·) x y)
  | "^" => .number (Script.bitwise (· ^^^ ·) x y)
  | "<<" => .number (Script.shiftLeft x y)
  | ">>" => .number (Script.shiftRight x y)
  | ">>>" => .number (Script.shiftRightZero x y)
  | _ => .undefined

/-- The sum of two values, or their texts one after the other. -/
def addition (a b : Value) : Act Value := do
  match a, b with
  | .number x, .number y => pure (.number (x + y))
  | .string s, .string t => pure (.string (Script.append s t))
  | _, _ =>
    let a ← toPrimitive a .any
    let b ← toPrimitive b .any
    match a, b with
    | .string s, _ => pure (.string (Script.append s (← primitiveText b)))
    | _, .string t => pure (.string (Script.append (← primitiveText a) t))
    | _, _ =>
      match ← toOperands a b with
      | .numbers x y => pure (.number (x + y))
      | .bigints i j => bigintValue (i + j)

/-- Compare two values: the first, unless `swapped`, is converted first. -/
def comparison (a b : Value) (test : Ordering → Bool) : Act Value := do
  match a, b with
  | .number x, .number y =>
    pure (.bool (if x < y then test .lt else if x > y then test .gt else x == y && test .eq))
  | _, _ =>
    let a ← toPrimitive a .number
    let b ← toPrimitive b .number
    pure (.bool ((← comparePrimitives a b).any test))

/-- The value of an operator of two operands that both have been evaluated. -/
def binaryOperation (op : String) (a b : Value) : Act Value := do
  match op with
  | "+" => addition a b
  | "===" => pure (.bool (a.strictlyEqual b))
  | "!==" => pure (.bool (!a.strictlyEqual b))
  | "==" => pure (.bool (← looselyEqual a b))
  | "!=" => pure (.bool (!(← looselyEqual a b)))
  | "<" => comparison a b fun o => o = .lt
  | ">" => comparison a b fun o => o = .gt
  | "<=" => comparison a b fun o => o ≠ .gt
  | ">=" => comparison a b fun o => o ≠ .lt
  | "instanceof" => pure (.bool (← instanceOf a b))
  | "in" =>
    match b with
    | .object r => pure (.bool (← hasProperty r (← toKey a)))
    | _ => throwType "invalid 'in' operand"
  | _ =>
    match ← toOperands a b with
    | .numbers x y => pure (numberOperation op x y)
    | .bigints i j => bigintOperation op i j

/-- The value of an operator of one operand that has been evaluated. -/
def unaryOperation (op : String) (v : Value) : Act Value := do
  match op with
  | "!" => pure (.bool (!v.truth))
  | "void" => pure .undefined
  | "typeof" => pure (.string (← typeName v))
  | "+" =>
    match ← toPrimitive v .number with
    | .bigint _ => throwType "BigInt argument with unary +"
    | p => pure (.number (← primitiveNumber p))
  | "-" =>
    match ← toNumeric v with
    | .number x => pure (.number (-x))
    | .bigint i => pure (.bigint (-i))
  | "~" =>
    match ← toNumeric v with
    | .number x => pure (.number (Script.ofInt32 (-Script.toInt32 x - 1)))
    | .bigint i => pure (.bigint (-i - 1))
  | _ => pure v

end Engine

end NotebookEngine
