/-
**Numbers, truth values and symbols of the library.**

Main definitions:

* `Library.numbers`, `Library.bigints`, `Library.truths`, `Library.symbols` — families;
* `Library.mathematics` — the functions of mathematics.
-/

import NotebookEngine.Script.Nearest
import NotebookEngine.Engine.Library.Entry
import NotebookEngine.Decimal.Layout

set_option autoImplicit false

namespace NotebookEngine

namespace Engine

namespace Library

open Act

/-! ### Numbers -/

/-- The number that a value is, or that is kept in an object. -/
def thisNumber (c : Call) : Act Float := do
  match c.this with
  | .number x => pure x
  | .object r =>
    match (← object r).kind with
    | .boxed (.number x) => pure x
    | _ => throwType "not a number"
  | _ => throwType "not a number"

/-- A number within bounds, of which an error tells by its name. -/
def bounded (name : String) (x : Float) (least most : Nat) : Act Nat :=
  if x < Float.ofNat least || x > Float.ofNat most then
    throwRange (name ++ " argument must be between " ++ toString least ++ " and " ++ toString most)
  else pure x.toUInt64.toNat

/-- The base that an argument asks for. -/
def baseArgument (c : Call) : Act Nat := do
  let x ← if (c.argument 0).isUndefined then pure 10 else toWhole (c.argument 0)
  bounded "toString() radix" x 2 36

/-- A number written with its sign, by how its magnitude is written. -/
def signed (x : Float) (write : Float → String) : String :=
  if x < 0 then "-" ++ write x.abs else write x.abs

/-- A number with a number of significant digits. -/
def precise (x : Float) (count : Nat) : String :=
  if x == 0 then "0" ++ (if count > 1 then "." ++ Decimal.zeros (count - 1) else "")
  else
    let d := Decimal.significant x count
    let e := d.exponent + (count : Int) - 1
    if e < -6 || e ≥ count then Decimal.scientific d
    else if d.exponent ≥ 0 then toString d.digits
    else Decimal.placed d.digits d.exponent.natAbs

/-- A whole number with commas between groups of three digits. -/
def grouped (ds : List Char) : List Char :=
  (ds.reverse.mapIdx fun i d => if i > 0 && i % 3 = 0 then [d, ','] else [d]).flatten.reverse

/-- A number as a reader would write it. -/
def localNumber (x : Float) : String :=
  if x.isNaN || x.isInf then Script.numberText x
  else
    let text := Decimal.fixed x 3
    let parts := text.splitOn "."
    let whole := String.ofList (grouped ((parts.head?.getD "").toList))
    let places := ((parts[1]?.getD "").toList.reverse.dropWhile fun c => c = '0').reverse
    (if x < 0 then "-" else "") ++ whole ++
      (if places.isEmpty then "" else "." ++ String.ofList places)

/-- The methods of numbers. -/
def numberMethods : List Entry :=
  [.method "toExponential" 1 fun c => do
      let x ← thisNumber c
      let count ← toWhole (c.argument 0)
      if !x.isFinite then pure (.string (Script.numberText x))
      else if (c.argument 0).isUndefined then
        pure (.string (if x == 0 then "0e+0"
          else signed x fun y => Decimal.scientific (Decimal.shortest y)))
      else
        let n ← bounded "toExponential()" count 0 100
        pure (.string (if x == 0 then "0" ++ (if n > 0 then "." ++ Decimal.zeros n else "") ++ "e+0"
          else signed x fun y => Decimal.scientific (Decimal.significant y (n + 1)))),
   .method "toFixed" 1 fun c => do
      let x ← thisNumber c
      let n ← bounded "toFixed() digits" (← toWhole (c.argument 0)) 0 100
      if !x.isFinite || x.abs ≥ 1e21 then pure (.string (Script.numberText x))
      else pure (.string (signed x fun y => Decimal.fixed y n)),
   .method "toPrecision" 1 fun c => do
      let x ← thisNumber c
      if (c.argument 0).isUndefined then pure (.string (Script.numberText x))
      else
        let count ← toWhole (c.argument 0)
        if !x.isFinite then pure (.string (Script.numberText x))
        else
          let n ← bounded "toPrecision()" count 1 100
          pure (.string (signed x fun y => precise y n)),
   .method "toString" 1 fun c => do
      let x ← thisNumber c
      let base ← baseArgument c
      if base = 10 || !x.isFinite then pure (.string (Script.numberText x))
      else pure (.string (Numeral.inBase base x)),
   .method "toLocaleString" 0 fun c => do pure (.string (localNumber (← thisNumber c))),
   .method "valueOf" 0 fun c => do pure (.number (← thisNumber c))]

/-- Whether a number has no fraction. -/
def isWhole (x : Float) : Bool := x.isFinite && x.floor == x

/-- Functions of numbers that are also found under their own names. -/
def sharedNumberNames : List String := ["parseFloat", "parseInt"]

/-- What the constructor of numbers holds. -/
def numberStatics : List Entry :=
  [.method "parseFloat" 1 fun c => do
      let cs := (← toText (c.argument 0)).toList.dropWhile Numeral.isGap
      pure (.number ((Numeral.decimalStart cs).elim Script.nan Prod.fst)),
   .method "parseInt" 2 fun c => do
      let s ← toText (c.argument 0)
      let base := Script.toInt32 (← toNumber (c.argument 1))
      pure (.number (if base < 0 then Script.nan else Numeral.integerStart s base.toNat)),
   .method "isNaN" 1 fun c => pure (.bool (match c.argument 0 with
      | .number x => x.isNaN
      | _ => false)),
   .method "isFinite" 1 fun c => pure (.bool (match c.argument 0 with
      | .number x => x.isFinite
      | _ => false)),
   .method "isInteger" 1 fun c => pure (.bool (match c.argument 0 with
      | .number x => isWhole x
      | _ => false)),
   .method "isSafeInteger" 1 fun c => pure (.bool (match c.argument 0 with
      | .number x => isWhole x && x.abs ≤ 9007199254740991
      | _ => false))]

/-- The number that an argument of the constructor of numbers is. -/
def numberArgument (c : Call) : Act Float := do
  match c.arguments with
  | [] => pure 0
  | v :: _ =>
    match ← toNumeric v with
    | .number x => pure x
    | .bigint i => pure (Float.ofInt i)

/-- Numbers. -/
def numbers : Family :=
  { name := "Number", length := 1, proto := .numberPrototype, place? := none, parent? := none
    make := fun c => do
      let x ← numberArgument c
      match c.target? with
      | none => pure (.number x)
      | some _ => pure (.object (← makeOf c .numberPrototype (.boxed (.number x))))
    statics := numberStatics
    constants :=
      [("MAX_VALUE", .number (Float.ofBits 0x7FEFFFFFFFFFFFFF)), ("MIN_VALUE", .number (Float.ofBits 1)),
       ("NaN", .number Script.nan), ("NEGATIVE_INFINITY", .number (-Script.infinity)),
       ("POSITIVE_INFINITY", .number Script.infinity), ("EPSILON", .number (Float.ofBits 0x3CB0000000000000)),
       ("MAX_SAFE_INTEGER", .number 9007199254740991), ("MIN_SAFE_INTEGER", .number (-9007199254740991))]
    methods := numberMethods, tag? := none }

/-! ### Big integers -/

/-- The big integer that a value is, or that is kept in an object. -/
def thisBigint (c : Call) : Act Int := do
  match c.this with
  | .bigint i => pure i
  | .object r =>
    match (← object r).kind with
    | .boxed (.bigint i) => pure i
    | _ => throwType "not a BigInt"
  | _ => throwType "not a BigInt"

/-- Big integers. -/
def bigints : Family :=
  { name := "BigInt", length := 1, proto := .bigintPrototype, place? := none, parent? := none
    make := fun c => do
      if c.target?.isSome then throwType "not a constructor"
      match ← toPrimitive (c.argument 0) .number with
      | .number x =>
        if x.isNaN || x.isInf then throwRange "cannot convert NaN or Infinity to BigInt"
        else if isWhole x then pure (.bigint (Script.toInteger x))
        else throwRange "cannot convert to BigInt: not an integer"
      | v => pure (.bigint (← toBigint v))
    statics :=
      [.method "asIntN" 2 fun c => do
          let n ← toIndex (c.argument 0)
          pure (.bigint (Int.bmod (← toBigint (c.argument 1)) (Nat.pow 2 n))),
       .method "asUintN" 2 fun c => do
          let n ← toIndex (c.argument 0)
          pure (.bigint (Int.emod (← toBigint (c.argument 1)) (Nat.pow 2 n)))]
    constants := []
    methods :=
      [.method "toString" 0 fun c => do
          let i ← thisBigint c
          pure (.string (Numeral.intInBase (← baseArgument c) i)),
       .method "toLocaleString" 0 fun c => do pure (.string (toString (← thisBigint c))),
       .method "valueOf" 0 fun c => do pure (.bigint (← thisBigint c))]
    tag? := some "BigInt" }

/-! ### Truth values -/

/-- The truth value that a value is, or that is kept in an object. -/
def thisTruth (c : Call) : Act Bool := do
  match c.this with
  | .bool b => pure b
  | .object r =>
    match (← object r).kind with
    | .boxed (.bool b) => pure b
    | _ => throwType "not a boolean"
  | _ => throwType "not a boolean"

/-- Truth values. -/
def truths : Family :=
  { name := "Boolean", length := 1, proto := .booleanPrototype, place? := none, parent? := none
    make := fun c => do
      let b := (c.argument 0).truth
      match c.target? with
      | none => pure (.bool b)
      | some _ => pure (.object (← makeOf c .booleanPrototype (.boxed (.bool b))))
    statics := [], constants := []
    methods :=
      [.method "toString" 0 fun c => do
          pure (.string (if ← thisTruth c then "true" else "false")),
       .method "valueOf" 0 fun c => do pure (.bool (← thisTruth c))]
    tag? := none }

/-! ### Symbols -/

/-- The symbol that a value is, or that is kept in an object. -/
def thisSymbol (c : Call) : Act Nat := do
  match c.this with
  | .symbol id => pure id
  | .object r =>
    match (← object r).kind with
    | .boxed (.symbol id) => pure id
    | _ => throwType "not a symbol"
  | _ => throwType "not a symbol"

/-- The description of a symbol. -/
def symbolText (id : Nat) : Act (Option String) := read fun w => (w.symbols[id]?).join

/-- Symbols. -/
def symbols : Family :=
  { name := "Symbol", length := 0, proto := .symbolPrototype, place? := none, parent? := none
    make := fun c => do
      if c.target?.isSome then throwType "not a constructor"
      let d ← if (c.argument 0).isUndefined then pure none else do
        pure (some (← toText (c.argument 0)))
      pure (.symbol (← newSymbol d))
    statics :=
      [.method "for" 1 fun c => do
          let name ← toText (c.argument 0)
          match ← read fun w => w.shared.find? fun (n, _) => n = name with
          | some (_, id) => pure (.symbol id)
          | none =>
            let id ← newSymbol (some name)
            change fun w => { w with shared := w.shared ++ [(name, id)] }
            pure (.symbol id),
       .method "keyFor" 1 fun c => do
          match c.argument 0 with
          | .symbol id =>
            match ← read fun w => w.shared.find? fun (_, i) => i = id with
            | some (name, _) => pure (.string name)
            | none => pure .undefined
          | _ => throwType "not a symbol"]
    constants := WellknownSymbol.names.mapIdx fun i name => (name, .symbol i)
    methods :=
      [.method "toString" 0 fun c => do
          let d ← symbolText (← thisSymbol c)
          pure (.string ("Symbol(" ++ d.getD "" ++ ")")),
       .method "valueOf" 0 fun c => do pure (.symbol (← thisSymbol c)),
       .getter "description" fun c => do
          pure ((← symbolText (← thisSymbol c)).elim .undefined .string),
       .symbolic .toPrimitive 1 fun c => do pure (.symbol (← thisSymbol c))]
    tag? := some "Symbol" }

/-! ### Mathematics -/

/-- A function of one number. -/
def numeric (name : String) (f : Float → Float) : Entry :=
  .method name 1 fun c => do pure (.number (f (← toNumber (c.argument 0))))

/-- A number rounded to the nearest whole one, a half going up. -/
def rounded (x : Float) : Float :=
  if !x.isFinite || x.floor == x then x
  else
    let f := x.floor
    if x - f ≥ 0.5 then (if f + 1 == 0 then -0.0 else f + 1) else f

/-- The number of zeros before the first one among the lowest 32 bits. -/
def leadingZeros (x : Float) : Float :=
  let n := Script.toUint32 x
  Float.ofNat (if n = 0 then 32 else 31 - Nat.log2 n)

/-- The greatest or least of numbers. -/
def extreme (better : Float → Float → Bool) (start : Float) (vs : List Value) : Act Value := do
  let xs ← vs.mapM toNumber
  pure (.number (xs.foldl (fun a x =>
    if a.isNaN || x.isNaN then Script.nan else if better x a then x else a) start))

/-- A number between zero and one, and the next state of the source of random numbers. -/
def nextRandom (state : Nat) : Float × Nat :=
  let state := (state * 6364136223846793005 + 1442695040888963407) % Nat.pow 2 64
  (Float.ofNat (state / Nat.pow 2 11) / 9007199254740992.0, state)

/-- Functions of mathematics. -/
def mathematics : Space :=
  { name := "Math", tag? := some "Math"
    entries :=
      [.method "min" 2 fun c => extreme (fun x a => x < a || (x == a && Script.isNegative x)) Script.infinity c.arguments,
       .method "max" 2 fun c => extreme (fun x a => x > a || (x == a && !Script.isNegative x)) (-Script.infinity) c.arguments,
       numeric "abs" Float.abs, numeric "floor" Float.floor, numeric "ceil" Float.ceil,
       numeric "round" rounded, numeric "sqrt" Float.sqrt, numeric "acos" Float.acos,
       numeric "asin" Float.asin, numeric "atan" Float.atan,
       .method "atan2" 2 fun c => do
          let y ← toNumber (c.argument 0)
          pure (.number (Float.atan2 y (← toNumber (c.argument 1)))),
       numeric "cos" Float.cos, numeric "exp" Float.exp, numeric "log" Float.log,
       .method "pow" 2 fun c => do
          let x ← toNumber (c.argument 0)
          pure (.number (Script.power x (← toNumber (c.argument 1)))),
       numeric "sin" Float.sin, numeric "tan" Float.tan,
       numeric "trunc" fun x => if x < 0 then x.ceil else x.floor,
       numeric "sign" fun x => if x > 0 then 1 else if x < 0 then -1 else x,
       numeric "cosh" Float.cosh, numeric "sinh" Float.sinh, numeric "tanh" Float.tanh,
       numeric "acosh" Float.acosh, numeric "asinh" Float.asinh, numeric "atanh" Float.atanh,
       numeric "expm1" Script.expOneLess, numeric "log1p" Script.logOneMore, numeric "log2" Float.log2,
       numeric "log10" Float.log10, numeric "cbrt" Script.cubeRoot,
       .method "hypot" 2 fun c => do
          match ← c.arguments.mapM toNumber with
          | [] => pure (.number 0)
          | x :: xs => pure (.number (xs.foldl Script.hypotenuse x.abs)),
       .method "sumPrecise" 1 fun c => do
          let i ← iteratorOf (c.argument 0)
          let xs ← loop [] fun xs => do
            match ← i.step with
            | none => pure (.ok xs)
            | some (.number x) => pure (.error (x :: xs))
            | some _ => i.abandon (← makeError .typeError "not a number")
          pure (.number (Script.sumNearest xs)),
       .method "random" 0 fun _ => update fun w =>
          let (x, random) := nextRandom w.random
          (.number x, { w with random }),
       numeric "fround" fun x => x.toFloat32.toFloat,
       numeric "f16round" fun x => ofHalfBits (halfBits x),
       .method "imul" 2 fun c => do
          let x := Script.toUint32 (← toNumber (c.argument 0))
          let y := Script.toUint32 (← toNumber (c.argument 1))
          pure (.number (Script.ofInt32 ((x * y) % Nat.pow 2 32))),
       numeric "clz32" leadingZeros]
    constants :=
      [("E", .number 2.718281828459045), ("LN10", .number 2.302585092994046),
       ("LN2", .number 0.6931471805599453), ("LOG2E", .number 1.4426950408889634),
       ("LOG10E", .number 0.4342944819032518), ("PI", .number 3.141592653589793),
       ("SQRT1_2", .number 0.7071067811865476), ("SQRT2", .number 1.4142135623730951)] }

end Library

end Engine

end NotebookEngine
