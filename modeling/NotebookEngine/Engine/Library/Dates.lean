/-
**Dates of the library.**

Main definitions:

* `Library.dates` — dates.
-/

import NotebookEngine.Engine.Library.Entry
import NotebookEngine.Text.WrittenMoment

set_option autoImplicit false

namespace NotebookEngine

namespace Engine

namespace Library

open Act

/-! ### Moments -/

/-- The moment at which runs start. -/
def epoch : Float := 1700000000000.0

/-- The present moment. Looking at the clock takes a little time. -/
def presentMoment : Act Float := update fun w =>
  (epoch + Float.ofNat (w.clock / 1000000), { w with clock := w.clock + 20000 })

/-- The moment of a date that a method is called on. -/
def thisMoment (c : Call) : Act (Ref × Float) := do
  match c.this with
  | .object r =>
    match (← object r).kind with
    | .date x => pure (r, x)
    | _ => throwType "not a Date object"
  | _ => throwType "not a Date object"

/-- A part of a date as a method. -/
def partEntry (name : String) (f : Calendar.Fields → Int) : Entry :=
  .method name 0 fun c => do
    let (_, x) ← thisMoment c
    if x.isNaN then pure (.number x)
    else pure (.number (Float.ofInt (f (Calendar.fieldsOf (Script.toInteger x)))))

/-- A text of a date as a method. -/
def textEntry (name : String) (f : Int → String) : Entry :=
  .method name 0 fun c => do
    let (_, x) ← thisMoment c
    pure (.string (if x.isNaN then "Invalid Date" else f (Script.toInteger x)))

/-- The parts of a moment as numbers. -/
def momentParts (x : Float) : List Float :=
  let f := Calendar.fieldsOf (Script.toInteger x)
  [f.year, f.month, f.day, f.hour, f.minute, f.second, f.milli].map Float.ofInt

/-- A method that sets parts of a date, the first of which has a place among all parts. -/
def setterEntry (name : String) (place count : Nat) : Entry :=
  .method name count fun c => do
    let (r, x) ← thisMoment c
    let given ← (c.arguments.take count).mapM toNumber
    let given := if given.isEmpty then [Script.nan] else given
    let x := if x.isNaN && place = 0 then 0 else x
    let moment :=
      if x.isNaN then x
      else
        let parts := momentParts x
        Calendar.clip (Calendar.momentOfNumbers
          (parts.take place ++ given ++ parts.drop (place + given.length)))
    modifyObject r fun o => { o with kind := .date moment }
    pure (.number moment)

/-- The moment of the parts that arguments give; two digits of a year mean the last century. -/
def momentOfArguments (vs : List Value) : Act Float := do
  let parts ← vs.mapM toNumber
  let parts := match parts with
    | y :: rest =>
      let whole := wholePart y
      (if !y.isNaN && 0 ≤ whole && whole ≤ 99 then 1900 + whole else y) :: rest
    | [] => []
  pure (Calendar.momentOfNumbers (parts.take 7))

/-! ### Dates -/

/-- The parts that can be got in local and in universal time, which are the same. -/
def partMethods : List Entry :=
  ["", "UTC"].flatMap fun zone =>
    [partEntry ("get" ++ zone ++ "FullYear") Calendar.Fields.year,
     partEntry ("get" ++ zone ++ "Month") Calendar.Fields.month,
     partEntry ("get" ++ zone ++ "Date") Calendar.Fields.day,
     partEntry ("get" ++ zone ++ "Hours") Calendar.Fields.hour,
     partEntry ("get" ++ zone ++ "Minutes") Calendar.Fields.minute,
     partEntry ("get" ++ zone ++ "Seconds") Calendar.Fields.second,
     partEntry ("get" ++ zone ++ "Milliseconds") Calendar.Fields.milli,
     partEntry ("get" ++ zone ++ "Day") Calendar.Fields.weekday,
     setterEntry ("set" ++ zone ++ "FullYear") 0 3,
     setterEntry ("set" ++ zone ++ "Month") 1 2,
     setterEntry ("set" ++ zone ++ "Date") 2 1,
     setterEntry ("set" ++ zone ++ "Hours") 3 4,
     setterEntry ("set" ++ zone ++ "Minutes") 4 3,
     setterEntry ("set" ++ zone ++ "Seconds") 5 2,
     setterEntry ("set" ++ zone ++ "Milliseconds") 6 1]

/-- The text of a date with its time. -/
def dateText (millis : Int) : String := Calendar.writeDate millis ++ " " ++ Calendar.writeTime millis

/-- What dates can do. -/
def dateMethods : List Entry :=
  partMethods ++
  [.method "getTime" 0 fun c => do pure (.number (← thisMoment c).2),
   .method "valueOf" 0 fun c => do pure (.number (← thisMoment c).2),
   .method "getTimezoneOffset" 0 fun c => do
      let (_, x) ← thisMoment c
      pure (.number (if x.isNaN then x else 0)),
   .method "getYear" 0 fun c => do
      let (_, x) ← thisMoment c
      if x.isNaN then pure (.number x)
      else pure (.number (Float.ofInt ((Calendar.fieldsOf (Script.toInteger x)).year - 1900))),
   .method "setYear" 1 fun c => do
      let (r, x) ← thisMoment c
      let y := wholePart (← toNumber (c.argument 0))
      let year := if 0 ≤ y && y ≤ 99 then 1900 + y else y
      let parts := momentParts (if x.isNaN then 0 else x)
      let moment := Calendar.clip (Calendar.momentOfNumbers (year :: parts.tail))
      modifyObject r fun o => { o with kind := .date moment }
      pure (.number moment),
   .method "setTime" 1 fun c => do
      let (r, _) ← thisMoment c
      let x := Calendar.clip (← toNumber (c.argument 0))
      modifyObject r fun o => { o with kind := .date x }
      pure (.number x),
   .method "toISOString" 0 fun c => do
      let (_, x) ← thisMoment c
      if x.isNaN then throwRange "Date value is NaN"
      else pure (.string (Calendar.writeIso (Script.toInteger x))),
   .method "toJSON" 1 fun c => do
      let r ← toObject c.this
      match ← toPrimitive (.object r) .number with
      | .number x => if x.isFinite then invoke (.object r) "toISOString" [] else pure .null
      | _ => invoke (.object r) "toISOString" [],
   textEntry "toString" dateText,
   textEntry "toDateString" Calendar.writeDate,
   textEntry "toTimeString" Calendar.writeTime,
   textEntry "toUTCString" Calendar.writeUniversal,
   textEntry "toLocaleString" fun n => Calendar.writeLocalDate n ++ ", " ++ Calendar.writeLocalTime n,
   textEntry "toLocaleDateString" Calendar.writeLocalDate,
   textEntry "toLocaleTimeString" Calendar.writeLocalTime,
   ⟨WellknownSymbol.toPrimitive.key, "[Symbol.toPrimitive]", 1, .method, fun c => do
      match c.this with
      | .object r =>
        let order ← match c.argument 0 with
          | .string "number" => pure ["valueOf", "toString"]
          | .string "string" | .string "default" => pure ["toString", "valueOf"]
          | _ => throwType "invalid hint"
        let found ← order.foldlM (fun (found : Option Value) name => do
          match found with
          | some v => pure (some v)
          | none =>
            let f ← getText r name
            if ← isCallable f then
              match ← call f c.this [] with
              | .object _ => pure none
              | v => pure (some v)
            else pure none) none
        match found with
        | some v => pure v
        | none => throwType "toPrimitive"
      | _ => throwType "not an object"⟩]

/-- The moment that the arguments of the constructor of dates give. -/
def constructedMoment (c : Call) : Act Float := do
  match c.arguments with
  | [] => presentMoment
  | [v] =>
    let given? ← match v with
      | .object r => do
        match (← object r).kind with
        | .date x => pure (some x)
        | _ => pure none
      | _ => pure none
    match given? with
    | some x => pure x
    | none =>
      match ← toPrimitive v .any with
      | .string s => pure (Calendar.parse s)
      | p => pure (Calendar.clip (← primitiveNumber p))
  | vs => do pure (Calendar.clip (← momentOfArguments vs))

/-- Dates. -/
def dates : Family :=
  { name := "Date", length := 7, proto := .datePrototype, place? := none, parent? := none
    make := fun c => do
      match c.target? with
      | none => pure (.string (dateText (Script.toInteger (← presentMoment))))
      | some _ => pure (.object (← makeOf c .datePrototype (.date (← constructedMoment c))))
    statics :=
      [.method "now" 0 fun _ => do pure (.number (← presentMoment)),
       .method "parse" 1 fun c => do pure (.number (Calendar.parse (← toText (c.argument 0)))),
       .method "UTC" 7 fun c => do
          if c.arguments.isEmpty then pure (.number Script.nan)
          else pure (.number (Calendar.clip (← momentOfArguments c.arguments)))]
    constants := [], methods := dateMethods, tag? := none
    aliases := [(.text "toGMTString", "toUTCString")] }

end Library

end Engine

end NotebookEngine
