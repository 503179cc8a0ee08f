/-
**Errors of the library.**

Main definitions:

* `Library.errorFamilies` — errors of every class.
-/

import NotebookEngine.Engine.Library.Entry

set_option autoImplicit false

namespace NotebookEngine

namespace Engine

namespace Library

open Act

/-- Give an error its message, its cause and the trace of the calls in progress. -/
def fillError (r : Ref) (message options : Value) : Act Unit := do
  if !message.isUndefined then
    let text ← toText message
    modifyObject r fun o => o.putNamed (.text "message") (.method (.string text))
  match options with
  | .object opts =>
    if ← hasProperty opts (.text "cause") then
      let cause ← getText opts "cause"
      modifyObject r fun o => o.putNamed (.text "cause") (.method cause)
  | _ => pure ()
  let trace ← read fun w => w.trace 1
  modifyObject r fun o => o.putNamed (.text "stack") (.method (.string trace))

/-- The text of an error: its name and its message. -/
def errorText (v : Value) : Act String := do
  match v with
  | .object r =>
    let name ← match ← getText r "name" with
      | .undefined => pure "Error"
      | n => toText n
    let message ← match ← getText r "message" with
      | .undefined => pure ""
      | m => toText m
    pure (if name.isEmpty then message else if message.isEmpty then name else name ++ ": " ++ message)
  | _ => throwType "not an object"

/-- The errors of one class. -/
def errorFamily (k : ErrorClass) : Family :=
  { name := k.name, length := if k = .aggregateError then 2 else 1, proto := k.proto, place? := none
    parent? := if k = .error then none else some .errorPrototype
    make := fun c => do
      let c := { c with target? := c.target?.or (some c.self) }
      let r ← makeOf c k.proto .error
      if k = .aggregateError then
        fillError r (c.argument 1) (c.argument 2)
        let errors ← newArray (← iterableItems (c.argument 0))
        modifyObject r fun o => o.putNamed (.text "errors") (.method errors)
      else fillError r (c.argument 0) (c.argument 1)
      pure (.object r)
    statics :=
      if k = .error then
        [.method "captureStackTrace" 2 fun c => do
          match c.argument 0 with
          | .object r =>
            let trace ← read fun w => w.trace 1
            modifyObject r fun o => o.putNamed (.text "stack") (.method (.string trace))
            pure .undefined
          | _ => throwType "not an object",
         .method "isError" 1 fun c => do
          match c.argument 0 with
          | .object r =>
            match (← object r).kind with
            | .error => pure (.bool true)
            | _ => pure (.bool false)
          | _ => pure (.bool false)]
      else []
    constants := []
    methods :=
      if k = .error then [.method "toString" 0 fun c => do pure (.string (← errorText c.this))] else []
    tag? := none }

/-- Errors of every class. -/
def errorFamilies : List Family :=
  [.error, .evalError, .rangeError, .referenceError, .syntaxError, .typeError, .uriError,
    .internalError, .aggregateError].map errorFamily

end Library

end Engine

end NotebookEngine
