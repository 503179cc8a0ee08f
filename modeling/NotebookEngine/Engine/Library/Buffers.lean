/-
**Buffers of the library.**

A buffer holds bytes.  It is looked at through views, which are in `Library/Views`, or through windows,
whose methods read and write one number at any place, in either order of its bytes.

Main definitions:

* `Library.thisBuffer` — the buffer that a method is called on;
* `Library.buffers`, `Library.sharedBuffers`, `Library.windows` — families.
-/

import NotebookEngine.Engine.Library.Collections

set_option autoImplicit false

namespace NotebookEngine

namespace Engine

namespace Library

open Act

/-! ### Bytes -/

/-- The greatest number of bytes that a buffer may have. -/
def bufferLimit : Nat := 2147483647

/-- The greatest number of bytes that there is room for. -/
def roomForBytes : Nat := 134217728

/-- A buffer of zeros. -/
def zeroBuffer (size : Nat) (limit? : Option Nat) (shared : Bool) : Act Buffer := do
  if size > bufferLimit then throwRange "invalid array buffer length"
  else if limit?.any (· > bufferLimit) then throwRange "invalid max array buffer length"
  else if size > roomForBytes then throwFault .internalError "out of memory"
  else pure (.zeros size limit? shared)

/-- A new buffer. -/
def newBuffer (b : Buffer) : Act Ref := do
  let proto : Wellknown := if b.shared then .sharedBufferPrototype else .bufferPrototype
  allocate (.make (some proto.ref) (.buffer b))

/-- The buffer at a place. -/
def bufferAt (r : Ref) : Act Buffer := read fun w => w.buffer r

/-- Change a buffer. -/
def changeBuffer (r : Ref) (f : Buffer → Buffer) : Act Unit := change fun w => w.modifyBuffer r f

/-- A buffer's bytes must still be its own. -/
def needAttached (b : Buffer) : Act Unit := do
  if b.detached then throwType "ArrayBuffer is detached"

/-- The name of the kind of a buffer. -/
def bufferName (shared : Bool) : String := if shared then "SharedArrayBuffer" else "ArrayBuffer"

/-- The buffer that a method is called on. -/
def thisBuffer (c : Call) (shared : Bool) : Act (Ref × Buffer) := do
  match c.this with
  | .object r =>
    match (← object r).kind with
    | .buffer b =>
      if b.shared = shared then pure (r, b) else throwType (bufferName shared ++ " object expected")
    | _ => throwType (bufferName shared ++ " object expected")
  | _ => throwType "not an object"

/-- The greatest number of bytes that the options of a new buffer tell. -/
def limitOption (v : Value) : Act (Option Nat) := do
  match v with
  | .object r =>
    match ← getText r "maxByteLength" with
    | .undefined => pure none
    | l => do pure (some (← toIndex l))
  | _ => pure none

/-- A constructor of buffers. -/
def makeBuffer (shared : Bool) (proto : Wellknown) (c : Call) : Act Value := do
  needNew c
  let size ← toIndex (c.argument 0)
  let limit? ← limitOption (c.argument 1)
  if limit?.any (· < size) then throwRange "invalid array buffer max length"
  pure (.object (← makeOf c proto (.buffer (← zeroBuffer size limit? shared))))

/-- The method that copies a part of a buffer. -/
def sliceBuffer (shared : Bool) : Entry :=
  .method "slice" 2 fun c => do
    let (_, b) ← thisBuffer c shared
    needAttached b
    let start ← relativeIndex (c.argument 0) b.bytes.size 0
    let stop ← relativeIndex (c.argument 1) b.bytes.size b.bytes.size
    pure (.object (← newBuffer ⟨b.slice start stop, none, false, shared, none⟩))

/-- The method that changes the number of bytes. -/
def resizeBuffer (name : String) (shared : Bool) : Entry :=
  .method name 1 fun c => do
    let (r, b) ← thisBuffer c shared
    match b.limit? with
    | none => throwType "array buffer is not resizable"
    | some limit =>
      let size ← toIndex (c.argument 0)
      needAttached (← bufferAt r)
      if size > limit || (shared && size < b.bytes.size) then
        throwRange "invalid array buffer length"
      changeBuffer r fun b => b.resize size
      pure .undefined

/-- The method that hands the bytes of a buffer over to a new one. -/
def transferBuffer (name : String) (fixed : Bool) : Entry :=
  .method name 0 fun c => do
    let (r, b) ← thisBuffer c false
    let size ← match c.argument 0 with
      | .undefined => pure b.bytes.size
      | v => toIndex v
    needAttached b
    let room ← zeroBuffer size (if fixed then none else b.limit?) false
    let heir ← newBuffer { room with bytes := (b.resize size).bytes }
    changeBuffer r fun b => ⟨#[], b.limit?, true, b.shared, some (heir, b.bytes.size)⟩
    pure (.object heir)

/-- The getters of buffers. -/
def bufferGetters (shared : Bool) (resizable : String) : List Entry :=
  [.getter "byteLength" fun c => do pure (.ofNat (← thisBuffer c shared).2.bytes.size),
   .getter "maxByteLength" fun c => do
      let (_, b) ← thisBuffer c shared
      pure (.ofNat (if b.detached then 0 else b.limit?.getD b.bytes.size)),
   .getter resizable fun c => do pure (.bool (← thisBuffer c shared).2.limit?.isSome)]

/-- Buffers. -/
def buffers : Family :=
  { name := "ArrayBuffer", length := 1, proto := .bufferPrototype, place? := none, parent? := none
    make := makeBuffer false .bufferPrototype
    statics :=
      [.method "isView" 1 fun c => do
        match c.argument 0 with
        | .object r =>
          match (← object r).kind with
          | .view _ | .window _ => pure (.bool true)
          | _ => pure (.bool false)
        | _ => pure (.bool false),
       speciesEntry]
    constants := []
    methods :=
      bufferGetters false "resizable" ++
      [.getter "detached" fun c => do pure (.bool (← thisBuffer c false).2.detached),
       resizeBuffer "resize" false,
       sliceBuffer false,
       transferBuffer "transfer" false,
       transferBuffer "transferToFixedLength" true]
    tag? := some "ArrayBuffer" }

/-- Buffers that several programs could share. -/
def sharedBuffers : Family :=
  { name := "SharedArrayBuffer", length := 1, proto := .sharedBufferPrototype, place? := none
    parent? := none
    make := makeBuffer true .sharedBufferPrototype
    statics := [speciesEntry], constants := []
    methods := bufferGetters true "growable" ++ [resizeBuffer "grow" true, sliceBuffer true]
    tag? := some "SharedArrayBuffer" }

/-! ### Windows -/

/-- The window that a method is called on. -/
def thisWindow (c : Call) : Act View := do
  match c.this with
  | .object r =>
    match (← object r).kind with
    | .window v => pure v
    | _ => throwType "DataView object expected"
  | _ => throwType "not an object"

/-- The number of bytes of a window, all of which must be there. -/
def windowSize (v : View) : Act Nat := do
  needAttached (← bufferAt v.buffer)
  if ← read fun w => w.viewFits v then read fun w => w.viewLength v
  else throwType "ArrayBuffer is detached or resized"

/-- The place in the buffer of a number of a window. -/
def windowPlace (v : View) (e : Element) (i : Nat) : Act Nat := do
  let size ← windowSize v
  if i + e.width > size then throwRange "out of bound" else pure (v.offset + i)

/-- The methods that read and write numbers of a kind. -/
def numberEntries (e : Element) : List Entry :=
  [.method ("get" ++ e.name) 1 fun c => do
      let v ← thisWindow c
      let i ← toIndex (c.argument 0)
      let start ← windowPlace v e i
      let b ← bufferAt v.buffer
      pure (e.value (b.read start e.width (!(c.argument 1).truth))),
   .method ("set" ++ e.name) 2 fun c => do
      let v ← thisWindow c
      let i ← toIndex (c.argument 0)
      let bits ← elementBits e (c.argument 1)
      let start ← windowPlace v e i
      changeBuffer v.buffer fun b => b.write start e.width bits (!(c.argument 2).truth)
      pure .undefined]

/-- Make a window. -/
def makeWindow (c : Call) : Act Value := do
  needNew c
  let expected {α : Type} : Act α := throwType "ArrayBuffer object expected"
  match c.argument 0 with
  | .object r =>
    match (← object r).kind with
    | .buffer b =>
      let offset ← toIndex (c.argument 1)
      needAttached b
      let size := b.bytes.size
      if offset > size then throwRange "invalid byteOffset"
      let length? ← match c.argument 2 with
        | .undefined => pure (if b.limit?.isSome then none else some (size - offset))
        | l => do
          let n ← toIndex l
          if offset + n > size then throwRange "invalid byteLength" else pure (some n)
      pure (.object (← makeOf c .windowPrototype (.window ⟨r, offset, length?, .uint8⟩)))
    | _ => expected
  | _ => expected

/-- Windows. -/
def windows : Family :=
  { name := "DataView", length := 1, proto := .windowPrototype, place? := none, parent? := none
    make := makeWindow, statics := [], constants := []
    methods :=
      [.getter "buffer" fun c => do pure (.object (← thisWindow c).buffer),
       .getter "byteLength" fun c => do pure (.ofNat (← windowSize (← thisWindow c))),
       .getter "byteOffset" fun c => do
          let v ← thisWindow c
          let _ ← windowSize v
          pure (.ofNat v.offset)] ++
      [Element.int8, .uint8, .int16, .uint16, .int32, .uint32, .bigInt64, .bigUint64, .float16,
       .float32, .float64].flatMap numberEntries
    tag? := some "DataView" }

end Library

end Engine

end NotebookEngine
