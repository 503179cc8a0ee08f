/-
**Views of bytes.**

The items of a view are not kept in the view: they are bytes of a buffer, which other views may share and
which may get smaller.  So what properties a view has depends on the whole state.

Main definitions:

* `Engine.World.viewLength`, `Engine.World.viewItem?`, `Engine.World.setViewItem` — the items of a view;
* `Engine.Key.isNumber` — the names that are never kept as properties of a view;
* `Engine.World.own?`, `Engine.World.ownKeys` — the own properties of an object, be it a view or not.
-/

import NotebookEngine.Engine.World
import NotebookEngine.Text.Numeral

set_option autoImplicit false

namespace NotebookEngine

namespace Engine

/-- Whether the name of a property writes a number, whatever number it is. -/
def Key.isNumber : Key → Bool
  | index _ => true
  | text s => s = "-0" || Script.numberText (Numeral.ofText s) = s
  | _ => false

namespace World

/-! ### Items -/

/-- The buffer at a place. -/
def buffer (w : World) (r : Ref) : Buffer :=
  match (w.object r).kind with
  | .buffer b => b
  | _ => .zeros 0 none false

/-- The place of the buffer that holds the bytes of another one, which may have handed them over several
times. -/
def holder (w : World) : Nat → Ref → Ref
  | 0, r => r
  | fuel + 1, r =>
    match (w.buffer r).heir? with
    | some (heir, _) => w.holder fuel heir
    | none => r

/-- The number of bytes that views of a buffer may reach: those it has, or had when it handed them over. -/
def reach (w : World) (r : Ref) : Nat :=
  let b := w.buffer r
  match b.heir? with
  | some (_, size) => size
  | none => b.bytes.size

/-- Whether the bytes of a view are within reach. -/
def viewReaches (w : World) (v : View) : Bool :=
  v.offset + (v.length?.getD 0) * v.element.width ≤ w.reach v.buffer

/-- Whether the bytes of a view are all there. -/
def viewFits (w : World) (v : View) : Bool := !(w.buffer v.buffer).detached && w.viewReaches v

/-- The number of items of a view, none if its bytes are not all within reach. -/
def viewLength (w : World) (v : View) : Nat :=
  if w.viewReaches v then v.length?.getD ((w.reach v.buffer - v.offset) / v.element.width) else 0

/-- An item of a view. -/
def viewItem? (w : World) (v : View) (i : Nat) : Option Value :=
  if i < w.viewLength v then
    let width := v.element.width
    let bytes := w.buffer (w.holder 1000 v.buffer)
    some (v.element.value (bytes.read (v.offset + i * width) width false))
  else none

/-- The state with a buffer changed. -/
def modifyBuffer (w : World) (r : Ref) (f : Buffer → Buffer) : World :=
  w.modify r fun o =>
    match o with
    | ⟨proto, extensible, .buffer b, properties⟩ => ⟨proto, extensible, .buffer (f b), properties⟩
    | o => o

/-- The state with the bits of an item of a view written, if there is such an item. -/
def setViewItem (w : World) (v : View) (i bits : Nat) : World :=
  if i < w.viewLength v then
    let width := v.element.width
    w.modifyBuffer (w.holder 1000 v.buffer) fun b => b.write (v.offset + i * width) width bits false
  else w

/-! ### Own properties -/

/-- An own property of the object at a place. -/
def own? (w : World) (r : Ref) (k : Key) : Option Property :=
  let o := w.object r
  match o.kind with
  | .view v =>
    match k with
    | .index i => (w.viewItem? v i).map .plain
    | _ => if k.isNumber then none else o.named? k
  | _ => o.own? k

/-- The keys of the own properties of the object at a place. -/
def ownKeys (w : World) (r : Ref) : List Key :=
  let o := w.object r
  match o.kind with
  | .view v => (List.range (w.viewLength v)).map .index ++ o.ownKeys
  | _ => o.ownKeys

end World

end Engine

end NotebookEngine
