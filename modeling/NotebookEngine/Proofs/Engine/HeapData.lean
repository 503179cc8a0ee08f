/-
**Data on the heap.**

An object is data if what it holds can be read without running any part of a program: its properties are
values, it does not say itself how it is written, and it stands in for no other object.  So the data that a
value unfolds to is told from the heap alone, and it stays the same while new objects are put on the heap.

Main definitions:

* `Engine.World.Lacks`, `Engine.World.Reads` — reading a property, along the prototypes;
* `Engine.World.Unfolds` — the data that a value unfolds to;
* `Engine.World.Extends` — the heap with new objects.

Main results:

* `Engine.World.Reads.ends` — **properties are read so**;
* `Engine.World.Reads.extend` — also on a larger heap.
-/

import NotebookEngine.Proofs.Engine.Actions
import NotebookEngine.Proofs.Engine.SharedData

set_option autoImplicit false

namespace NotebookEngine

namespace Engine

open Act

/-! ### Reading properties -/

/-- The object keeps its properties itself: it neither stands in for another one nor is a view. -/
def Object.Direct (o : Object) : Prop :=
  (∀ ends? callable constructs, o.kind ≠ .proxy ends? callable constructs) ∧ ∀ v, o.kind ≠ .view v

/-- Neither the object nor its prototypes, at most so many, have a property. -/
inductive World.Lacks (w : World) (k : Key) : Nat → Ref → Prop
  | last {n : Nat} {ref : Ref} (hlt : ref < w.heap.size) (hdirect : (w.object ref).Direct)
      (hown : (w.object ref).own? k = none) (hproto : (w.object ref).proto = none) : Lacks w k (n + 1) ref
  | next {n : Nat} {ref p : Ref} (hlt : ref < w.heap.size) (hdirect : (w.object ref).Direct)
      (hown : (w.object ref).own? k = none) (hproto : (w.object ref).proto = some p) (h : Lacks w k n p) :
      Lacks w k (n + 1) ref

/-- What is read of an object's property: the value that it holds, or nothing. -/
inductive World.Reads (w : World) (ref : Ref) (k : Key) : Value → Prop
  | own {p : Property} {v : Value} {writable : Bool} (hlt : ref < w.heap.size)
      (hdirect : (w.object ref).Direct) (hown : (w.object ref).own? k = some p)
      (hp : p.content = .value v writable) : Reads w ref k v
  | absent (h : w.Lacks k 10000 ref) : Reads w ref k .undefined

/-- The heap with new objects, and nothing else changed of it. -/
def World.Extends (w w' : World) : Prop :=
  w.heap.size ≤ w'.heap.size ∧ ∀ ref < w.heap.size, w'.object ref = w.object ref

section

variable {w w' : World} {ref : Ref} {k : Key}

theorem World.own?_of_direct (h : (w.object ref).Direct) : w.own? ref k = (w.object ref).own? k := by
  rw [own?]
  split
  next v hview => exact absurd hview (h.2 v)
  next => rfl

theorem World.ownKeys_of_direct (h : (w.object ref).Direct) : w.ownKeys ref = (w.object ref).ownKeys := by
  rw [ownKeys]
  split
  next v hview => exact absurd hview (h.2 v)
  next => rfl

theorem Object.isView_of_direct {o : Object} (h : o.Direct) : o.isView = false := by
  rw [isView]
  split
  next v hview => exact absurd hview (h.2 v)
  next => rfl

theorem World.Lacks.lt {n : Nat} (h : w.Lacks k n ref) : ref < w.heap.size := by
  cases h with
  | last hlt => exact hlt
  | next hlt => exact hlt

/-- What is lacking is still lacking on the larger heap. -/
theorem World.Lacks.extend {n : Nat} (h : w.Lacks k n ref) (hw : w.Extends w') : w'.Lacks k n ref := by
  induction h with
  | last hlt hdirect hown hproto =>
      have hsame := hw.2 _ hlt
      exact .last (Nat.lt_of_lt_of_le hlt hw.1) (hsame ▸ hdirect) (hsame ▸ hown) (hsame ▸ hproto)
  | next hlt hdirect hown hproto _ ih =>
      have hsame := hw.2 _ hlt
      exact .next (Nat.lt_of_lt_of_le hlt hw.1) (hsame ▸ hdirect) (hsame ▸ hown) (hsame ▸ hproto) ih

/-- What is read is still read on the larger heap. -/
theorem World.Reads.extend {v : Value} (h : w.Reads ref k v) (hw : w.Extends w') : w'.Reads ref k v := by
  cases h with
  | absent h => exact .absent (h.extend hw)
  | own hlt hdirect hown hp =>
      have hsame := hw.2 ref hlt
      exact .own (Nat.lt_of_lt_of_le hlt hw.1) (hsame ▸ hdirect) (hsame ▸ hown) hp

theorem World.Lacks.find_eq {n : Nat} (h : w.Lacks k n ref) : w.find k n ref = .absent := by
  induction h with
  | last hlt hdirect hown hproto =>
      rw [find]
      split
      next hproxy => exact absurd hproxy (hdirect.1 _ _ _)
      next =>
        rw [own?_of_direct hdirect, hown, Object.isView_of_direct hdirect, hproto]
        rfl
  | next hlt hdirect hown hproto _ ih =>
      rw [find]
      split
      next hproxy => exact absurd hproxy (hdirect.1 _ _ _)
      next =>
        rw [own?_of_direct hdirect, hown, Object.isView_of_direct hdirect, hproto]
        exact ih

variable (a : Answerer)

/-- **Properties are read so.** -/
theorem World.Reads.ends {v : Value} (h : w.Reads ref k v) (receiver : Value) :
    (getFrom ref k receiver).Ends a w (.ok v) w := by
  cases h with
  | absent h => exact ends_getFrom_absent h.find_eq receiver
  | own hlt hdirect hown hp =>
      exact ends_getFrom (World.find_own hdirect.1 (World.own?_of_direct hdirect ▸ hown)) hp receiver

/-- The keys that are gone through. -/
theorem ends_enumerableOwn (h : (w.object ref).Direct) :
    (enumerableOwn ref).Ends a w (.ok ((w.object ref).ownKeys.filter fun k =>
      k.isText && ((w.object ref).own? k).any Property.enumerable)) w := by
  have hkeys : (keysOf ref).Ends a w (.ok (w.object ref).ownKeys) w := by
    rw [keysOf, show questionDepth = 999 + 1 from rfl, keysWithin]
    refine (ends_object ref).bind ?_
    split
    next hproxy => exact absurd hproxy (h.1 _ _ _)
    next => exact World.ownKeys_of_direct h ▸ ends_read _
  refine hkeys.bind ((ends_object ref).bind ?_)
  split
  next hproxy => exact absurd hproxy (h.1 _ _ _)
  next =>
    have hown : (fun k => k.isText && ((w.object ref).own? k).any Property.enumerable) =
        fun k => k.isText && (w.own? ref k).any Property.enumerable :=
      funext fun k => by rw [World.own?_of_direct h]
    exact hown ▸ ends_read _

end

/-! ### Data -/

/-- The object is written as a record. -/
def Object.IsRecord (o : Object) : Prop :=
  match o.kind with
  | .array _ _ _ _ | .function _ _ | .boxed _ | .proxy _ _ _ | .view _ => False
  | _ => True

/-- How an object is written, and the keys of its parts. -/
inductive Object.Holds (o : Object) : Form → List Key → Prop
  | list {items : Array (Option Value)} {length : Nat} {writable configurable : Bool}
      (hkind : o.kind = .array items length writable configurable) :
      Holds o .list ((List.range length).map .index)
  | record (hrecord : o.IsRecord) :
      Holds o .record (o.ownKeys.filter fun k => k.isText && (o.own? k).any Property.enumerable)

/-- An object that is data is neither a function nor a boxed value, and it keeps its properties itself. -/
theorem Object.Holds.apart {o : Object} {form : Form} {keys : List Key} (h : o.Holds form keys) :
    o.isCallable = false ∧ (∀ v, o.kind ≠ .boxed v) ∧ o.Direct := by
  rw [isCallable, Direct]
  cases h with
  | list hkind => simp [hkind]
  | record hrecord =>
      rw [IsRecord] at hrecord
      cases hkind : o.kind <;> simp [hkind] at hrecord ⊢

/-- The key under which an object says how it is written. -/
def hookKey : Key := .text "toJSON"

open Library

mutual

/-- The data that a value unfolds to.  Texts, numbers and the like are written as they are, large numbers and
functions as texts. -/
inductive World.Unfolds (w : World) : Value → Shown → Prop
  | undefined : Unfolds w .undefined .nothing
  | symbol (id : Nat) : Unfolds w (.symbol id) .nothing
  | null : Unfolds w .null (.leaf "null")
  | bool (b : Bool) : Unfolds w (.bool b) (.leaf (if b then "true" else "false"))
  | number (x : Float) : Unfolds w (.number x) (.leaf (if x.isFinite then Script.numberText x else "null"))
  | string (s : String) : Unfolds w (.string s) (.leaf (quoteText s))
  | bigint (i : Int) (hhook : w.Lacks hookKey 10000 Wellknown.bigintPrototype.ref) :
      Unfolds w (.bigint i) (.leaf (quoteText (toString i)))
  | function {ref : Ref} {f : Callable} {constructs : Bool} {name : String}
      (hkind : (w.object ref).kind = .function f constructs) (hhook : w.Lacks hookKey 10000 ref)
      (hname : w.Reads ref (.text "name") (.string name)) :
      Unfolds w (.object ref)
        (.leaf (quoteText ("[Function " ++ (if name.isEmpty then "anonymous" else name) ++ "]")))
  | object {ref : Ref} {form : Form} {keys : List Key} {parts : Parts} (hhook : w.Lacks hookKey 10000 ref)
      (hholds : (w.object ref).Holds form keys) (hparts : UnfoldsParts w ref keys parts) :
      Unfolds w (.object ref) (.object ref form parts)

/-- The data that the properties of an object under some keys unfold to. -/
inductive World.UnfoldsParts (w : World) : Ref → List Key → Parts → Prop
  | nil {ref : Ref} : UnfoldsParts w ref [] .nil
  | cons {ref : Ref} {k : Key} {keys : List Key} {v : Value} {x : Shown} {rest : Parts}
      (hread : w.Reads ref k v) (hvalue : Unfolds w v x) (hrest : UnfoldsParts w ref keys rest) :
      UnfoldsParts w ref (k :: keys) (.cons (k.text?.getD "") x rest)

end

end Engine

end NotebookEngine
