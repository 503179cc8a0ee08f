/-
**Sorting by comparisons that are actions.**

A comparison may be a function of the program, so it shows which items are compared and when.  Long
stretches are divided around an item between the least and the greatest of three, short ones are sorted by
insertion, and a stretch that was divided too often is sorted as a heap.

Main definitions:

* `Library.Slot` — an item with its place before sorting;
* `Library.Comparing` — a comparison of two slots;
* `Library.sortSlots` — slots in order.
-/

import NotebookEngine.Engine.Library.Entry

set_option autoImplicit false

namespace NotebookEngine

namespace Engine

namespace Library

open Act

/-! ### Slots -/

/-- An item that is sorted. -/
structure Slot where
  value : Value
  /-- The text of the value, once it has been asked for. -/
  text? : Option String
  /-- The place that the item had. -/
  place : Nat
  deriving Inhabited

/-- The items that are sorted. -/
abbrev Slots := Array Slot

/-- Compares the slots at two places. -/
abbrev Comparing := Slots → Nat → Nat → Act (Ordering × Slots)

/-- The slot at a place. -/
def Slots.slot (s : Slots) (i : Nat) : Slot := s[i]?.getD default

/-- The slots of values. -/
def Slots.ofValues (vs : List Value) : Slots := (vs.mapIdx fun i v => ⟨v, none, i⟩).toArray

/-- The values of slots. -/
def Slots.values (s : Slots) : List Value := s.toList.map Slot.value

/-! ### Comparisons -/

/-- The order that a number tells. -/
def orderOfNumber (x : Float) : Ordering := if x > 0 then .gt else if x < 0 then .lt else .eq

/-- The order that a function tells. -/
def orderBy (f x y : Value) : Act Ordering := do
  pure (orderOfNumber (← toNumber (← call f .undefined [x, y])))

/-- Items that compare equal stay in the order that they had. -/
def stable (s : Slots) (i j : Nat) (o : Ordering) : Ordering :=
  o.then (compare (s.slot i).place (s.slot j).place)

/-- Compares by a function, which is not asked about the same value twice over. -/
def comparingBy (f : Value) : Comparing := fun s i j => do
  let (x, y) := ((s.slot i).value, (s.slot j).value)
  let o ← if x.same y then pure .eq else orderBy f x y
  pure (stable s i j o, s)

/-- The text of a slot, which is asked for only once. -/
def slotText (s : Slots) (i : Nat) : Act (String × Slots) := do
  let slot := s.slot i
  match slot.text? with
  | some t => pure (t, s)
  | none =>
    let t ← toText slot.value
    pure (t, s.setIfInBounds i { slot with text? := some t })

/-- Compares by the texts of the values. -/
def comparingTexts : Comparing := fun s i j => do
  let (t, s) ← slotText s i
  let (u, s) ← slotText s j
  let o := if t = u then Ordering.eq else if Script.textBefore t u then .lt else .gt
  pure (stable s i j o, s)

/-- Compares by a function, or by texts if there is none. -/
def comparing (f : Value) : Comparing := if f.isUndefined then comparingTexts else comparingBy f

/-! ### Short stretches -/

/-- Moves a slot down to its place among those before it, from `base` on. -/
def sink (cmp : Comparing) (base : Nat) (s : Slots) (i : Nat) : Act Slots :=
  loop (s, i) fun (s, i) => do
    if i ≤ base then pure (.ok s)
    else
      let (o, s) ← cmp s (i - 1) i
      if o = .gt then pure (.error (s.swapIfInBounds i (i - 1), i - 1)) else pure (.ok s)

/-- Sorts by insertion. -/
def insertionSort (cmp : Comparing) (base count : Nat) (s : Slots) : Act Slots :=
  (List.range (count - 1)).foldlM (fun s k => sink cmp base s (base + k + 1)) s

/-! ### Heaps -/

/-- Moves a slot of a heap, the `r`-th of `count`, down below greater ones. -/
def siftDown (cmp : Comparing) (base count : Nat) (s : Slots) (r : Nat) : Act Slots :=
  loop (s, r) fun (s, r) => do
    let c := 2 * r + 1
    if c ≥ count then pure (.ok s)
    else
      let (c, s) ← if c + 1 < count then do
          let (o, s) ← cmp s (base + c) (base + c + 1)
          pure (if o = .gt then c else c + 1, s)
        else pure (c, s)
      let (o, s) ← cmp s (base + r) (base + c)
      if o = .gt then pure (.ok s)
      else pure (.error (s.swapIfInBounds (base + r) (base + c), c))

/-- Sorts as a heap. -/
def heapSort (cmp : Comparing) (base count : Nat) (s : Slots) : Act Slots := do
  let s ← (List.range (count / 2)).reverse.foldlM (siftDown cmp base count) s
  (List.range (count - 1)).foldlM (fun s k => do
    let last := count - 1 - k
    siftDown cmp base last (s.swapIfInBounds base (base + last)) 0) s

/-! ### Dividing -/

/-- The place of the middle one of three slots. -/
def middle (cmp : Comparing) (s : Slots) (a b c : Nat) : Act (Nat × Slots) := do
  let (o, s) ← cmp s a b
  let (p, s) ← cmp s b c
  if (o = .lt && p = .lt) || (o ≠ .lt && p = .gt) then pure (b, s)
  else
    let (q, s) ← cmp s a c
    pure (if o = .lt then (if q = .lt then c else a) else (if q = .lt then a else c), s)

/-- Swaps two stretches. -/
def swapStretches (s : Slots) (a b count : Nat) : Slots :=
  (List.range count).foldl (fun s k => s.swapIfInBounds (a + k) (b + k)) s

/-- A stretch that is being divided around its first slot: slots equal to that one, smaller ones, those
not yet looked at, greater ones, and again equal ones, each part starting where the one before ends. -/
structure Division where
  slots : Slots
  smaller : Nat
  fresh : Nat
  greater : Nat
  equal : Nat

/-- Passes over slots that are not greater, from the front. -/
def scanUp (cmp : Comparing) (pivot : Nat) (d : Division) : Act Division :=
  loop d fun d => do
    if d.fresh ≥ d.greater then pure (.ok d)
    else
      let (o, slots) ← cmp d.slots pivot d.fresh
      match o with
      | .lt => pure (.ok { d with slots })
      | .gt => pure (.error { d with slots, fresh := d.fresh + 1 })
      | .eq =>
        pure (.error { d with
          slots := slots.swapIfInBounds d.smaller d.fresh
          smaller := d.smaller + 1
          fresh := d.fresh + 1 })

/-- Passes over slots that are not smaller, from the back. -/
def scanDown (cmp : Comparing) (pivot : Nat) (d : Division) : Act Division :=
  loop d fun d => do
    let d := { d with greater := d.greater - 1 }
    if d.fresh ≥ d.greater then pure (.ok d)
    else
      let (o, slots) ← cmp d.slots pivot d.greater
      match o with
      | .gt => pure (.ok { d with slots })
      | .lt => pure (.error { d with slots })
      | .eq =>
        pure (.error { d with
          slots := slots.swapIfInBounds (d.equal - 1) d.greater
          equal := d.equal - 1 })

/-- Divides a stretch around its first slot: the slots, the number of smaller ones at the front and of
greater ones at the back. -/
def divide (cmp : Comparing) (base count : Nat) (s : Slots) : Act (Slots × Nat × Nat) := do
  let top := base + count
  let d ← loop (⟨s, base + 1, base + 1, top, top⟩ : Division) fun d => do
    let d ← scanDown cmp base (← scanUp cmp base d)
    if d.fresh ≥ d.greater then pure (.ok d)
    else
      pure (.error { d with
        slots := d.slots.swapIfInBounds d.fresh d.greater, fresh := d.fresh + 1 })
  let smaller := d.fresh - d.smaller
  let greater := d.equal - d.fresh
  let front := min (d.smaller - base) smaller
  let slots := swapStretches d.slots base (d.fresh - front) front
  let back := min (top - d.equal) greater
  pure (swapStretches slots d.fresh (top - back) back, smaller, greater)

/-! ### Sorting -/

/-- A stretch to be sorted, and how often it has been divided. -/
structure Stretch where
  base : Nat
  count : Nat
  depth : Nat

/-- The number of items that are sorted by insertion. -/
def shortCount : Nat := 6

/-- How often a stretch is divided. -/
def divisionLimit : Nat := 50

/-- Sorts a stretch, or divides it: the stretches that are left, the one to be sorted next first. -/
def sortStretch (cmp : Comparing) (t : Stretch) (s : Slots) : Act (List Stretch × Slots) := do
  let depth := t.depth + 1
  if t.count ≤ shortCount then pure ([], ← insertionSort cmp t.base t.count s)
  else if depth > divisionLimit then pure ([], ← heapSort cmp t.base t.count s)
  else
    let quarter := t.count / 4
    let (m, s) ←
      middle cmp s (t.base + quarter) (t.base + 2 * quarter) (t.base + 3 * quarter)
    let (s, smaller, greater) ← divide cmp t.base t.count (s.swapIfInBounds t.base m)
    let front : Stretch := ⟨t.base, smaller, depth⟩
    let back : Stretch := ⟨t.base + t.count - greater, greater, depth⟩
    pure (if smaller > greater then [back, front] else [front, back], s)

/-- Slots in order. -/
def sortSlots (cmp : Comparing) (s : Slots) : Act Slots :=
  loop (([⟨0, s.size, 0⟩] : List Stretch), s) fun (stretches, s) => do
    match stretches with
    | [] => pure (.ok s)
    | t :: rest =>
      let (more, s) ← sortStretch cmp t s
      pure (.error (more ++ rest, s))

/-- The function to sort by must be one, if it is given. -/
def needComparison (f : Value) : Act Unit := do
  if !f.isUndefined && !(← isCallable f) then throwType "not a function"

/-- Values in order, by a function or by their texts; those that are undefined come last. -/
def sortValues (f : Value) (vs : List Value) : Act (List Value) := do
  let sorted ← sortSlots (comparing f) (.ofValues (vs.filter fun v => !v.isUndefined))
  pure (sorted.values ++ vs.filter Value.isUndefined)

end Library

end Engine

end NotebookEngine
