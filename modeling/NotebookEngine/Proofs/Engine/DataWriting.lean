/-
**Writing data for the host.**

What a program displays, and the variables that are captured of its cells, are written as JSON for the host.
The objects that were met are noted on the way, so that circles come to an end; an object that is noted is
written as a mark when it is met again, whether it lies within itself or not.

Main definitions:

* `Engine.Library.Midway` — the state while a value is written;
* `Engine.Library.Writes` — writing the parts of an object, one after the other.

Main results:

* `Engine.Library.ends_writeValue` — data is written with marks;
* `Engine.Library.stringify_marks_met_again` — **what is met again is lost**.
-/

import NotebookEngine.Engine.Library.Workbench
import NotebookEngine.Proofs.Engine.HeapData
import NotebookEngine.Proofs.Engine.ModuleRequests
import Std.Data.HashMap.Lemmas

set_option autoImplicit false

namespace NotebookEngine

namespace Engine

/-- An object that is put into a collection is in it then. -/
theorem Collection.contains_put_object (c : Collection) (ref ref' : Ref) (v : Value) :
    (c.put (.object ref) v).contains (.object ref') = true ↔ ref' = ref ∨ c.contains (.object ref') = true := by
  have hmark : ∀ r, (Value.object r).mark = .object r := fun _ => rfl
  have hkey : normalKey (.object ref) = .object ref := rfl
  rw [put, hkey]
  simp only [contains, hmark]
  cases hplace : c.places.get? (.object ref) with
  | some i =>
      have hmem : c.places.contains (.object ref) = true := by
        rw [Std.HashMap.contains_eq_isSome_getElem?]
        exact Option.isSome_of_eq_some hplace
      refine ⟨.inr, fun h => h.elim (fun heq => heq ▸ hmem) id⟩
  | none =>
      rw [Std.HashMap.contains_insert, Bool.or_eq_true, beq_iff_eq, Value.Mark.object.injEq, eq_comm]

mutual

/-- The data lies within a depth, and no object has endlessly many parts. -/
def Shown.Fits : Shown → Nat → Prop
  | _, 0 => False
  | .object _ _ parts, n + 1 => parts.Fits n ∧ parts.length < endless
  | _, _ + 1 => True

/-- The parts lie within a depth. -/
def Parts.Fits : Parts → Nat → Prop
  | .nil, _ => True
  | .cons _ value rest, n => value.Fits n ∧ rest.Fits n

/-- The number of parts. -/
def Parts.length : Parts → Nat
  | .nil => 0
  | .cons _ _ rest => rest.length + 1

end

namespace Library

open Act

/-! ### The objects that were met -/

/-- The state is the one that was written from, with new objects, one of which notes the objects that were
met. -/
structure Midway (w : World) (seen : List Ref) (w' : World) : Prop where
  heap : ∃ heap, w' = { w with heap }
  ext : w.Extends w'
  lt : w.heap.size < w'.heap.size
  noted : ∃ c, (w'.object w.heap.size).kind = .set c true ∧ ∀ ref, c.contains (.object ref) = true ↔ ref ∈ seen

variable {w w' : World} {seen : List Ref} (a : Answerer)

namespace Midway

theorem start (w : World) (o : Object) : Midway w [] ((w.push (.make none (.set .empty true))).push o) := by
  have hfirst := w.heap_size_push (.make none (.set .empty true))
  have hsecond := (w.push (.make none (.set .empty true))).heap_size_push o
  have hpast : ∀ ref ≤ w.heap.size, ((w.push (.make none (.set .empty true))).push o).object ref =
      (w.push (.make none (.set .empty true))).object ref :=
    fun ref href => World.object_push_of_lt (hfirst ▸ Nat.lt_succ_of_le href) o
  refine ⟨⟨_, rfl⟩, ⟨by omega, ?_⟩, by omega, .empty, ?_, ?_⟩
  · intro ref href
    rw [hpast ref (Nat.le_of_lt href), World.object_push_of_lt href]
  · rw [hpast _ (Nat.le_refl _), World.object_push_self]
    rfl
  · simp [Collection.contains, Collection.empty]

/-- An object is noted. -/
theorem note (h : Midway w seen w') (ref : Ref) :
    ∃ w'', (changeSet w.heap.size fun e => e.put (.object ref) (.object ref)).Ends a w' (.ok ()) w'' ∧
      Midway w (ref :: seen) w'' := by
  obtain ⟨⟨heap, hheap⟩, ⟨hsize, hsame⟩, hlt, c, hkind, hc⟩ := h
  refine ⟨_, ends_modifyObject _ _, ⟨⟨_, by rw [hheap]; rfl⟩, ⟨?_, ?_⟩, ?_,
    c.put (.object ref) (.object ref), ?_, ?_⟩⟩
  · rwa [World.heap_size_modify]
  · intro r hr
    rw [World.object_modify_of_ne (Nat.ne_of_gt hr), hsame r hr]
  · rwa [World.heap_size_modify]
  · rw [World.object_modify_self hlt, hkind]
  · intro r
    rw [Collection.contains_put_object, hc, List.mem_cons]

theorem ends_entries (h : Midway w seen w') :
    ∃ c, (entriesOf w.heap.size).Ends a w' (.ok c) w' ∧ ∀ ref, c.contains (.object ref) = true ↔ ref ∈ seen := by
  obtain ⟨c, hkind, hc⟩ := h.noted
  refine ⟨c, (ends_object _).bind ?_, hc⟩
  rw [hkind]
  exact ends_pure c

end Midway

/-- An object that was met before is written as a mark. -/
theorem ends_readable_again {ref : Ref} (h : Midway w seen w') (hcallable : (w'.object ref).isCallable = false)
    (hseen : ref ∈ seen) :
    (readable w.heap.size (.object ref)).Ends a w' (.ok (.string "[Circular]")) w' := by
  obtain ⟨c, hentries, hc⟩ := h.ends_entries a
  rw [readable]
  refine (ends_object ref).bind ?_
  rw [hcallable, if_neg Bool.false_ne_true]
  refine hentries.bind ?_
  rw [if_pos ((hc ref).2 hseen)]
  exact ends_pure _

/-- An object that was not met before is noted. -/
theorem ends_readable_fresh {ref : Ref} (h : Midway w seen w') (hcallable : (w'.object ref).isCallable = false)
    (hseen : ref ∉ seen) :
    ∃ w'', (readable w.heap.size (.object ref)).Ends a w' (.ok (.object ref)) w'' ∧ Midway w (ref :: seen) w'' := by
  obtain ⟨c, hentries, hc⟩ := h.ends_entries a
  obtain ⟨w'', hnote, hmid⟩ := h.note a ref
  refine ⟨w'', ?_, hmid⟩
  rw [readable]
  refine (ends_object ref).bind ?_
  rw [hcallable, if_neg Bool.false_ne_true]
  refine hentries.bind ?_
  rw [if_neg fun hmem => hseen ((hc ref).1 hmem)]
  exact hnote.bind (ends_pure _)

/-! ### What takes the place of a value -/

/-- How data is written for the host. -/
def marking (seen : Ref) : Writing := { replace := fun _ _ v => readable seen v, keys? := none, gap := "" }

section

variable {w'' : World} {holder : Value} {k : Key} {ref : Ref}

/-- What is neither an object nor a large number stays in its place. -/
theorem ends_replaced_self {v : Value} (hv : match v with | .object _ | .bigint _ => False | _ => True) :
    (replaced (marking w.heap.size) holder k v).Ends a w' (.ok v) w' := by
  cases v with
  | object r => exact hv.elim
  | bigint i => exact hv.elim
  | _ => exact Ends.bind (ends_pure _) (Ends.bind (ends_pure _) (ends_pure _))

/-- A boxed value is taken out of its box. -/
def unboxed (v : Value) : Act Value := do
  match v with
  | .object r =>
    match (← object r).kind with
    | .boxed (.number _) => pure (.number (← toNumber v))
    | .boxed (.string _) => pure (.string (← toText v))
    | .boxed b => pure b
    | _ => pure v
  | _ => pure v

/-- An object that does not say itself how it is written is replaced by what is readable of it. -/
theorem ends_replaced_object {v : Value} (hhook : w.Lacks hookKey 10000 ref) (hw : w.Extends w')
    (hreadable : (readable w.heap.size (.object ref)).Ends a w' (.ok v) w'')
    (hunboxed : (unboxed v).Ends a w'' (.ok v) w'') :
    (replaced (marking w.heap.size) holder k (.object ref)).Ends a w' (.ok v) w'' := by
  have hhead : (getFrom ref hookKey (.object ref)).Ends a w' (.ok .undefined) w' :=
    (World.Reads.absent (hhook.extend hw)).ends a _
  refine hhead.bind (Ends.bind (ends_pure false) ?_)
  rw [if_neg Bool.false_ne_true]
  exact Ends.bind (ends_pure _) (hreadable.bind hunboxed)

theorem ends_replaced_bigint (i : Int) (hhook : w.Lacks hookKey 10000 Wellknown.bigintPrototype.ref)
    (hw : w.Extends w') :
    (replaced (marking w.heap.size) holder k (.bigint i)).Ends a w' (.ok (.string (toString i))) w' := by
  have hhead : (getFrom Wellknown.bigintPrototype.ref hookKey (.bigint i)).Ends a w' (.ok .undefined) w' :=
    (World.Reads.absent (hhook.extend hw)).ends a _
  refine hhead.bind (Ends.bind (ends_pure false) ?_)
  rw [if_neg Bool.false_ne_true]
  exact Ends.bind (ends_pure _) (Ends.bind (ends_pure _) (ends_pure _))

/-- An object that is data is in no box. -/
theorem ends_unboxed {form : Form} {keys : List Key} (h : (w.object ref).Holds form keys) :
    (unboxed (.object ref)).Ends a w (.ok (.object ref)) w := by
  obtain ⟨-, hboxed, -⟩ := h.apart
  refine (ends_object ref).bind ?_
  split
  next x hkind => exact absurd hkind (hboxed _)
  next x hkind => exact absurd hkind (hboxed _)
  next x _ _ hkind => exact absurd hkind (hboxed _)
  next => exact ends_pure _

end

/-! ### Writing parts -/

/-- The parts of an object are read and written one after the other. -/
inductive Writes (a : Answerer) (seen : Ref) (fuel : Nat) (above : List Ref) (indent : String) (ref : Ref) :
    List Key → Parts → World → World → Prop
  | nil {w : World} : Writes a seen fuel above indent ref [] .nil w w
  | cons {k : Key} {keys : List Key} {v : Value} {x : Shown} {rest : Parts} {w w' w'' : World}
      (hread : (getOf ref k).Ends a w (.ok v) w)
      (hwrite : (writeValue (marking seen) fuel above indent (.object ref) k v).Ends a w (.ok x.text?) w')
      (hrest : Writes a seen fuel above indent ref keys rest w' w'') :
      Writes a seen fuel above indent ref (k :: keys) (.cons (k.text?.getD "") x rest) w w''

/-- A round of the loop that writes the items of a list. -/
def itemRound (w : Writing) (fuel : Nat) (above : List Ref) (indent : String) (ref : Ref) (n : Nat) :
    Nat × List String → Act (Except (Nat × List String) (List String)) := fun (i, parts) => do
  if i < n then
    let x ← getOf ref (.index i)
    let part ← writeValue w fuel above indent (.object ref) (.index i) x
    pure (.error (i + 1, part.getD "null" :: parts))
  else pure (.ok parts.reverse)

/-- A round of the loop that writes the fields of a record. -/
def fieldRound (w : Writing) (fuel : Nat) (above : List Ref) (indent : String) (ref : Ref) :
    List Key × List String → Act (Except (List Key × List String) (List String)) := fun (keys, parts) => do
  match keys with
  | [] => pure (.ok parts.reverse)
  | k :: keys =>
    let x ← getOf ref k
    match ← writeValue w fuel above indent (.object ref) k x with
    | some text =>
      let name := quoteText (k.text?.getD "") ++ (if w.gap.isEmpty then ":" else ": ")
      pure (.error (keys, (name ++ text) :: parts))
    | none => pure (.error (keys, parts))

section

variable {fuel : Nat} {above : List Ref} {indent : String} {ref s : Ref} {w w' : World} {keys : List Key}
  {parts : Parts}

/-- The loop over the items of a list. -/
theorem ends_items (h : Writes a s fuel above indent ref keys parts w w') {i length m : Nat}
    (hkeys : keys = (List.range' i length).map .index) (hm : length < m) (acc : List String) :
    (loopFor (itemRound (marking s) fuel above indent ref (i + length)) m (i, acc)).Ends a w
      (.ok (acc.reverse ++ parts.items)) w' := by
  -- By induction on the writes: the rounds that are over have left their texts, the last one first.
  induction h generalizing i length m acc with
  | nil =>
      obtain ⟨m, rfl⟩ := Nat.exists_eq_add_one_of_ne_zero (Nat.ne_of_gt (Nat.zero_lt_of_lt hm))
      have hlength : length = 0 := by
        rw [eq_comm, List.map_eq_nil_iff, List.range'_eq_nil_iff] at hkeys
        exact hkeys
      refine ends_loopFor_last ?_
      rw [itemRound, hlength, Nat.add_zero, if_neg (Nat.lt_irrefl i), Parts.items, List.append_nil]
      exact ends_pure _
  | @cons k keys v x rest w₀ w₁ w₂ hread hwrite hrest ih =>
      cases length with
      | zero => cases hkeys
      | succ length =>
          obtain ⟨m, rfl⟩ := Nat.exists_eq_add_one_of_ne_zero (Nat.ne_of_gt (Nat.zero_lt_of_lt hm))
          rw [List.range'_succ, List.map_cons, List.cons.injEq] at hkeys
          obtain ⟨rfl, hkeys⟩ := hkeys
          have hround : (itemRound (marking s) fuel above indent ref (i + (length + 1)) (i, acc)).Ends a w₀
              (.ok (.error (i + 1, x.text?.getD "null" :: acc))) w₁ := by
            rw [itemRound, if_pos (by omega)]
            exact hread.bind (hwrite.bind (ends_pure _))
          have hloop := ih hkeys (by omega : length < m) (x.text?.getD "null" :: acc)
          rw [List.reverse_cons, List.append_assoc, List.singleton_append, Nat.succ_add_eq_add_succ] at hloop
          exact ends_loopFor_next hround hloop

/-- The loop over the fields of a record. -/
theorem ends_fields (h : Writes a s fuel above indent ref keys parts w w') {m : Nat}
    (hm : keys.length < m) (acc : List String) :
    (loopFor (fieldRound (marking s) fuel above indent ref) m (keys, acc)).Ends a w
      (.ok (acc.reverse ++ parts.fields)) w' := by
  induction h generalizing m acc with
  | nil =>
      obtain ⟨m, rfl⟩ := Nat.exists_eq_add_one_of_ne_zero (Nat.ne_of_gt (Nat.zero_lt_of_lt hm))
      refine ends_loopFor_last ?_
      rw [Parts.fields, List.append_nil]
      exact ends_pure _
  | @cons k keys v x rest w₀ w₁ w₂ hread hwrite hrest ih =>
      obtain ⟨m, rfl⟩ := Nat.exists_eq_add_one_of_ne_zero (Nat.ne_of_gt (Nat.zero_lt_of_lt hm))
      have hm' : keys.length < m := Nat.lt_of_succ_lt_succ hm
      rw [Parts.fields]
      cases htext : x.text? with
      | none =>
          rw [htext] at hwrite
          exact ends_loopFor_next (hread.bind (hwrite.bind (ends_pure _))) (ih hm' acc)
      | some text =>
          rw [htext] at hwrite
          have hloop := ih hm' ((quoteText (k.text?.getD "") ++ ":" ++ text) :: acc)
          rw [List.reverse_cons, List.append_assoc, List.singleton_append] at hloop
          exact ends_loopFor_next (hread.bind (hwrite.bind (ends_pure _))) hloop

end

/-! ### Writing data -/

section

variable {fuel : Nat} {above : List Ref} {indent : String} {holder v : Value} {k : Key}

/-- What has no parts is written as its text, or left out. -/
theorem ends_writeValue_plain {x : Shown} (h : w.Unfolds v x) (hx : x.refs = []) (hw : w.Extends w') :
    (writeValue (marking w.heap.size) (fuel + 1) above indent holder k v).Ends a w' (.ok x.text?) w' := by
  cases h with
  | undefined => exact (ends_replaced_self a trivial).bind (ends_pure _)
  | symbol id => exact (ends_replaced_self a trivial).bind (ends_pure _)
  | null => exact (ends_replaced_self a trivial).bind (ends_pure _)
  | bool b => exact (ends_replaced_self a trivial).bind (ends_pure _)
  | number x => exact (ends_replaced_self a trivial).bind (ends_pure _)
  | string s => exact (ends_replaced_self a trivial).bind (ends_pure _)
  | bigint i hhook => exact (ends_replaced_bigint a i hhook hw).bind (ends_pure _)
  | object hhook hholds hparts => cases hx
  | @function ref f constructs name hkind hhook hname =>
      have hcallable : (w'.object ref).isCallable = true := by
        rw [hw.2 ref hhook.lt, Object.isCallable, hkind]
      have hreadable : (readable w.heap.size (.object ref)).Ends a w'
          (.ok (.string ("[Function " ++ (if name.isEmpty then "anonymous" else name) ++ "]"))) w' := by
        rw [readable]
        refine (ends_object ref).bind ?_
        rw [if_pos hcallable]
        refine ((hname.extend hw).ends a _).bind ?_
        cases hempty : name.isEmpty with
        | true =>
            rw [Value.truth, hempty]
            exact Ends.bind (ends_pure _) (ends_pure _)
        | false =>
            rw [Value.truth, hempty]
            exact Ends.bind (ends_pure _) (ends_pure _)
      exact (ends_replaced_object a hhook hw hreadable (ends_pure _)).bind (ends_pure _)

/-- An object that was met before is written as a mark. -/
theorem ends_writeValue_again {ref : Ref} {form : Form} {keys : List Key} (h : Midway w seen w')
    (hhook : w.Lacks hookKey 10000 ref) (hholds : (w.object ref).Holds form keys) (hseen : ref ∈ seen) :
    (writeValue (marking w.heap.size) (fuel + 1) above indent holder k (.object ref)).Ends a w'
      (.ok circular.text?) w' := by
  have hcallable : (w'.object ref).isCallable = false := h.ext.2 ref hhook.lt ▸ hholds.apart.1
  have hreadable := ends_readable_again a h hcallable hseen
  exact (ends_replaced_object a hhook h.ext hreadable (ends_pure _)).bind (ends_pure _)

/-- Whether an object is a list. -/
theorem ends_isArray {ref : Ref} {form : Form} {keys : List Key} (h : (w.object ref).Holds form keys) :
    (isArray (.object ref)).Ends a w (.ok (decide (form = .list))) w := by
  refine ends_loop_last ((ends_object ref).bind ?_)
  cases h with
  | list hkind =>
      rw [hkind]
      exact ends_pure _
  | record hrecord =>
      rw [Object.IsRecord] at hrecord
      split
      next hkind => simp [hkind] at hrecord
      next hkind => simp [hkind] at hrecord
      next => exact ends_pure _

/-- An object is written with its parts. -/
theorem ends_writeValue_object {ref s : Ref} {form : Form} {keys : List Key} {parts : Parts} {w'' : World}
    (hreplaced : (replaced (marking s) holder k (.object ref)).Ends a w (.ok (.object ref)) w')
    (hholds : (w'.object ref).Holds form keys) (habove : ref ∉ above) (hlength : keys.length < endless)
    (hparts : Writes a s fuel (ref :: above) (indent ++ "") ref keys parts w' w'') :
    (writeValue (marking s) (fuel + 1) above indent holder k (.object ref)).Ends a w
      (.ok (Shown.object ref form parts).text?) w'' := by
  obtain ⟨hcallable, -, hdirect⟩ := hholds.apart
  have harray := ends_isArray a hholds
  refine hreplaced.bind ((ends_object ref).bind ?_)
  rw [if_neg (by rw [hcallable]; exact Bool.false_ne_true), if_neg (by rwa [List.contains_iff_mem])]
  cases hholds with
  | @list items length writable configurable hkind =>
      have hcount : (lengthOf ref).Ends a w' (.ok length) w' := by
        refine (ends_object ref).bind ?_
        rw [hkind]
        exact ends_pure _
      have hkeys : (List.range length).map Key.index = (List.range' 0 length).map .index := by
        rw [List.range_eq_range']
      have hloop := ends_items a hparts hkeys (by simpa using hlength) []
      rw [Nat.zero_add, List.reverse_nil, List.nil_append] at hloop
      refine harray.bind ?_
      rw [if_pos (decide_eq_true rfl)]
      refine hcount.bind (Ends.bind hloop ?_)
      rw [Shown.text?, bracketed_line]
      exact bracketed_line indent "[" "]" _ ▸ ends_pure _
  | record hrecord =>
      have hloop := ends_fields a hparts hlength []
      rw [List.reverse_nil, List.nil_append] at hloop
      refine harray.bind ?_
      rw [if_neg (by decide)]
      refine (ends_enumerableOwn a hdirect).bind (Ends.bind hloop ?_)
      rw [Shown.text?, bracketed_line]
      exact bracketed_line indent "\x7b" "\x7d" _ ▸ ends_pure _

end

theorem length_of_unfoldsParts {w : World} {ref : Ref} {keys : List Key} {parts : Parts}
    (h : w.UnfoldsParts ref keys parts) : keys.length = parts.length := by
  induction keys generalizing parts with
  | nil =>
      cases h
      rfl
  | cons k keys ih =>
      cases h with
      | cons hread hvalue hrest => rw [List.length_cons, ih hrest, Parts.length]

mutual

/-- **Data is written with marks** where objects are met again. -/
theorem ends_writeValue (x : Shown) {w w' : World} {v : Value} (hunfolds : w.Unfolds v x) {fuel : Nat}
    (hfits : x.Fits fuel) {seen above : List Ref} (h : Midway w seen w') (habove : ∀ r ∈ above, r ∈ seen)
    (indent : String) (holder : Value) (k : Key) :
    ∃ w'', (writeValue (marking w.heap.size) fuel above indent holder k v).Ends a w'
      (.ok (x.marked seen).1.text?) w'' ∧ Midway w (x.marked seen).2 w'' := by
  -- By recursion on the data.  The objects met so far are carried along; those above are among them, so that
  -- an object that is met the first time is never found to lie within itself.
  cases x with
  | nothing =>
      cases fuel with
      | zero => exact hfits.elim
      | succ fuel => exact ⟨w', ends_writeValue_plain a hunfolds rfl h.ext, h⟩
  | leaf text =>
      cases fuel with
      | zero => exact hfits.elim
      | succ fuel => exact ⟨w', ends_writeValue_plain a hunfolds rfl h.ext, h⟩
  | object ref form parts =>
      cases fuel with
      | zero => exact hfits.elim
      | succ fuel =>
          cases hunfolds with
          | @object _ _ keys _ hhook hholds hparts =>
              rw [Shown.marked]
              split
              next hseen => exact ⟨w', ends_writeValue_again a h hhook hholds hseen, h⟩
              next hseen =>
                have hcallable : (w'.object ref).isCallable = false := h.ext.2 ref hhook.lt ▸ hholds.apart.1
                obtain ⟨w₁, hreadable, hmid⟩ := ends_readable_fresh a h hcallable hseen
                have hholds₁ : (w₁.object ref).Holds form keys := (hmid.ext.2 ref hhook.lt).symm ▸ hholds
                have hreplaced : (replaced (marking w.heap.size) holder k (.object ref)).Ends a w'
                    (.ok (.object ref)) w₁ := ends_replaced_object a hhook h.ext hreadable (ends_unboxed a hholds₁)
                obtain ⟨w₂, hwrites, hmid₂⟩ := writes_parts parts hparts hfits.1 hmid
                  (List.forall_mem_cons.2 ⟨List.mem_cons_self, fun r hr => List.mem_cons_of_mem _ (habove r hr)⟩)
                  (indent ++ "")
                have hlength : keys.length < endless := length_of_unfoldsParts hparts ▸ hfits.2
                exact ⟨w₂, ends_writeValue_object a hreplaced hholds₁ (fun hr => hseen (habove ref hr)) hlength
                  hwrites, hmid₂⟩

theorem writes_parts (parts : Parts) {w w' : World} {ref : Ref} {keys : List Key}
    (hunfolds : w.UnfoldsParts ref keys parts) {fuel : Nat} (hfits : parts.Fits fuel) {seen above : List Ref}
    (h : Midway w seen w') (habove : ∀ r ∈ above, r ∈ seen) (indent : String) :
    ∃ w'', Writes a w.heap.size fuel above indent ref keys (parts.marked seen).1 w' w'' ∧
      Midway w (parts.marked seen).2 w'' := by
  cases parts with
  | nil =>
      cases hunfolds with
      | nil => exact ⟨w', .nil, h⟩
  | cons name value rest =>
      cases hunfolds with
      | cons hread hvalue hrest =>
          obtain ⟨w₁, hwrite, h₁⟩ := ends_writeValue value hvalue hfits.1 h habove indent (.object ref) _
          obtain ⟨w₂, hwrites, h₂⟩ := writes_parts rest hrest hfits.2 h₁
            (fun r hr => (value.mem_marked seen r).2 (.inr (habove r hr))) indent
          exact ⟨w₂, .cons ((hread.extend h.ext).ends a _) hwrite hwrites, h₂⟩

end

/-! ### What the host is given -/

/-- The kind of a display, as the host takes it: a text, or nothing. -/
def kindText? : Value → Option String
  | .undefined | .null => some ""
  | .string s => if s.toList.all fun c => (Script.halfUnit? c).isNone then some s else none
  | _ => none

section

variable {v : Value} {x : Shown}

/-- The text of a value. -/
theorem ends_stringify (h : w.Unfolds v x) (hfits : x.Fits 4000) :
    ∃ heap, (stringify v).Ends a w (.ok (x.marked []).1.text) { w with heap } ∧ w.Extends { w with heap } := by
  let set : Object := .make none (.set .empty true)
  let holder : Object := blank.putNamed (.text "") (.plain v)
  obtain ⟨w', hwrite, hmid⟩ := ends_writeValue a x h hfits (Midway.start w holder) (List.forall_mem_nil _) ""
    (.object (w.push set).heap.size) (.text "")
  obtain ⟨⟨heap, rfl⟩, hext, -, -⟩ := hmid
  refine ⟨heap, ?_, hext⟩
  have hput : (modifyObject (w.push set).heap.size fun o => o.putNamed (.text "") (.plain v)).Ends a
      ((w.push set).push blank) (.ok ()) ((w.push set).push holder) := by
    have hmodify := (w.push set).modify_push_self blank fun o => o.putNamed (.text "") (.plain v)
    exact hmodify ▸ ends_modifyObject _ _
  have hjson : (writeJson (marking w.heap.size) v).Ends a (w.push set) (.ok (x.marked []).1.text?)
      { w with heap } := ends_newPlain.bind (hput.bind hwrite)
  exact (ends_allocate set).bind (hjson.bind (ends_pure _))

/-- What a value is displayed as. -/
theorem ends_displayValue (h : w.Unfolds v x) (hfits : x.Fits 4000) {kind : Value} {s : String}
    (hkind : kindText? kind = some s) :
    ∃ heap, (displayValue v kind).Ends a w (.ok ())
      { w with heap, host := w.host.display (x.marked []).1.text s } := by
  obtain ⟨heap, htext, -⟩ := ends_stringify a h hfits
  refine ⟨heap, htext.bind ?_⟩
  have htold : ∀ t : String, (∀ c ∈ t.toList, Script.halfUnit? c = none) →
      (do let kind ← hostText t; tellHost fun h => h.display (x.marked []).1.text kind).Ends a { w with heap }
        (.ok ()) { w with heap, host := w.host.display (x.marked []).1.text t } := by
    intro t ht
    rw [hostText_eq_pure ht]
    exact Ends.bind (ends_pure t) (ends_change _)
  cases kind with
  | undefined =>
      cases hkind
      exact Ends.bind (ends_pure "") (htold "" nofun)
  | null =>
      cases hkind
      exact Ends.bind (ends_pure "") (htold "" nofun)
  | string t =>
      rw [kindText?, Option.ite_none_right_eq_some, List.all_eq_true] at hkind
      obtain ⟨hall, hsame⟩ := hkind
      cases hsame
      exact Ends.bind (ends_pure s) (htold s fun c hc => Option.isNone_iff_eq_none.1 (hall c hc))
  | _ => cases hkind

/-- What a cell's variables are captured as, if they are read without a failure. -/
theorem ends_captureCell {w₀ : World} {index i f : Value}
    (hfind : (w₀.bench.locals.find? fun (j, _) => j.alike index) = some (i, f))
    (hread : (call f .undefined []).Ends a w₀ (.ok v) w) (h : w.Unfolds v x) (hfits : x.Fits 4000) :
    ∃ heap, (captureCell index).Ends a w₀ (.ok ())
      { w with heap, host := w.host.captureLocals (x.marked []).1.text } := by
  obtain ⟨heap, htext, -⟩ := ends_stringify a h hfits
  refine ⟨heap, ?_⟩
  have hlocals : (read fun w => w.bench.locals.find? fun (j, _) => j.alike index).Ends a w₀ (.ok (some (i, f))) w₀ :=
    hfind ▸ ends_read _
  refine hlocals.bind ((hread.bind htext).outcome.bind ?_)
  exact ends_change _

end

/-- **What is met again is lost.**  Whatever data a value unfolds to, however many paths lead to its objects,
its text is that of the data in which each object stands at the first place only and a mark at every other
one.  So it is displayed, and so it is captured as the variables of a cell, where two of them may be the same
object.  This is the text of the data in full just if no object is met at two places. -/
theorem stringify_marks_met_again (a : Answerer) {w : World} {v : Value} {x : Shown} (h : w.Unfolds v x)
    (hfits : x.Fits 4000) :
    (∃ heap, (stringify v).Ends a w (.ok (x.marked []).1.text) { w with heap } ∧ w.Extends { w with heap }) ∧
    (∀ kind s, kindText? kind = some s → ∃ heap, (displayValue v kind).Ends a w (.ok ())
      { w with heap, host := w.host.display (x.marked []).1.text s }) ∧
    (∀ (w₀ : World) (index i f : Value),
      (w₀.bench.locals.find? fun (j, _) => j.alike index) = some (i, f) →
      (call f .undefined []).Ends a w₀ (.ok v) w → ∃ heap, (captureCell index).Ends a w₀ (.ok ())
        { w with heap, host := w.host.captureLocals (x.marked []).1.text }) ∧
    ((x.marked []).1.text = x.text ↔ x.refs.Nodup) :=
  ⟨ends_stringify a h hfits, fun _ _ hkind => ends_displayValue a h hfits hkind,
    fun _ _ _ _ hfind hread => ends_captureCell a hfind hread h hfits, x.text_marked_eq_iff⟩

/-- The heap with a list that another list holds twice. -/
def sharedList : World :=
  let list (items : List Value) : Object :=
    .make (some Wellknown.arrayPrototype.ref) (.array (items.map some).toArray items.length true true)
  { (default : World) with
    heap := #[.make none .plain, .make (some 0) .plain, .make (some 0) .plain,
      list [], list [.object 3, .object 3]] }

theorem sharedList_lacks {ref : Ref} (h : ref = 3 ∨ ref = 4) : sharedList.Lacks hookKey 10000 ref := by
  have hplain : ∀ proto, (Object.make proto .plain).own? hookKey = none := by
    simp [Object.own?, Object.named?, Object.placeOf?, Object.make]
  have hlist : ∀ proto items length,
      (Object.make proto (.array items length true true)).own? hookKey = none := by
    simp [Object.own?, Object.named?, Object.placeOf?, Object.make, hookKey]
  have hobject : sharedList.Lacks hookKey 9998 Wellknown.objectPrototype.ref :=
    .last (by decide) ⟨nofun, nofun⟩ (hplain _) rfl
  have harray : sharedList.Lacks hookKey 9999 Wellknown.arrayPrototype.ref :=
    .next (by decide) ⟨nofun, nofun⟩ (hplain _) rfl hobject
  rcases h with rfl | rfl
  · exact .next (by decide) ⟨nofun, nofun⟩ (hlist _ _ _) rfl harray
  · exact .next (by decide) ⟨nofun, nofun⟩ (hlist _ _ _) rfl harray

/-- The list that is held twice is lost the second time. -/
theorem stringify_sharedList :
    (∃ heap, (stringify (.object 4)).Ends (fun _ w _ => .exhausted w) sharedList (.ok "[[],\"[Circular]\"]")
      { sharedList with heap }) ∧
    "[[],\"[Circular]\"]" ≠ "[[],[]]" := by
  let inner : Shown := .object 3 .list .nil
  let outer : Shown := .object 4 .list (.cons "0" inner (.cons "1" inner .nil))
  have hinner : sharedList.Unfolds (.object 3) inner :=
    .object (sharedList_lacks (.inl rfl)) (.list rfl) .nil
  have hread (i : Nat) (hown : (sharedList.object 4).own? (.index i) = some (.plain (.object 3))) :
      sharedList.Reads 4 (.index i) (.object 3) := .own (by decide) ⟨nofun, nofun⟩ hown rfl
  have houter : sharedList.Unfolds (.object 4) outer :=
    .object (sharedList_lacks (.inr rfl)) (.list rfl)
      (.cons (hread 0 rfl) hinner (.cons (hread 1 rfl) hinner .nil))
  have hfits : outer.Fits 4000 := by
    have hlt : ∀ n ≤ 2, n < endless := by decide
    exact ⟨⟨⟨trivial, hlt 0 (by decide)⟩, ⟨trivial, hlt 0 (by decide)⟩, trivial⟩, hlt 2 (by decide)⟩
  obtain ⟨⟨heap, htext, -⟩, -, -, hiff⟩ :=
    stringify_marks_met_again (fun _ w _ => .exhausted w) houter hfits
  have hmarked : (outer.marked []).1.text = "[[],\"[Circular]\"]" := by decide +kernel
  have hfull : outer.text = "[[],[]]" := by decide +kernel
  rw [hmarked, hfull] at hiff
  exact ⟨⟨heap, hmarked ▸ htext⟩, fun h => absurd (hiff.1 h) (by decide)⟩

end Library

end Engine

end NotebookEngine
