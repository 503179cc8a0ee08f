/-
**The requests of a running program.**

A running program makes its requests by calling functions of the library.  As far as timers go, what
such a call does to the state of the program is what the request does to a desk; where the call runs code
of the program before it is done, it does so at the place where the request gives control back.

Main definitions:

* `Callbacks.forget` — which functions wait, without the functions;
* `Engine.World.Shows` — a state of a program, seen as a desk.

Main results:

* `Engine.Library.startTimer_apply`, `Engine.Library.startTimer_shows`,
  `Engine.World.Shows.scheduleTimer` — starting a timer: it begins, then its delay is converted, then its
  task is scheduled;
* `Engine.Library.cancelTimer_shows` — clearing one;
* `Engine.Library.beginOperation_shows`, `Engine.Library.callNative_post_shows` — awaiting a value, and
  what happens when it settles;
* `Engine.Library.runTask_shows` — running a task.
-/

import NotebookEngine.Engine.Library.Workbench
import NotebookEngine.Proofs.Run.Requests

set_option autoImplicit false

namespace NotebookEngine

/-! ### Which functions wait -/

namespace Callbacks

variable {α : Type}

/-- Which functions wait, without the functions. -/
def forget (c : Callbacks α) : Callbacks Unit := ⟨c.functions.map fun e => (e.1, ()), c.repeating⟩

theorem contains_forget (c : Callbacks α) (id : Nat) : c.forget.contains id = c.contains id := by
  rw [forget, contains, contains, List.any_map]
  rfl

theorem forget_put (c : Callbacks α) (id : Nat) (f : α) :
    (c.put id f).forget = c.forget.put id () := by
  rw [put, put, contains_forget]
  split
  · simp only [forget, List.map_map]
    congr 1
    refine List.map_congr_left fun e _ => ?_
    simp only [Function.comp_apply]
    split <;> rfl
  · simp [forget]

theorem forget_erase (c : Callbacks α) (id : Nat) : (c.erase id).forget = c.forget.erase id := by
  simp only [forget, erase, List.filter_map]
  rfl

theorem forget_markRepeating (c : Callbacks α) (id : Nat) :
    (c.markRepeating id).forget = c.forget.markRepeating id := by
  rw [markRepeating, markRepeating, show c.forget.repeating = c.repeating from rfl]
  split <;> rfl

theorem forget_take (c : Callbacks α) (id : Nat) : (c.take id).2.forget = (c.forget.take id).2 := by
  rw [take_snd, take_snd, contains_forget, show c.forget.repeating = c.repeating from rfl]
  split
  · exact c.forget_erase id
  · rfl

theorem forget_begin (c : Callbacks α) (h : Host) (kind : String) (repeats : Bool) (f : Nat → α) :
    (c.begin h kind repeats f).2.1.forget = (c.forget.begin h kind repeats fun _ => ()).2.1 := by
  simp only [begin]
  split
  · rw [forget_markRepeating, forget_put]
  · exact forget_put ..

theorem forget_cancel (c : Callbacks α) (h : Host) (id : Nat) :
    (c.cancel h id).1.forget = (c.forget.cancel h id).1 ∧ (c.cancel h id).2 = (c.forget.cancel h id).2 := by
  rw [cancel, cancel, contains_forget]
  split
  · refine ⟨?_, rfl⟩
    rw [← forget_erase]
    rfl
  · exact ⟨rfl, rfl⟩

theorem take_fst (c : Callbacks α) (id : Nat) : (c.take id).1 = c.find? id := by
  rw [take]
  cases c.find? id <;> rfl

end Callbacks

namespace Engine

/-! ### A state seen as a desk -/

/-- The functions that wait, the host and the clock of a program are those of a desk. -/
structure World.Shows (w : World) (d : Desk) : Prop where
  callbacks : w.bench.callbacks.forget = d.callbacks
  host : w.host = d.host
  clock : w.clock = d.clock

/-- Whether a value can be called. -/
def World.CanCall (w : World) (f : Value) : Prop :=
  ∃ ref, f = .object ref ∧ (w.object ref).isCallable = true

/-- The state after a timer's task is scheduled. -/
theorem World.Shows.scheduleTimer {w : World} {d : Desk} (h : w.Shows d) (id : Nat) (delay : Float)
    (repeats : Bool) :
    World.Shows { w with host := w.host.schedule w.clock id delay repeats }
      (d.scheduleTimer id delay repeats) where
  callbacks := h.callbacks
  host := by rw [h.host, h.clock]; rfl
  clock := h.clock

namespace Library

variable {w : World} {d : Desk} (r : Answerer)

/-- A new function of the library only takes a place on the heap. -/
theorem newNative_apply (n : Native) (length : Nat) (w : World) :
    ∃ heap, ∀ k, newNative n length r w k = k (.ok (.object w.heap.size)) { w with heap } :=
  ⟨_, fun _ => rfl⟩

/-! ### Timers -/

/-- A timer that is started begins with a function on the heap; then its delay is converted to a number,
which may run code of the program, and its task is scheduled in the state that this has led to. -/
theorem startTimer_apply (w : World) (kind : String) {f : Value} (hf : w.CanCall f) (delay : Value)
    (repeats : Bool) (arguments : List Value) :
    ∃ callback heap,
      let begun := w.bench.callbacks.begin w.host kind repeats fun _ => callback
      ∀ k, startTimer kind f delay repeats arguments r w k =
        delayOf delay r { w with heap, bench := { w.bench with callbacks := begun.2.1 }, host := begun.2.2 } fun
          | .ok x, w₂ => k (.ok (.ofNat begun.1)) { w₂ with host := w₂.host.schedule w₂.clock begun.1 x repeats }
          | .error e, w₂ => k (.error e) w₂ := by
  obtain ⟨ref, rfl, hcallable⟩ := hf
  obtain ⟨heap, hnew⟩ := newNative_apply r (.later (.object ref) arguments) 0 w
  refine ⟨.object w.heap.size, heap, fun k => ?_⟩
  simp only [startTimer, isCallable, object, Act.read, bind, Act.bind, pure, Act.pure, hcallable]
  rw [if_neg (by decide)]
  -- What comes after the callback is put on the heap is the conversion, with the rest after it.
  refine (hnew _).trans ?_
  refine congrArg (delayOf delay r _) ?_
  funext o w₂
  cases o <;> rfl

/-- To a desk, a timer that is started begins, and its task is scheduled after its delay is converted. -/
theorem startTimer_shows (h : w.Shows d) (kind : String) {f : Value} (hf : w.CanCall f) (delay : Value)
    (repeats : Bool) (arguments : List Value) (k : Except Value Value → World → Process) :
    ∃ w₁ : World, w₁.Shows (d.beginTimer kind repeats).2 ∧
      startTimer kind f delay repeats arguments r w k =
        delayOf delay r w₁ fun
          | .ok x, w₂ => k (.ok (.ofNat (d.beginTimer kind repeats).1))
              { w₂ with host := w₂.host.schedule w₂.clock (d.beginTimer kind repeats).1 x repeats }
          | .error e, w₂ => k (.error e) w₂ := by
  obtain ⟨callback, heap, happly⟩ := startTimer_apply r w kind hf delay repeats arguments
  let begun := w.bench.callbacks.begin w.host kind repeats fun _ => callback
  refine ⟨{ w with heap, bench := { w.bench with callbacks := begun.2.1 }, host := begun.2.2 },
    ⟨?_, ?_, h.clock⟩, ?_⟩
  · rw [Callbacks.forget_begin, h.callbacks, h.host]
    rfl
  · rw [show begun.2.2 = (d.callbacks.begin d.host kind repeats fun _ => ()).2.2 by rw [← h.host]; rfl]
    rfl
  · have hid : begun.1 = (d.beginTimer kind repeats).1 := by
      rw [Desk.beginTimer, ← h.host]
      rfl
    rw [← hid]
    exact happly k

/-- Clearing a timer clears the one that the argument names, if it names one. -/
theorem cancelTimer_shows (h : w.Shows d) (c : Call) (k : Except Value Value → World → Process) :
    ∃ w₁ : World, w₁.Shows ((Doings.clear (operationOf (c.argument 0)) .done).run d) ∧
      cancelTimer c r w k = k (.ok .undefined) w₁ := by
  simp only [cancelTimer, Doings.run]
  cases operationOf (c.argument 0) with
  | none => exact ⟨w, h, rfl⟩
  | some id =>
      let cleared := w.bench.callbacks.cancel w.host id
      have hsame := Callbacks.forget_cancel w.bench.callbacks w.host id
      have hforget : cleared.1.forget = (d.clear id).callbacks := by
        rw [Desk.clear, ← h.callbacks, ← h.host]
        exact hsame.1
      have hhost : cleared.2 = (d.clear id).host := by
        rw [Desk.clear, ← h.callbacks, ← h.host]
        exact hsame.2
      exact ⟨{ w with bench := { w.bench with callbacks := cleared.1 }, host := cleared.2 },
        ⟨hforget, hhost, h.clock⟩, rfl⟩

/-! ### Awaited values and tasks -/

/-- The operation under which a value is awaited begins. -/
theorem beginOperation_shows (h : w.Shows d) (k : Except Value Nat → World → Process) :
    ∃ w₁ : World, w₁.Shows d.beginAwait.2 ∧
      beginOperation promiseKind r w k = k (.ok d.beginAwait.1) w₁ := by
  let begun := w.host.beginOperation promiseKind
  have hbegun : begun = d.host.beginOperation Desk.awaitKind := by rw [← h.host]; rfl
  refine ⟨{ w with host := begun.2 }, ⟨h.callbacks, congrArg Prod.snd hbegun, h.clock⟩, ?_⟩
  exact congrArg (fun id => k (.ok id) { w with host := begun.2 }) (congrArg Prod.fst hbegun)

/-- When an awaited value settles, a task is scheduled that settles the promise for it. -/
theorem callNative_post_shows (h : w.Shows d) {op : Nat} (hop : op ∈ d.unsettled) (settle : Value)
    (arguments : List Value) (k : Except Value Value → World → Process) :
    ∃ w₁ : World, w₁.Shows (d.settle op) ∧
      callNative (.post op settle) arguments r w k = k (.ok .undefined) w₁ := by
  obtain ⟨heap, hnew⟩ := newNative_apply r (.later settle [arguments.headD .undefined]) 0 w
  let posted := w.bench.callbacks.post w.host w.clock op (.object w.heap.size)
  have hforget : posted.1.forget = d.callbacks.put op () := by
    rw [← h.callbacks]
    exact Callbacks.forget_put ..
  have hhost : posted.2 = d.host.schedule d.clock op 0 false := by
    rw [← h.host, ← h.clock]
    rfl
  rw [Desk.settle, if_pos (List.contains_iff_mem.2 hop)]
  refine ⟨{ w with heap, bench := { w.bench with callbacks := posted.1 }, host := posted.2 },
    ⟨hforget, hhost, h.clock⟩, ?_⟩
  simp only [callNative, bind, Act.bind]
  rw [hnew]
  rfl

/-- The function that waits for a task is called when the task runs, if one waits. -/
theorem runTask_shows (h : w.Shows d) (id : Nat) (k : Except Value Unit → World → Process) :
    ∃ w₁ : World, w₁.Shows { d with callbacks := (d.callbacks.take id).2 } ∧
      (w.bench.callbacks.find? id).isSome = d.callbacks.contains id ∧
      runTask id r w k =
        match w.bench.callbacks.find? id with
        | none => k (.ok ()) w₁
        | some f => reporting .undefined (do let _ ← call f .undefined []) r w₁ k := by
  have htake := Callbacks.forget_take w.bench.callbacks id
  rw [h.callbacks] at htake
  refine ⟨{ w with bench := { w.bench with callbacks := (w.bench.callbacks.take id).2 } },
    ⟨htake, h.host, h.clock⟩, ?_, ?_⟩
  · rw [Callbacks.find?_isSome, ← Callbacks.contains_forget, h.callbacks]
  · let taken : World := { w with bench := { w.bench with callbacks := (w.bench.callbacks.take id).2 } }
    have hrun : runTask id r w k =
        (match (w.bench.callbacks.take id).1 with
          | none => pure ()
          | some f => reporting .undefined (do let _ ← call f .undefined []) : Act Unit) r taken k := rfl
    rw [hrun, Callbacks.take_fst]
    cases w.bench.callbacks.find? id <;> rfl

end Library

end Engine

end NotebookEngine
