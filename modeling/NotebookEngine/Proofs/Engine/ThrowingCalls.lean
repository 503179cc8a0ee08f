/-
**Calls that schedule something and throw.**

Starting a timer and waiting for a promise begin an operation of the host, and the operation keeps its cell
open.  Such a call can throw.  Where it throws before the operation has begun, it leaves nothing behind, and
neither does waiting for what is no promise: there the operation is ended before the error is passed on.

The delay of a timer is converted when the timer has begun already.  Nothing is undone if the conversion
throws: the function of the timer waits for a task that was never scheduled, the operation stays in flight,
and the cell has not drained, whatever is called later, until the operation is ended or cancelled.

Main definitions:

* `Engine.World.SameWaiting` — states in which the same work waits;
* `Engine.World.LeftBehind` — a state in which a timer has begun that has no task.

Main results:

* `Tracker.count_completed_created` — an operation that is begun and ended leaves no trace in the counters;
* `Host.mem_owned_after` — an operation stays in flight until it is ended or cancelled;
* `Engine.Library.throwing_calls` — **what calls that throw leave behind**.
-/

import NotebookEngine.Proofs.Engine.ModuleRequests
import NotebookEngine.Proofs.Engine.TimerRequests
import NotebookEngine.Proofs.Tracking.Counters

set_option autoImplicit false

namespace NotebookEngine

/-! ### Operations that are begun -/

namespace Tracker

variable {t : Tracker} {next : Nat}

/-- The operations of a cell that are in flight are a matter of the set and the history alone. -/
theorem owned_congr {t' : Tracker} (hcurrent : t'.current = t.current) (hoperations : t'.operations = t.operations)
    (cell : Nat) : t'.owned cell = t.owned cell := by
  rw [owned, owned, hcurrent]
  refine List.filter_congr fun id _ => ?_
  rw [ownerOf, ownerOf, hoperations]

/-- The cell that an operation is recorded for when it begins, if it is. -/
def cellFor (t : Tracker) (kind : String) (trigger : Nat) : Option Nat :=
  if !t.tracking || isUncounted kind then none else t.findCell trigger

theorem created_eq_of_cellFor (t : Tracker) (id : Nat) (kind : String) (trigger : Nat) :
    t.created id kind trigger = match t.cellFor kind trigger with
      | none => t
      | some cell => t.record id kind trigger cell := by
  rw [created, cellFor]
  split <;> rfl

theorem tracking_of_cellFor {kind : String} {trigger cell : Nat} (h : t.cellFor kind trigger = some cell) :
    t.tracking = true := by
  rw [cellFor] at h
  split at h
  next => cases h
  next hnot =>
    rw [Bool.or_eq_true, not_or] at hnot
    simpa using hnot.1

/-- An operation that begins counts its cell up. -/
theorem count_created (t : Tracker) (id : Nat) (kind : String) (trigger cell : Nat) :
    (t.created id kind trigger).count cell =
      t.count cell + if t.cellFor kind trigger = some cell then 1 else 0 := by
  rw [created_eq_of_cellFor]
  cases hcell : t.cellFor kind trigger with
  | none => simp
  | some own =>
      rw [count_record]
      by_cases h : own = cell
      · simp [h]
      · simp [h]

/-- An operation that begins is one of its cell's. -/
theorem mem_owned_created {kind : String} {trigger cell : Nat} (h : t.cellFor kind trigger = some cell)
    (id : Nat) : id ∈ (t.created id kind trigger).owned cell := by
  rw [created_eq_of_cellFor, h, mem_owned, current_record, Table.contains_put, ownerOf_record, if_pos rfl]
  simp

/-- **An operation that is begun and ended leaves no trace in the counters.** -/
theorem count_completed_created (h : t.Exact next) (kind : String) (trigger cell : Nat) :
    ((t.created next kind trigger).completed next).count cell = t.count cell := by
  have hcreated := count_created t next kind trigger cell
  cases hcell : t.cellFor kind trigger with
  | none =>
      have hsame : t.created next kind trigger = t := by rw [created_eq_of_cellFor, hcell]
      have hnot : ¬ (t.tracking = true ∧ t.current.contains next = true) := by
        rw [h.fresh_current]
        exact fun hboth => Bool.false_ne_true hboth.2
      rw [hsame, completed_eq_self hnot]
  | some own =>
      -- The end is counted for the cell that the beginning was recorded for.
      have hexact := exact_created h kind trigger
      have howned := mem_owned_created hcell next
      obtain ⟨hid, howner⟩ := (mem_owned _ own next).1 howned
      obtain ⟨op, hop, hopcell⟩ := (ownerOf_eq_some_iff _ next own).1 howner
      have hbound := hexact.bound_cell next op hop
      rw [hopcell] at hbound
      have htracking : (t.created next kind trigger).tracking = true := by
        rw [tracking_created]
        exact tracking_of_cellFor hcell
      have hcompleted := count_completed htracking hid hbound (hexact.contains_counts hid howner) cell
      rw [hcell] at hcreated
      simp only [Option.some.injEq] at hcreated
      omega

/-- Completing an operation takes no other from those of a cell. -/
theorem mem_owned_completed {id op cell : Nat} (hne : id ≠ op) (hop : op ∈ t.owned cell) :
    op ∈ (t.completed id).owned cell := by
  by_cases ht : t.tracking = true
  · rw [mem_owned] at hop ⊢
    rw [contains_current_completed ht, ownerOf_completed, decide_eq_false hne]
    exact ⟨hop.1, hop.2⟩
  · rw [completed_eq_self fun hboth => ht hboth.1]
    exact hop

/-- What begins takes no operation from those of a cell. -/
theorem mem_owned_created_of_mem (h : t.Exact next) {op cell : Nat} (kind : String) (trigger : Nat)
    (hop : op ∈ t.owned cell) : op ∈ (t.created next kind trigger).owned cell := by
  rcases t.created_cases next kind trigger with heq | ⟨own, heq⟩
  · rw [heq]
    exact hop
  · have hne : next ≠ op := by
      rintro rfl
      rw [mem_owned, h.fresh_current] at hop
      cases hop.1
    rw [mem_owned] at hop ⊢
    rw [heq, current_record, Table.contains_put, ownerOf_record, if_neg hne, hop.1, Bool.or_true]
    exact ⟨rfl, hop.2⟩

/-- A cell with an operation in flight has not drained. -/
theorem Exact.isDrained_of_mem_owned (h : t.Exact next) {op cell : Nat} (hop : op ∈ t.owned cell) :
    t.isDrained cell = false := by
  have hpos := List.length_pos_of_mem hop
  rw [isDrained, h.count_eq cell, decide_eq_false_iff_not]
  omega

end Tracker

namespace Host

/-- The calls that end an operation. -/
def Call.ends (op : Nat) : Call → Bool
  | .endOperation id => id = op
  | .cancel id => id = op
  | _ => false

/-- A call keeps an operation in flight unless it ends it. -/
theorem mem_owned_perform {h : Host} (hexact : h.tracker.Exact h.nextOperation) {op cell : Nat}
    (hop : op ∈ h.tracker.owned cell) {c : Call} (hc : c.ends op = false) :
    op ∈ (h.perform c).tracker.owned cell := by
  have hsame : ∀ {t : Tracker}, t.current = h.tracker.current → t.operations = h.tracker.operations →
      op ∈ t.owned cell := by
    -- Most calls change neither the set nor the history.
    intro t hcurrent hoperations
    rw [Tracker.owned_congr hcurrent hoperations]
    exact hop
  have hfinish : ∀ {h' : Host}, h'.tracker = h.tracker → op ∈ h'.finish.tracker.owned cell := by
    -- Finishing stops the tracker, which forgets nothing that is in flight.
    intro h' htracker
    unfold finish
    split
    · rw [htracker]
      exact hop
    · have hstop : op ∈ h'.tracker.stop.owned cell := by
        rw [htracker]
        exact hsame rfl rfl
      exact hstop
  cases hquiet : c.isQuiet with
  | true =>
      rw [(h.sameWork_perform hquiet).tracker]
      exact hop
  | false =>
    cases c with
    | begin => exact hsame rfl rfl
    | enterCell index =>
        simp only [perform, enterCell]
        split
        · exact hop
        · split
          · exact hop
          · simp only [Tracker.created_scopeKind]
            exact hsame rfl rfl
    | beginOperation kind => exact Tracker.mem_owned_created_of_mem hexact kind h.current hop
    | endOperation id => exact Tracker.mem_owned_completed (by simpa [Call.ends] using hc) hop
    | cancel id => exact Tracker.mem_owned_completed (by simpa [Call.ends] using hc) hop
    | schedule now id delay repeats =>
        simp only [perform, schedule]
        split <;> exact hop
    | popReady now => exact hop
    | reschedule now id => exact hop
    | fail cell? message stack => exact hfinish (h.sameWork_report cell? _).tracker
    | finish => exact hfinish rfl
    | _ => cases hquiet

/-- **An operation stays in flight until it is ended or cancelled.** -/
theorem mem_owned_after {h : Host} (hexact : h.tracker.Exact h.nextOperation) {op cell : Nat}
    (hop : op ∈ h.tracker.owned cell) {calls : List Call} (hcalls : ∀ c ∈ calls, c.ends op = false) :
    op ∈ (h.after calls).tracker.owned cell ∧ (h.after calls).tracker.isDrained cell = false := by
  -- By induction on the calls: the counters stay exact, and the operation stays in flight.
  induction calls generalizing h with
  | nil => exact ⟨hop, hexact.isDrained_of_mem_owned hop⟩
  | cons c calls ih =>
      rw [List.forall_mem_cons] at hcalls
      have hnext := Tracker.exact_change (h.change_perform c) hexact
      exact ih hnext (mem_owned_perform hexact hop hcalls.1) hcalls.2

end Host

namespace Engine

/-! ### What waits -/

/-- States in which the same work waits: the same functions wait for tasks, the same tasks repeat and are
scheduled, and every cell has as many operations in flight. -/
structure World.SameWaiting (w w' : World) : Prop where
  callbacks : w'.bench.callbacks = w.bench.callbacks
  scheduler : w'.host.scheduler = w.host.scheduler
  counts : ∀ cell, w'.host.tracker.count cell = w.host.tracker.count cell

/-- A state in which a timer has begun that has no task: its function waits, and its cell has one operation
more in flight and will not drain before this one is ended. -/
structure World.LeftBehind (w w' : World) (kind : String) (repeats : Bool) : Prop where
  waits : w'.bench.callbacks.contains w.host.nextOperation = true
  repeating : repeats = true → w.host.nextOperation ∈ w'.bench.callbacks.repeating
  scheduler : w'.host.scheduler = w.host.scheduler
  counts : ∀ cell, w'.host.tracker.count cell =
    w.host.tracker.count cell + if w.host.tracker.cellFor kind w.host.current = some cell then 1 else 0
  stays : ∀ cell, w.host.tracker.cellFor kind w.host.current = some cell →
    ∀ calls : List Host.Call, (∀ c ∈ calls, c.ends w.host.nextOperation = false) →
      (w'.host.after calls).tracker.isDrained cell = false

/-- Whether a value is a promise. -/
def World.IsPromise (w : World) (v : Value) : Prop :=
  ∃ p standing handled, v = .object p ∧ (w.object p).kind = .promise standing handled

namespace Library

variable {w : World} (r : Answerer)

/-! ### Timers -/

/-- A timer that has begun and got no task is left behind. -/
theorem leftBehind_begin (hexact : w.host.tracker.Exact w.host.nextOperation) (kind : String) (repeats : Bool)
    (callback : Value) (heap : Array Object) :
    let begun := w.bench.callbacks.begin w.host kind repeats fun _ => callback
    w.LeftBehind { w with heap, bench := { w.bench with callbacks := begun.2.1 }, host := begun.2.2 } kind
      repeats where
  waits := by
    simp only [Callbacks.begin]
    split
    · rw [Callbacks.contains_markRepeating, Callbacks.contains_put]
      simp [Host.beginOperation]
    · rw [Callbacks.contains_put]
      simp [Host.beginOperation]
  repeating := by
    intro hrepeats
    simp only [Callbacks.begin, if_pos hrepeats]
    exact (Callbacks.mem_markRepeating _ _ _).2 (Or.inl rfl)
  scheduler := rfl
  counts := Tracker.count_created w.host.tracker w.host.nextOperation kind w.host.current
  stays := by
    intro cell hcell calls hcalls
    have hbegun := Tracker.exact_created hexact kind w.host.current
    exact (Host.mem_owned_after (h := (w.host.beginOperation kind).2) hbegun
      (Tracker.mem_owned_created hcell w.host.nextOperation) hcalls).2

/-- A timer without a function does not begin. -/
theorem startTimer_of_not_canCall (w : World) (kind : String) {f : Value} (hf : ¬ w.CanCall f) (delay : Value)
    (repeats : Bool) (arguments : List Value) :
    ∃ thrown w', w.SameWaiting w' ∧
      ∀ k, startTimer kind f delay repeats arguments r w k = k (.error thrown) w' := by
  obtain ⟨thrown, heap, hthrow⟩ :=
    @throwFault_apply r Unit .typeError "Callback must be a function" w
  refine ⟨thrown, { w with heap }, ⟨rfl, rfl, fun _ => rfl⟩, fun k => ?_⟩
  have hnot : ∀ k : Except Value Bool → World → Process, isCallable f r w k = k (.ok false) w := by
    intro k
    cases f with
    | object ref =>
        have hobject : (w.object ref).isCallable = false := by
          rw [← Bool.not_eq_true]
          exact fun hcallable => hf ⟨ref, rfl, hcallable⟩
        simp only [isCallable, object, Act.read, bind, Act.bind, pure, Act.pure, hobject]
    | _ => rfl
  simp only [startTimer, bind, Act.bind]
  rw [hnot]
  dsimp only
  rw [if_pos (by decide)]
  exact hthrow _

/-- A symbol is no delay. -/
theorem delayOf_symbol (s : Nat) (w : World) :
    ∃ thrown heap, ∀ k, delayOf (.symbol s) r w k = k (.error thrown) { w with heap } :=
  ⟨_, _, fun _ => rfl⟩

theorem delayOf_zero (w : World) (k : Except Value Float → World → Process) :
    delayOf (.number 0) r w k = k (.ok 0) w := by
  simp only [delayOf, toNumeric, bind, Act.bind, pure, Act.pure, ite_self]

/-! ### Promises -/

/-- The state after an object is put on the heap. -/
def withObject (w : World) (o : Object) : World := { w with heap := w.heap.push o }

/-- A function that is put on the heap is no promise. -/
theorem newNative_push (n : Native) (length : Nat) (w : World) :
    ∃ o : Object, (∀ standing handled, o.kind ≠ .promise standing handled) ∧
      ∀ k, newNative n length r w k = k (.ok (.object w.heap.size)) (withObject w o) := by
  refine ⟨_, ?_, fun _ => rfl⟩
  intro standing handled hkind
  cases hkind

/-- What is no promise does not become one when something else is put on the heap. -/
theorem not_isPromise_push {o : Object} (ho : ∀ standing handled, o.kind ≠ .promise standing handled)
    {v : Value} (h : ¬ w.IsPromise v) : ¬ (withObject w o).IsPromise v := by
  rintro ⟨p, standing, handled, rfl, hkind⟩
  rw [World.object, withObject] at hkind
  by_cases hp : p = w.heap.size
  · rw [Array.getElem?_push, if_pos hp, Option.getD_some] at hkind
    exact ho standing handled hkind
  · rw [Array.getElem?_push, if_neg hp] at hkind
    exact h ⟨p, standing, handled, rfl, hkind⟩

/-- Nothing can wait for what is no promise. -/
theorem nativeThen_of_not_isPromise (w : World) {this : Value} (h : ¬ w.IsPromise this)
    (fulfilled rejected : Value) :
    ∃ thrown heap, ∀ k, nativeThen this fulfilled rejected r w k = k (.error thrown) { w with heap } := by
  obtain ⟨thrown, heap, hthrow⟩ := @throwFault_apply r Value .typeError "Promise object expected" w
  refine ⟨thrown, heap, fun k => ?_⟩
  -- Only an object is asked what it is, and every other value is refused at once.
  cases this with
  | object p =>
      have hnot : ∀ k : Except Value Bool → World → Process,
          isPromise (.object p) r w k = k (.ok false) w := by
        intro k
        simp only [isPromise, object, Act.read, bind, Act.bind, pure]
        cases hkind : (w.object p).kind with
        | promise standing handled => exact absurd ⟨p, standing, handled, rfl, hkind⟩ h
        | _ => rfl
      simp only [nativeThen, bind, Act.bind]
      rw [hnot]
      dsimp only
      rw [if_pos (by decide)]
      exact hthrow _
  | _ => exact hthrow k

/-- Waiting for a promise begins an operation, which is ended if the waiting throws. -/
theorem trackedThen_apply (w : World) (c : Call) :
    ∃ fulfilled rejected w₁, w₁.host = (w.host.beginOperation promiseKind).2 ∧ w₁.bench = w.bench ∧
      (¬ w.IsPromise c.this → ¬ w₁.IsPromise c.this) ∧
      ∀ k, trackedThen c r w k = nativeThen c.this fulfilled rejected r w₁ fun
        | .ok v, w₂ => k (.ok v) w₂
        | .error e, w₂ => k (.error e) { w₂ with host := w₂.host.endOperation w.host.nextOperation } := by
  let begun : World := { w with host := (w.host.beginOperation promiseKind).2 }
  obtain ⟨first, hfirst, hfulfilled⟩ :=
    newNative_push r (.underOperation w.host.nextOperation (c.argument 0) false) 1 begun
  obtain ⟨second, hsecond, hrejected⟩ :=
    newNative_push r (.underOperation w.host.nextOperation (c.argument 1) true) 1 (withObject begun first)
  refine ⟨.object begun.heap.size, .object (withObject begun first).heap.size,
    withObject (withObject begun first) second, rfl, rfl, ?_, fun k => ?_⟩
  · intro hnot
    have hbegun : ¬ begun.IsPromise c.this := hnot
    exact not_isPromise_push hsecond (not_isPromise_push hfirst hbegun)
  · have hbegin : ∀ k, beginOperation promiseKind r w k = k (.ok w.host.nextOperation) begun := fun _ => rfl
    simp only [trackedThen, bind, Act.bind]
    rw [hbegin]
    dsimp only
    rw [hfulfilled]
    dsimp only
    rw [hrejected]
    refine congrArg (nativeThen c.this _ _ r _) ?_
    funext o w₂
    cases o <;> rfl

/-- An operation that is begun and ended again leaves the same work waiting, if nothing else was done. -/
theorem sameWaiting_ended (hexact : w.host.tracker.Exact w.host.nextOperation) (kind : String) (w' : World)
    (hbench : w'.bench.callbacks = w.bench.callbacks) (hscheduler : w'.host.scheduler = w.host.scheduler)
    (htracker : w'.host.tracker = (w.host.beginOperation kind).2.tracker) :
    w.SameWaiting { w' with host := w'.host.endOperation w.host.nextOperation } where
  callbacks := hbench
  scheduler := hscheduler
  counts := by
    intro cell
    rw [Host.endOperation, htracker]
    exact Tracker.count_completed_created hexact kind w.host.current cell

/-- Waiting for what is no promise leaves nothing behind. -/
theorem trackedThen_of_not_isPromise (hexact : w.host.tracker.Exact w.host.nextOperation) {c : Call}
    (h : ¬ w.IsPromise c.this) :
    ∃ thrown w', w.SameWaiting w' ∧ ∀ k, trackedThen c r w k = k (.error thrown) w' := by
  obtain ⟨fulfilled, rejected, w₁, hhost, hbench, hnot, htracked⟩ := trackedThen_apply r w c
  obtain ⟨thrown, heap, hthrow⟩ := nativeThen_of_not_isPromise r w₁ (hnot h) fulfilled rejected
  refine ⟨thrown, _, sameWaiting_ended hexact promiseKind { w₁ with heap } ?_ ?_ ?_, fun k => ?_⟩
  · exact congrArg Workbench.callbacks hbench
  · exact (congrArg Host.scheduler hhost).trans rfl
  · exact congrArg Host.tracker hhost
  · rw [htracked, hthrow]

/-! ### All calls -/

theorem answer_of_mem_timers {e : Entry} (he : e ∈ timers.take 3) (c : Call) :
    ∃ kind delay repeats arguments, (delay = c.argument 1 ∨ delay = .number 0) ∧
      e.answer c = startTimer kind (c.argument 0) delay repeats arguments := by
  simp only [timers, List.take_succ_cons, List.take_zero, List.mem_cons, List.not_mem_nil, or_false] at he
  rcases he with rfl | rfl | rfl
  · exact ⟨_, _, _, _, Or.inl rfl, rfl⟩
  · exact ⟨_, _, _, _, Or.inl rfl, rfl⟩
  · exact ⟨_, _, _, _, Or.inr rfl, rfl⟩

/-- **What calls that throw leave behind.**  The functions that start timers leave nothing behind if they are
given no function, and waiting leaves nothing behind on what is no promise; if waiting for a promise throws
and nothing else was done meanwhile, it leaves nothing behind either.  But a timer has begun when its delay
is converted, and if the conversion throws, the error is passed on from the state that it has led to.  A
symbol throws at once: the timer is left behind.  The delay of an immediate is zero, which never throws. -/
theorem throwing_calls (w : World) (hexact : w.host.tracker.Exact w.host.nextOperation) :
    (∀ e ∈ timers.take 3, ∀ c : Call,
      (¬ w.CanCall (c.argument 0) → ∃ thrown w', w.SameWaiting w' ∧
        ∀ k, e.answer c r w k = k (.error thrown) w') ∧
      (w.CanCall (c.argument 0) → ∃ kind delay repeats w₁, (delay = c.argument 1 ∨ delay = .number 0) ∧
        w.LeftBehind w₁ kind repeats ∧
        ∀ k, e.answer c r w k = delayOf delay r w₁ fun
          | .ok x, w₂ => k (.ok (.ofNat w.host.nextOperation))
              { w₂ with host := w₂.host.schedule w₂.clock w.host.nextOperation x repeats }
          | .error thrown, w₂ => k (.error thrown) w₂)) ∧
    (∀ kind f s repeats arguments, w.CanCall f → ∃ thrown w', w.LeftBehind w' kind repeats ∧
      ∀ k, startTimer kind f (.symbol s) repeats arguments r w k = k (.error thrown) w') ∧
    (∀ kind f repeats arguments, w.CanCall f → ∃ w',
      ∀ k, startTimer kind f (.number 0) repeats arguments r w k = k (.ok (.ofNat w.host.nextOperation)) w') ∧
    (∀ c : Call, ¬ w.IsPromise c.this → ∃ thrown w', w.SameWaiting w' ∧
      ∀ k, trackedThen c r w k = k (.error thrown) w') ∧
    (∀ c : Call, ∃ fulfilled rejected w₁,
      (∀ w₂ : World, w₂.bench.callbacks = w₁.bench.callbacks →
        w₂.host.scheduler = w₁.host.scheduler → w₂.host.tracker = w₁.host.tracker →
          w.SameWaiting { w₂ with host := w₂.host.endOperation w.host.nextOperation }) ∧
      ∀ k, trackedThen c r w k = nativeThen c.this fulfilled rejected r w₁ fun
        | .ok v, w₂ => k (.ok v) w₂
        | .error e, w₂ => k (.error e) { w₂ with host := w₂.host.endOperation w.host.nextOperation }) := by
  refine ⟨?_, ?_, ?_, fun c => trackedThen_of_not_isPromise r hexact, ?_⟩
  · intro e he c
    obtain ⟨kind, delay, repeats, arguments, hdelay, hanswer⟩ := answer_of_mem_timers he c
    rw [hanswer]
    refine ⟨fun hnot => startTimer_of_not_canCall r w kind hnot delay repeats arguments, fun hcan => ?_⟩
    obtain ⟨callback, heap, happly⟩ := startTimer_apply r w kind hcan delay repeats arguments
    exact ⟨kind, delay, repeats, _, hdelay, leftBehind_begin hexact kind repeats callback heap, happly⟩
  · intro kind f s repeats arguments hcan
    obtain ⟨callback, heap, happly⟩ := startTimer_apply r w kind hcan (.symbol s) repeats arguments
    let begun := w.bench.callbacks.begin w.host kind repeats fun _ => callback
    obtain ⟨thrown, heap', hthrow⟩ := delayOf_symbol r s
      { w with heap, bench := { w.bench with callbacks := begun.2.1 }, host := begun.2.2 }
    refine ⟨thrown, _, leftBehind_begin hexact kind repeats callback heap', fun k => ?_⟩
    rw [happly, hthrow]
  · intro kind f repeats arguments hcan
    obtain ⟨callback, heap, happly⟩ := startTimer_apply r w kind hcan (.number 0) repeats arguments
    exact ⟨_, fun k => (happly k).trans (delayOf_zero r _ _)⟩
  · intro c
    obtain ⟨fulfilled, rejected, w₁, hhost, hbench, -, htracked⟩ := trackedThen_apply r w c
    refine ⟨fulfilled, rejected, w₁, fun w₂ hcallbacks hscheduler htracker => ?_, htracked⟩
    refine sameWaiting_ended hexact promiseKind w₂ ?_ ?_ ?_
    · rw [hcallbacks, hbench]
    · rw [hscheduler, hhost]
      rfl
    · rw [htracker, hhost]

/-- A timer whose delay is a symbol keeps its cell open. -/
theorem throwing_calls_symbol :
    let h := (Host.opened .default "notebook" ["a"]).after [.begin, .enterCell 0]
    let w : World := { (default : World) with
      heap := #[.make none (.function (.library 0) false)], host := h }
    h.tracker.isDrained 0 = true ∧
      ∃ thrown w', (∀ k, startTimer "Timeout" (.object 0) (.symbol 0) false [] (fun _ w _ => .exhausted w) w k =
          k (.error thrown) w') ∧
        w'.bench.callbacks.contains h.nextOperation = true ∧ w'.host.scheduler = h.scheduler ∧
        w'.host.tracker.isDrained 0 = false := by
  intro h w
  have hexact : h.tracker.Exact h.nextOperation := Host.exact_after _ _ _ _
  have hcan : w.CanCall (.object 0) := ⟨0, rfl, rfl⟩
  obtain ⟨-, hsymbol, -⟩ := throwing_calls (fun _ w _ => .exhausted w) w hexact
  obtain ⟨thrown, w', hleft, hthrow⟩ := hsymbol "Timeout" (.object 0) 0 false [] hcan
  have hcell : h.tracker.cellFor "Timeout" h.current = some 0 := by decide +kernel
  exact ⟨by decide +kernel, thrown, w', hthrow, hleft.waits, hleft.scheduler,
    hleft.stays 0 hcell [] (List.forall_mem_nil _)⟩

end Library

end Engine

end NotebookEngine
