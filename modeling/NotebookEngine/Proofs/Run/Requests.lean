/-
**What requests do to a desk.**

A request is about one operation.  What the desk holds about that operation changes as its standing
does, and what it holds about the others stays.  From this and the agenda that the scheduler stands for,
every request keeps a desk sound: each operation stands as one in its phase may.

Main definitions:

* `Desk.standing` — what a desk holds about an operation;
* `Desk.Sound`, `Desk.Keeps` — a desk whose operations all stand as they may, in a run that is not over.

Main results:

* `Desk.Sound.change` — a change to one operation keeps a desk sound if it keeps that operation so;
* `Desk.Keeps.run` — so does everything that a program does.
-/

import Mathlib.Logic.Function.Basic
import NotebookEngine.Proofs.Run.Desk
import NotebookEngine.Proofs.Run.Standing
import NotebookEngine.Proofs.Schedule.Refinement
import NotebookEngine.Proofs.Tracking.Counters

set_option autoImplicit false

namespace NotebookEngine

/-! ### Functions that wait -/

namespace Callbacks

variable {α : Type}

theorem contains_put (c : Callbacks α) (id other : Nat) (f : α) :
    (c.put id f).contains other = (decide (id = other) || c.contains other) := by
  rw [put]
  split
  next hid =>
    -- The function takes the place of one that waits already.
    have hmap : (c.functions.map fun e => if e.1 = id then (id, f) else e).any (fun e => e.1 = other)
        = c.functions.any fun e => e.1 = other := by
      rw [List.any_map]
      refine List.any_congr rfl fun e => ?_
      rw [Function.comp_apply]
      split
      next he => rw [he]
      next => rfl
    by_cases h : id = other
    · subst h
      simpa [contains, hmap] using hid
    · simpa [contains, h] using hmap
  next =>
    rw [contains, contains, List.any_append, Bool.or_comm]
    simp

theorem contains_erase (c : Callbacks α) (id other : Nat) :
    (c.erase id).contains other = (!decide (id = other) && c.contains other) := by
  rw [erase, contains, contains, List.any_filter]
  by_cases h : id = other
  · subst h
    simp
  · have hcongr : ∀ e : Nat × α, (decide (e.1 ≠ id) && decide (e.1 = other)) = decide (e.1 = other) := by
      intro e
      by_cases he : e.1 = other
      · simp [he, Ne.symm h]
      · simp [he]
    simp only [hcongr, h, decide_false, Bool.not_false, Bool.true_and]

@[simp] theorem repeating_put (c : Callbacks α) (id : Nat) (f : α) :
    (c.put id f).repeating = c.repeating := by
  rw [put]
  split <;> rfl

@[simp] theorem contains_markRepeating (c : Callbacks α) (id other : Nat) :
    (c.markRepeating id).contains other = c.contains other := by
  rw [markRepeating]
  split <;> rfl

theorem mem_markRepeating (c : Callbacks α) (id other : Nat) :
    other ∈ (c.markRepeating id).repeating ↔ other = id ∨ other ∈ c.repeating := by
  rw [markRepeating]
  split
  next h =>
    refine ⟨Or.inr, fun hother => hother.elim (fun heq => ?_) fun hmem => hmem⟩
    rw [heq]
    exact List.contains_iff_mem.1 h
  next => simp [or_comm]

theorem find?_isSome (c : Callbacks α) (id : Nat) : (c.find? id).isSome = c.contains id := by
  rw [find?, Option.isSome_map, contains, List.isSome_find?]

/-- The function of a task that runs stops waiting, unless the task repeats. -/
theorem take_snd (c : Callbacks α) (id : Nat) :
    (c.take id).2 = if c.contains id && !c.repeating.contains id then c.erase id else c := by
  have hfound := c.find?_isSome id
  rw [take]
  cases hfind : c.find? id with
  | none =>
      rw [hfind] at hfound
      rw [← hfound]
      rfl
  | some f =>
      rw [hfind] at hfound
      rw [← hfound]
      cases c.repeating.contains id <;> rfl

end Callbacks

/-! ### Standings -/

namespace Desk

/-- What a desk holds about an operation, the agenda being what its scheduler stands for. -/
def standing (d : Desk) (a : Agenda) (id : Nat) : Standing where
  task? := a.entries.get? id
  waits := d.callbacks.contains id
  repeating := d.callbacks.repeating.contains id
  known := d.host.tracker.knows id
  inFlight := d.host.tracker.current.contains id
  timer := d.timers.contains id
  await := d.awaits.contains id
  unsettled := d.unsettled.contains id
  broken := d.broken.contains id
  cut := d.cutShort.contains id
  endless := d.endless.contains id

theorem standing_scheduleTimer (d : Desk) (a : Agenda) (id : Nat) (delay : Float) (repeats : Bool)
    (h : d.host.finished = false) (other : Nat) :
    (d.scheduleTimer id delay repeats).standing
        (a.schedule d.clock id (Delay.ofMillis delay) repeats) other =
      if id = other then
        (d.standing a other).scheduled ⟨dueTime d.clock (Delay.ofMillis delay), a.nextTicket,
          if repeats then some (Delay.ofMillis delay) else none, true⟩
      else d.standing a other := by
  by_cases hid : id = other
  · subst hid
    cases hwaits : d.callbacks.contains id <;> cases repeats <;>
      simp [standing, scheduleTimer, Host.schedule, h, Agenda.schedule_eq, Standing.scheduled,
        Agenda.Entry.repeats, hwaits]
  · rw [if_neg hid]
    cases hwaits : d.callbacks.contains id <;> cases repeats <;>
      simp [standing, scheduleTimer, Host.schedule, h, Agenda.schedule_eq, Table.get?_put, hwaits, hid,
        Ne.symm hid]

theorem host_clear (d : Desk) (id : Nat) :
    (d.clear id).host = if d.callbacks.contains id then d.host.cancel id else d.host := by
  cases h : d.callbacks.contains id <;> simp [clear, Callbacks.cancel, h]

theorem standing_clear (d : Desk) (a : Agenda) (id : Nat) (h : d.host.tracker.tracking = true)
    (hwaits : d.callbacks.contains id = true) (other : Nat) :
    (d.clear id).standing (a.cancel id).1 other =
      if id = other then (d.standing a other).cleared else d.standing a other := by
  have hcontains : ∀ repeating : List Nat,
      (Callbacks.mk (d.callbacks.erase id).functions repeating).contains other
        = (!decide (id = other) && d.callbacks.contains other) :=
    fun _ => d.callbacks.contains_erase id other
  have hrepeating : (d.callbacks.erase id).repeating = d.callbacks.repeating := rfl
  have hflight := Tracker.contains_current_completed h id other
  have hknown := d.host.tracker.knows_completed id other
  by_cases hid : id = other
  · subst hid
    simp [standing, clear, Callbacks.cancel, hwaits, Host.cancel, Agenda.cancel, Table.get?_erase,
      Standing.cleared, hcontains, hrepeating, hflight, hknown]
  · simp [standing, clear, Callbacks.cancel, hwaits, Host.cancel, Agenda.cancel, Table.get?_erase,
      hcontains, hrepeating, hflight, hknown, hid, Ne.symm hid]

theorem standing_settle (d : Desk) (a : Agenda) {id : Nat} (h : d.host.finished = false)
    (hunsettled : id ∈ d.unsettled) (other : Nat) :
    (d.settle id).standing (a.schedule d.clock id (Delay.ofMillis 0) false) other =
      if id = other then
        (d.standing a other).settled ⟨dueTime d.clock (Delay.ofMillis 0), a.nextTicket, none, true⟩
      else d.standing a other := by
  by_cases hid : id = other
  · subst hid
    simp [standing, settle, hunsettled, Callbacks.post, Callbacks.contains_put, Host.schedule, h,
      Agenda.schedule_eq, Standing.settled]
  · simp [standing, settle, hunsettled, Callbacks.post, Callbacks.contains_put, Host.schedule, h,
      Agenda.schedule_eq, Table.get?_put, hid, Ne.symm hid]

theorem standing_endOperation (d : Desk) (a : Agenda) (id : Nat)
    (h : d.host.tracker.tracking = true) (other : Nat) :
    Desk.standing { d with host := d.host.endOperation id } a other =
      if id = other then (d.standing a other).ended else d.standing a other := by
  have hflight := Tracker.contains_current_completed h id other
  have hknown := d.host.tracker.knows_completed id other
  by_cases hid : id = other
  · subst hid
    simp [standing, Host.endOperation, hflight, hknown, Standing.ended]
  · simp [standing, Host.endOperation, hflight, hknown, hid]

theorem standing_take (d : Desk) (a : Agenda) (id other : Nat) :
    Desk.standing { d with callbacks := (d.callbacks.take id).2 } a other =
      if id = other then (d.standing a other).taken else d.standing a other := by
  have hcontains := d.callbacks.contains_erase id other
  have hrepeating : (d.callbacks.erase id).repeating = d.callbacks.repeating := rfl
  rw [Callbacks.take_snd]
  by_cases hid : id = other
  · subst hid
    cases hw : d.callbacks.contains id <;> by_cases hr : id ∈ d.callbacks.repeating <;>
      simp [standing, Standing.taken, hw, hr, hcontains, hrepeating]
  · split <;> simp [standing, hid, hcontains, hrepeating]

/-- A desk whose operations all stand as they may, each in its phase, in a run that is not over. -/
structure Sound (d : Desk) (a : Agenda) (phase : Nat → Phase) : Prop where
  refines : d.host.scheduler.Refines a
  exact : d.host.tracker.Exact d.host.nextOperation
  tracking : d.host.tracker.tracking = true
  unfinished : d.host.finished = false
  /-- Nothing is known about operations that have not begun. -/
  fresh : ∀ id, d.host.nextOperation ≤ id →
    d.standing a id = .blank false false ∧ phase id = .resting
  fits : ∀ id, (d.standing a id).Fits (phase id)

/-- A desk that is sound unless the run is over. -/
def Keeps (d : Desk) (phase : Nat → Phase) : Prop :=
  d.host.finished = true ∨ ∃ a, d.Sound a phase

namespace Sound

variable {d : Desk} {a : Agenda} {phase : Nat → Phase}

/-- A change to one operation keeps a desk sound if that operation stands as it may. -/
theorem change (h : d.Sound a phase) {d' : Desk} {a' : Agenda} {phase' : Nat → Phase} (id : Nat)
    (refines : d'.host.scheduler.Refines a')
    (exact : d'.host.tracker.Exact d'.host.nextOperation)
    (tracking : d'.host.tracker.tracking = true) (unfinished : d'.host.finished = false)
    (hnext : d.host.nextOperation ≤ d'.host.nextOperation) (hid : id < d'.host.nextOperation)
    (hothers : ∀ other, id ≠ other →
      d'.standing a' other = d.standing a other ∧ phase' other = phase other)
    (hfits : (d'.standing a' id).Fits (phase' id)) : d'.Sound a' phase' where
  refines := refines
  exact := exact
  tracking := tracking
  unfinished := unfinished
  fresh := by
    intro other hother
    obtain ⟨hstanding, hphase⟩ := hothers other (by omega)
    rw [hstanding, hphase]
    exact h.fresh other (Nat.le_trans hnext hother)
  fits := by
    intro other
    by_cases heq : id = other
    · rw [← heq]; exact hfits
    · rw [(hothers other heq).1, (hothers other heq).2]
      exact h.fits other

/-- An operation that is being worked on has begun. -/
theorem lt_of_update {id : Nat} {p : Phase} (h : d.Sound a (Function.update phase id p))
    (hp : p ≠ .resting) : id < d.host.nextOperation := by
  rcases Nat.lt_or_ge id d.host.nextOperation with hlt | hge
  · exact hlt
  · have hphase := (h.fresh id hge).2
    rw [Function.update_self] at hphase
    exact absurd hphase hp

/-- So has one about which something holds that does not hold of every operation. -/
theorem lt_of_holds (h : d.Sound a phase) {id : Nat} (holds : Standing → Bool)
    (hblank : holds (.blank false false) = false) (hid : holds (d.standing a id) = true) :
    id < d.host.nextOperation := by
  rcases Nat.lt_or_ge id d.host.nextOperation with hlt | hge
  · exact hlt
  · rw [(h.fresh id hge).1, hblank] at hid
    cases hid

/-- A desk is as sound as another one with the same work and the same functions. -/
theorem work (h : d.Sound a phase) {host : Host} (hwork : Host.SameWork d.host host) :
    Sound { d with host } a phase where
  refines := by rw [hwork.scheduler]; exact h.refines
  exact := by rw [hwork.tracker, hwork.next]; exact h.exact
  tracking := by rw [hwork.tracker]; exact h.tracking
  unfinished := hwork.finished.trans h.unfinished
  fresh := by
    intro id hid
    rw [hwork.next] at hid
    simp only [standing, hwork.tracker]
    exact h.fresh id hid
  fits := by
    intro id
    simp only [standing, hwork.tracker]
    exact h.fits id

/-- Another scheduler that stands for the same agenda will do as well. -/
theorem withScheduler (h : d.Sound a phase) {s : Scheduler} (hs : s.Refines a) :
    Sound { d with host := { d.host with scheduler := s } } a phase :=
  ⟨hs, h.exact, h.tracking, h.unfinished, h.fresh, h.fits⟩

/-- The clock and the script do not matter. -/
theorem passing (h : d.Sound a phase) (clock : Nat) (script : List (Option Doings)) :
    Sound { d with clock, script } a phase :=
  ⟨h.refines, h.exact, h.tracking, h.unfinished, h.fresh, h.fits⟩

/-- An operation begins, and nothing changes about the others; it is enough that the new one stands as
one that has just begun may. -/
theorem begins (h : d.Sound a phase) (kind : String) {d' : Desk} {p : Phase}
    (hhost : d'.host = (d.host.beginOperation kind).2)
    (hothers : ∀ other, d.host.nextOperation ≠ other →
      Desk.standing { d' with host := d.host } a other = d.standing a other)
    (hfits : (d'.standing a d.host.nextOperation).Fits p) :
    d'.Sound a (Function.update phase d.host.nextOperation p) := by
  refine h.change d.host.nextOperation ?_ ?_ ?_ ?_ ?_ ?_ ?_ ?_
  · rw [hhost]; exact h.refines
  · rw [hhost]; exact Tracker.exact_created h.exact kind _
  · rw [hhost]; exact (d.host.tracker.tracking_created _ kind _).trans h.tracking
  · rw [hhost]; exact h.unfinished
  · rw [hhost]; exact Nat.le_succ _
  · rw [hhost]; exact Nat.lt_succ_self _
  · intro other hother
    obtain ⟨hknown, hflight⟩ := d.host.tracker.created_other kind d.host.current hother
    refine ⟨?_, Function.update_of_ne (Ne.symm hother) _ _⟩
    rw [← hothers other hother]
    simp only [standing, hhost, Host.beginOperation, hknown, hflight]
  · rw [Function.update_self]
    exact hfits

/-! ### Timers -/

/-- A timer begins: its function waits, and its delay is to be converted. -/
theorem beginTimer (h : d.Sound a phase) (kind : String) (repeats : Bool) :
    (d.beginTimer kind repeats).2.Sound a
      (Function.update phase d.host.nextOperation (.converting repeats)) := by
  obtain ⟨hblank, -⟩ := h.fresh d.host.nextOperation (Nat.le_refl _)
  have hknows := h.exact.knows_created kind d.host.current
  simp only [standing, Standing.blank, Standing.mk.injEq, List.contains_eq_mem,
    decide_eq_false_iff_not] at hblank
  refine h.begins kind rfl ?_ ?_
  · intro other hother
    cases repeats <;>
      simp [standing, Desk.beginTimer, Callbacks.begin, Host.beginOperation,
        Callbacks.contains_put, Callbacks.mem_markRepeating, hother, Ne.symm hother]
  · have hbegun : (d.beginTimer kind repeats).2.standing a d.host.nextOperation
        = .begun ((d.host.tracker.created d.host.nextOperation kind d.host.current).knows
            d.host.nextOperation) repeats := by
      cases repeats <;>
        simp [standing, Desk.beginTimer, Callbacks.begin, Host.beginOperation, Standing.begun,
          Standing.blank, Callbacks.contains_put, Callbacks.mem_markRepeating, hblank, hknows]
    rw [hbegun]
    exact Standing.fits_begun _ repeats

/-- The delay has been converted, and the task of the timer is scheduled. -/
theorem scheduleTimer (h : d.Sound a phase) {id : Nat} {repeats : Bool}
    (hphase : phase id = .converting repeats) (delay : Float) :
    (d.scheduleTimer id delay repeats).Sound (a.schedule d.clock id (Delay.ofMillis delay) repeats)
      (Function.update phase id .resting) := by
  have hfits := h.fits id
  rw [hphase] at hfits
  have hid : id < d.host.nextOperation := h.lt_of_holds Standing.timer rfl hfits.moment.1
  have hhost : d.host.schedule d.clock id delay repeats = { d.host with
      scheduler := d.host.scheduler.schedule d.clock id (Delay.ofMillis delay) repeats } := by
    simp [Host.schedule, h.unfinished]
  have hstanding := d.standing_scheduleTimer a id delay repeats h.unfinished
  refine h.change id ?_ ?_ ?_ ?_ ?_ ?_ ?_ ?_
  · simpa only [Desk.scheduleTimer, hhost] using
      h.refines.schedule d.clock id (Delay.ofMillis delay) repeats
  · simpa only [Desk.scheduleTimer, hhost] using h.exact
  · simpa only [Desk.scheduleTimer, hhost] using h.tracking
  · simpa only [Desk.scheduleTimer, hhost] using h.unfinished
  · simp only [Desk.scheduleTimer, hhost, Nat.le_refl]
  · simpa only [Desk.scheduleTimer, hhost] using hid
  · intro other hother
    rw [hstanding, if_neg hother]
    exact ⟨rfl, Function.update_of_ne (Ne.symm hother) _ _⟩
  · rw [hstanding, if_pos rfl, Function.update_self]
    refine Standing.Fits.schedule ?_ rfl
    cases repeats <;> exact hfits

/-- A function that waits is cleared with its task and its operation. -/
theorem clear (h : d.Sound a phase) (id : Nat) : ∃ a', (d.clear id).Sound a' phase := by
  cases hwaits : d.callbacks.contains id with
  | false =>
      have hsame : d.clear id = d := by simp [Desk.clear, Callbacks.cancel, hwaits]
      rw [hsame]
      exact ⟨a, h⟩
  | true =>
      have hid : id < d.host.nextOperation := h.lt_of_holds Standing.waits rfl hwaits
      have hhost : (d.clear id).host = d.host.cancel id := by rw [host_clear, if_pos hwaits]
      have hstanding := d.standing_clear a id h.tracking hwaits
      refine ⟨(a.cancel id).1, h.change id ?_ ?_ ?_ ?_ ?_ ?_ ?_ ?_⟩
      · rw [hhost]; exact h.refines.cancel id
      · rw [hhost]; exact Tracker.exact_completed h.exact id
      · rw [hhost]; exact (d.host.tracker.tracking_completed id).trans h.tracking
      · rw [hhost]; exact h.unfinished
      · rw [hhost]; exact Nat.le_refl _
      · rw [hhost]; exact hid
      · intro other hother
        rw [hstanding, if_neg hother]
        exact ⟨rfl, rfl⟩
      · rw [hstanding, if_pos rfl]
        exact (h.fits id).clear

/-! ### Awaited values -/

/-- A value begins to be awaited. -/
theorem beginAwait (h : d.Sound a phase) :
    d.beginAwait.2.Sound a (Function.update phase d.host.nextOperation .subscribing) := by
  obtain ⟨hblank, -⟩ := h.fresh d.host.nextOperation (Nat.le_refl _)
  have hknows := h.exact.knows_created awaitKind d.host.current
  simp only [standing, Standing.blank, Standing.mk.injEq, List.contains_eq_mem,
    decide_eq_false_iff_not] at hblank
  refine h.begins awaitKind rfl ?_ ?_
  · intro other hother
    simp [standing, Desk.beginAwait, Host.beginOperation, Ne.symm hother]
  · have hawaited : d.beginAwait.2.standing a d.host.nextOperation
        = .awaited ((d.host.tracker.created d.host.nextOperation awaitKind d.host.current).knows
            d.host.nextOperation) := by
      simp [standing, Desk.beginAwait, Host.beginOperation, Standing.awaited, Standing.blank, hblank,
        hknows]
    rw [hawaited]
    exact Standing.fits_awaited _

/-- The value has been subscribed to, or could not be. -/
theorem subscribed (h : d.Sound a phase) {id : Nat} (hphase : phase id = .subscribing)
    (subscribes : Bool) :
    (d.subscribed id subscribes).Sound a (Function.update phase id .resting) := by
  have hfits := h.fits id
  rw [hphase] at hfits
  have hid : id < d.host.nextOperation := h.lt_of_holds Standing.await rfl hfits.moment.1
  have hhost : (d.subscribed id subscribes).host = d.host := by cases subscribes <;> rfl
  refine h.change id ?_ ?_ ?_ ?_ ?_ ?_ ?_ ?_
  · rw [hhost]; exact h.refines
  · rw [hhost]; exact h.exact
  · rw [hhost]; exact h.tracking
  · rw [hhost]; exact h.unfinished
  · rw [hhost]
  · rw [hhost]; exact hid
  · intro other hother
    refine ⟨?_, Function.update_of_ne (Ne.symm hother) _ _⟩
    cases subscribes <;> simp [standing, Desk.subscribed, Ne.symm hother]
  · have hstanding : (d.subscribed id subscribes).standing a id
        = (d.standing a id).subscribed subscribes := by
      cases subscribes <;> simp [standing, Desk.subscribed, Standing.subscribed]
    rw [Function.update_self, hstanding]
    exact hfits.subscribe subscribes

/-- An awaited value settles, and its continuation is scheduled. -/
theorem settle (h : d.Sound a phase) (id : Nat) : ∃ a', (d.settle id).Sound a' phase := by
  by_cases hunsettled : id ∈ d.unsettled
  · have hid : id < d.host.nextOperation :=
      h.lt_of_holds Standing.unsettled rfl (List.contains_iff_mem.2 hunsettled)
    have hhost : (d.settle id).host = { d.host with
        scheduler := d.host.scheduler.schedule d.clock id (Delay.ofMillis 0) false } := by
      simp [Desk.settle, hunsettled, Callbacks.post, Host.schedule, h.unfinished]
    have hstanding := d.standing_settle a h.unfinished hunsettled
    refine ⟨a.schedule d.clock id (Delay.ofMillis 0) false, h.change id ?_ ?_ ?_ ?_ ?_ ?_ ?_ ?_⟩
    · rw [hhost]; exact h.refines.schedule d.clock id (Delay.ofMillis 0) false
    · rw [hhost]; exact h.exact
    · rw [hhost]; exact h.tracking
    · rw [hhost]; exact h.unfinished
    · rw [hhost]
    · rw [hhost]; exact hid
    · intro other hother
      rw [hstanding, if_neg hother]
      exact ⟨rfl, rfl⟩
    · rw [hstanding, if_pos rfl]
      exact (h.fits id).settle rfl rfl (List.contains_iff_mem.2 hunsettled)
  · have hsame : d.settle id = d := by simp [Desk.settle, hunsettled]
    rw [hsame]
    exact ⟨a, h⟩

/-! ### Other calls -/

theorem enterCell (h : d.Sound a phase) (index : Nat) :
    Sound { d with host := (d.host.enterCell index).2 } a phase := by
  have hfinished : ¬ d.host.finished = true := by simp [h.unfinished]
  cases hcell : d.host.cells[index]? with
  | none =>
      have hsame : (d.host.enterCell index).2 = d.host := by
        simp [Host.enterCell, hfinished, hcell]
      rw [hsame]
      exact h
  | some cell =>
      obtain ⟨hblank, hphase⟩ := h.fresh d.host.nextOperation (Nat.le_refl _)
      have htracker : (d.host.enterCell index).2.tracker
          = d.host.tracker.bind d.host.nextOperation index := by
        simp [Host.enterCell, hfinished, hcell, Tracker.created_scopeKind]
      have hscheduler : (d.host.enterCell index).2.scheduler = d.host.scheduler := by
        simp [Host.enterCell, hfinished, hcell, Host.tell]
      have hnext : (d.host.enterCell index).2.nextOperation = d.host.nextOperation + 1 := by
        simp [Host.enterCell, hfinished, hcell]
      have hstanding : ∀ other, Desk.standing { d with host := (d.host.enterCell index).2 } a other
          = d.standing a other := by
        intro other
        simp only [standing, htracker, Tracker.bind, Tracker.knows]
      refine h.change d.host.nextOperation ?_ ?_ ?_ ?_ ?_ ?_ (fun other _ => ⟨hstanding other, rfl⟩) ?_
      · rw [hscheduler]; exact h.refines
      · rw [htracker, hnext]; exact Tracker.exact_bind h.exact index
      · rw [htracker]; exact h.tracking
      · simp [Host.enterCell, hfinished, hcell, Host.tell]
      · rw [hnext]; exact Nat.le_succ _
      · rw [hnext]; exact Nat.lt_succ_self _
      · rw [hstanding]; exact h.fits _

/-- An operation begins that is neither a timer's nor an awaited value's. -/
theorem beginOperation (h : d.Sound a phase) (kind : String) :
    Sound { d with host := (d.host.beginOperation kind).2 } a phase := by
  obtain ⟨hblank, hphase⟩ := h.fresh d.host.nextOperation (Nat.le_refl _)
  have hknows := h.exact.knows_created kind d.host.current
  simp only [standing, Standing.blank, Standing.mk.injEq] at hblank
  have hbegun : Desk.standing { d with host := (d.host.beginOperation kind).2 } a
      d.host.nextOperation = .blank ((d.host.tracker.created d.host.nextOperation kind
        d.host.current).knows d.host.nextOperation) ((d.host.tracker.created
          d.host.nextOperation kind d.host.current).knows d.host.nextOperation) := by
    simp only [standing, Host.beginOperation, Standing.blank, hblank, hknows]
  have hsound : Sound { d with host := (d.host.beginOperation kind).2 } a
      (Function.update phase d.host.nextOperation .resting) := by
    refine h.begins kind rfl (fun _ _ => rfl) ?_
    rw [hbegun]
    exact Standing.fits_blank _ _
  rwa [← hphase, Function.update_eq_self] at hsound

/-- An operation ends that is neither a timer's nor an awaited value's. -/
theorem endOperation (h : d.Sound a phase) {id : Nat} (htimer : id ∉ d.timers)
    (hawait : id ∉ d.awaits) : Sound { d with host := d.host.endOperation id } a phase := by
  have hstanding := d.standing_endOperation a id h.tracking
  by_cases hid : id < d.host.nextOperation
  · refine h.change id h.refines (Tracker.exact_completed h.exact id)
      ((d.host.tracker.tracking_completed id).trans h.tracking) h.unfinished (Nat.le_refl _) hid ?_ ?_
    · intro other hother
      rw [hstanding, if_neg hother]
      exact ⟨rfl, rfl⟩
    · rw [hstanding, if_pos rfl]
      exact (h.fits id).end_other (by simpa [standing] using htimer) (by simpa [standing] using hawait)
  · have hblank := (h.fresh id (Nat.le_of_not_lt hid)).1
    have hnot : d.host.tracker.current.contains id = false := congrArg Standing.inFlight hblank
    have hsame : d.host.endOperation id = d.host := by
      rw [Host.endOperation, Tracker.completed_eq_self (by simp [hnot])]
    rw [hsame]
    exact h

/-- Whatever else is asked of the host keeps a desk sound, unless it ends the run. -/
theorem ask (h : d.Sound a phase) (c : Host.Call) : (d.ask c).Keeps phase := by
  unfold Desk.ask
  split
  next hapart =>
    cases c with
    | begin =>
        have htracker : d.host.tracker.start = d.host.tracker := by
          rw [Tracker.start, ← h.tracking]
        exact Or.inr ⟨a, h.work ⟨htracker, rfl, rfl, rfl⟩⟩
    | enterCell index => exact Or.inr ⟨a, h.enterCell index⟩
    | beginOperation kind => exact Or.inr ⟨a, h.beginOperation kind⟩
    | endOperation id =>
        have hnot : ¬ (id ∈ d.timers ∨ id ∈ d.awaits) := by
          simpa [Host.Call.isApart] using hapart
        exact Or.inr ⟨a, h.endOperation (fun ht => hnot (Or.inl ht)) fun ha => hnot (Or.inr ha)⟩
    | fail cell? message stack => exact Or.inl (d.host.finished_fail cell? message stack)
    | finish => exact Or.inl d.host.finished_finish
    | cancel id => cases hapart
    | schedule now id delay repeats => cases hapart
    | popReady now => cases hapart
    | reschedule now id => cases hapart
    | _ => exact Or.inr ⟨a, h.work (d.host.sameWork_perform rfl)⟩
  next => exact Or.inr ⟨a, h⟩

end Sound

/-! ### A program that has control -/

/-- A run that is over stays over, whatever the program does. -/
theorem finished_run (p : Doings) {d : Desk} (h : d.host.finished = true) :
    (p.run d).host.finished = true := by
  induction p generalizing d with
  | done => exact h
  | pass nanoseconds rest ih => exact ih h
  | timer kind repeats conversion delay rest ihc ihr =>
      have hconverted := ihc (d := (d.beginTimer kind repeats).2) h
      exact ihr (Host.finished_perform hconverted (.schedule _ _ delay repeats))
  | clear id? rest ih =>
      cases id? with
      | none => exact ih h
      | some id =>
          refine ih ?_
          rw [host_clear]
          split
          · exact h
          · exact h
  | await subscription subscribes rest ihs ihr =>
      have hdone := ihs (d := d.beginAwait.2) h
      refine ihr ?_
      cases subscribes <;> exact hdone
  | settle id rest ih =>
      refine ih ?_
      unfold settle
      split
      · simp [Callbacks.post, Host.schedule, h]
      · exact h
  | ask call rest ih =>
      refine ih ?_
      unfold ask
      split
      · exact Host.finished_perform h call
      · exact h

/-- **Everything that a program does keeps a desk sound.** -/
theorem Keeps.run (p : Doings) {d : Desk} {phase : Nat → Phase} (h : d.Keeps phase) :
    (p.run d).Keeps phase := by
  induction p generalizing d phase with
  | done => exact h
  | pass nanoseconds rest ih =>
      refine ih ?_
      rcases h with h | ⟨a, h⟩
      · exact Or.inl h
      · exact Or.inr ⟨a, h.passing _ _⟩
  | timer kind repeats conversion delay rest ihc ihr =>
      -- The program has control while the delay is converted, so the phase says that it is.
      rcases h with h | ⟨a, h⟩
      · exact Or.inl (finished_run (.timer kind repeats conversion delay rest) h)
      · obtain ⟨-, hphase⟩ := h.fresh d.host.nextOperation (Nat.le_refl _)
        refine ihr ?_
        rcases ihc (Or.inr ⟨a, h.beginTimer kind repeats⟩) with hover | ⟨a', h'⟩
        · exact Or.inl (Host.finished_perform hover (.schedule _ _ delay repeats))
        · -- The phase of the timer is what it was before it began.
          have hscheduled := h'.scheduleTimer (Function.update_self _ _ _) delay
          rw [Function.update_idem, ← hphase, Function.update_eq_self] at hscheduled
          exact Or.inr ⟨_, hscheduled⟩
  | clear id? rest ih =>
      cases id? with
      | none => exact ih h
      | some id =>
          rcases h with h | ⟨a, h⟩
          · exact Or.inl (finished_run (.clear (some id) rest) h)
          · exact ih (Or.inr (h.clear id))
  | await subscription subscribes rest ihs ihr =>
      rcases h with h | ⟨a, h⟩
      · exact Or.inl (finished_run (.await subscription subscribes rest) h)
      · obtain ⟨-, hphase⟩ := h.fresh d.host.nextOperation (Nat.le_refl _)
        refine ihr ?_
        rcases ihs (Or.inr ⟨a, h.beginAwait⟩) with hover | ⟨a', h'⟩
        · refine Or.inl ?_
          cases subscribes <;> exact hover
        · have hsubscribed := h'.subscribed (Function.update_self _ _ _) subscribes
          rw [Function.update_idem, ← hphase, Function.update_eq_self] at hsubscribed
          exact Or.inr ⟨_, hsubscribed⟩
  | settle id rest ih =>
      rcases h with h | ⟨a, h⟩
      · exact Or.inl (finished_run (.settle id rest) h)
      · exact ih (Or.inr (h.settle id))
  | ask call rest ih =>
      rcases h with h | ⟨a, h⟩
      · exact Or.inl (finished_run (.ask call rest) h)
      · exact ih (h.ask call)

end Desk

end NotebookEngine
