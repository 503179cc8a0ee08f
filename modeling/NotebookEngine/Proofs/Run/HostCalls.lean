/-
**Runs of a host.**

A running program and its driver call the host in whatever order they like.  A run is the list of the
calls made after the cells were named; what holds of every host that some list of calls leads to holds
at every moment of every run.

What a call can do to the tracker is said once, here: it leaves it alone, switches it, binds a fresh
scope to a cell, records a fresh operation, or completes one.

Main definitions:

* `Host.Call`, `Host.perform` — the calls of a host, and what each does;
* `Host.after` — the host after a list of calls;
* `Tracker.Change` — what a call may do to the tracker;
* `Host.OnlyTold`, `Host.SameWork`, `Host.SameRoll` — hosts that differ in what was put out alone, that
  know of the same work, and that know the same of their cells.

Main results:

* `Host.sameWork_perform` — calls about cells, output and errors leave operations and tasks alone;
* `Host.change_perform` — every call does one of these things to the tracker;
* `Host.sameRoll_perform`, `Host.cells_perform` — what calls leave alone of the cells;
* `Host.finished_perform` — a run that is over stays over;
* `Host.after_induction` — what the calls keep holds after every list of them.
-/

import NotebookEngine.Run.Host

set_option autoImplicit false

namespace NotebookEngine

/-! ### Calls -/

/-- A call of a host. -/
inductive Host.Call where
  | begin
  | setMaps (generated? compiled? : Option SourceMap)
  | enterCell (index : Nat)
  | leaveCell (scope : Nat)
  | beginOperation (kind : String)
  | endOperation (id : Nat)
  | cancel (id : Nat)
  | setCurrent (id : Nat)
  | schedule (now id : Nat) (delay : Float) (repeats : Bool)
  | popReady (now : Nat)
  | reschedule (now id : Nat)
  | pollDrained
  | cellEnded (index : Nat)
  | endText
  | write (channel : Channel) (text : String)
  | display (json kind : String)
  | captureLocals (json : String)
  | report (cell? : Option String) (error : RawError)
  | fail (cell? : Option String) (message stack : String)
  | finish
  | takeEvents
  | takeEnvironment

namespace Host

/-- The host after a call; what the call answers is left aside. -/
def perform (h : Host) : Call → Host
  | .begin => h.begin
  | .setMaps generated? compiled? => h.setMaps generated? compiled?
  | .enterCell index => (h.enterCell index).2
  | .leaveCell scope => h.leaveCell scope
  | .beginOperation kind => (h.beginOperation kind).2
  | .endOperation id => h.endOperation id
  | .cancel id => h.cancel id
  | .setCurrent id => h.setCurrent id
  | .schedule now id delay repeats => h.schedule now id delay repeats
  | .popReady now => { h with scheduler := (h.scheduler.popReady now).1 }
  | .reschedule now id => { h with scheduler := (h.scheduler.reschedule now id).1 }
  | .pollDrained => h.pollDrained.2
  | .cellEnded index => h.cellEnded index
  | .endText => h.endText
  | .write channel text => h.write channel text
  | .display json kind => h.display json kind
  | .captureLocals json => h.captureLocals json
  | .report cell? error => h.report cell? error
  | .fail cell? message stack => h.fail cell? message stack
  | .finish => h.finish
  | .takeEvents => h.takeEvents.2
  | .takeEnvironment => h.takeEnvironment.2

/-- The host after a list of calls. -/
def after (h : Host) (calls : List Call) : Host := calls.foldl perform h

@[simp] theorem after_nil (h : Host) : h.after [] = h := rfl

@[simp] theorem after_cons (h : Host) (c : Call) (calls : List Call) :
    h.after (c :: calls) = (h.perform c).after calls := rfl

theorem after_append (h : Host) (a b : List Call) : h.after (a ++ b) = (h.after a).after b :=
  List.foldl_append

/-- What holds at first and is kept by every call holds after every list of calls. -/
theorem after_induction {P : Host → Prop} {h : Host} (calls : List Call) (h₀ : P h)
    (hstep : ∀ (h : Host) (c : Call), P h → P (h.perform c)) : P (h.after calls) := by
  induction calls generalizing h with
  | nil => exact h₀
  | cons c calls ih => exact ih (hstep h c h₀)

end Host

/-! ### What a call does to the tracker -/

namespace Tracker

theorem created_scopeKind (t : Tracker) (id trigger : Nat) :
    t.created id scopeKind trigger = t := by
  simp [created, isUncounted]

/-- What a call may do to the tracker and to the number that the next operation gets. -/
inductive Change (t : Tracker) (next : Nat) : Tracker → Nat → Prop
  | same : Change t next t next
  | start : Change t next t.start next
  | stop : Change t next t.stop next
  /-- A scope is bound to its cell. -/
  | scope (cell : Nat) : Change t next (t.bind next cell) (next + 1)
  | created (kind : String) (trigger : Nat) :
      Change t next (t.created next kind trigger) (next + 1)
  | completed (id : Nat) : Change t next (t.completed id) next

end Tracker

namespace Host

/-- A host that has put out more, and counted it; everything else is as before. -/
def OnlyTold (h h' : Host) : Prop :=
  ∃ events streams outputs capped errors,
    h' = { h with
      events := events, streams := streams, outputs := outputs, capped := capped, errors := errors }

theorem OnlyTold.refl (h : Host) : OnlyTold h h :=
  ⟨h.events, h.streams, h.outputs, h.capped, h.errors, rfl⟩

theorem OnlyTold.trans {h h' h'' : Host} (s : OnlyTold h h') (t : OnlyTold h' h'') :
    OnlyTold h h'' := by
  obtain ⟨_, _, _, _, _, rfl⟩ := s
  obtain ⟨events, streams, outputs, capped, errors, rfl⟩ := t
  exact ⟨events, streams, outputs, capped, errors, rfl⟩

theorem onlyTold_tell (h : Host) (e : Event) : OnlyTold h (h.tell e) := ⟨_, _, _, _, _, rfl⟩

theorem onlyTold_passThrough (h : Host) (channel : Channel) (text : String) :
    OnlyTold h (h.passThrough channel text) := ⟨_, _, _, _, _, rfl⟩

theorem onlyTold_report (h : Host) (cell? : Option String) (e : RawError) :
    OnlyTold h (h.report cell? e) := by
  unfold report
  split <;> exact ⟨_, _, _, _, _, rfl⟩

theorem onlyTold_countOutput (h : Host) : OnlyTold h h.countOutput.2 := by
  unfold countOutput
  split
  · exact .refl h
  · split <;> exact ⟨_, _, _, _, _, rfl⟩

theorem onlyTold_write (h : Host) (channel : Channel) (text : String) :
    OnlyTold h (h.write channel text) := by
  have hcount := h.onlyTold_countOutput
  have hecho : ∀ (h' : Host) (e : Event), OnlyTold h'
      (if h'.settings.echo then (h'.tell e).passThrough channel text else h'.tell e) := by
    intro h' e
    split
    · exact (h'.onlyTold_tell e).trans (onlyTold_passThrough _ channel text)
    · exact h'.onlyTold_tell e
  unfold write
  split
  · exact h.onlyTold_passThrough channel text
  · split
    next h' he => rw [he] at hcount; exact hcount
    next h' he =>
      rw [he] at hcount
      cases channel <;> exact hcount.trans (hecho h' _)

theorem onlyTold_display (h : Host) (json kind : String) : OnlyTold h (h.display json kind) := by
  have hcount := h.onlyTold_countOutput
  unfold display
  split
  · exact .refl h
  · split
    next h' he => rw [he] at hcount; exact hcount
    next h' he => rw [he] at hcount; exact hcount.trans (h'.onlyTold_tell _)

/-- Two hosts that know of the same work: the same operations and tasks, in a run that both think over or
both not. -/
structure SameWork (h h' : Host) : Prop where
  tracker : h'.tracker = h.tracker
  next : h'.nextOperation = h.nextOperation
  scheduler : h'.scheduler = h.scheduler
  finished : h'.finished = h.finished

theorem SameWork.change {h h' : Host} (s : SameWork h h') :
    Tracker.Change h.tracker h.nextOperation h'.tracker h'.nextOperation := by
  rw [s.tracker, s.next]
  exact .same

theorem OnlyTold.sameWork {h h' : Host} (t : OnlyTold h h') : SameWork h h' := by
  obtain ⟨_, _, _, _, _, rfl⟩ := t
  exact ⟨rfl, rfl, rfl, rfl⟩

/-- The calls that are about cells, output and errors. -/
def Call.isQuiet : Call → Bool
  | .setMaps .. | .leaveCell _ | .setCurrent _ | .pollDrained | .cellEnded _ | .endText | .write ..
  | .display .. | .captureLocals _ | .report .. | .takeEvents | .takeEnvironment => true
  | _ => false

theorem sameWork_report (h : Host) (cell? : Option String) (e : RawError) :
    SameWork h (h.report cell? e) := (h.onlyTold_report cell? e).sameWork

theorem sameWork_captureLocals (h : Host) (json : String) : SameWork h (h.captureLocals json) := by
  unfold captureLocals
  split <;> exact ⟨rfl, rfl, rfl, rfl⟩

/-- Calls about cells, output and errors leave the work alone. -/
theorem sameWork_perform (h : Host) {c : Call} (hc : c.isQuiet = true) :
    SameWork h (h.perform c) := by
  cases c with
  | leaveCell scope =>
      simp only [perform, leaveCell]
      split <;> exact ⟨rfl, rfl, rfl, rfl⟩
  | cellEnded index =>
      simp only [perform, cellEnded]
      split <;> exact ⟨rfl, rfl, rfl, rfl⟩
  | write channel text => exact (h.onlyTold_write channel text).sameWork
  | display json kind => exact (h.onlyTold_display json kind).sameWork
  | captureLocals json => exact h.sameWork_captureLocals json
  | report cell? error => exact h.sameWork_report cell? error
  | setMaps generated? compiled? => exact ⟨rfl, rfl, rfl, rfl⟩
  | setCurrent id => exact ⟨rfl, rfl, rfl, rfl⟩
  | pollDrained => exact ⟨rfl, rfl, rfl, rfl⟩
  | endText => exact ⟨rfl, rfl, rfl, rfl⟩
  | takeEvents => exact ⟨rfl, rfl, rfl, rfl⟩
  | takeEnvironment => exact ⟨rfl, rfl, rfl, rfl⟩
  | _ => cases hc

theorem change_finish (h : Host) :
    Tracker.Change h.tracker h.nextOperation h.finish.tracker h.finish.nextOperation := by
  unfold finish
  split
  · exact .same
  · exact .stop

theorem change_enterCell (h : Host) (index : Nat) :
    Tracker.Change h.tracker h.nextOperation (h.enterCell index).2.tracker
      (h.enterCell index).2.nextOperation := by
  unfold enterCell
  split
  · exact .same
  · cases hcell : h.cells[index]? with
    | none => exact .same
    | some cell =>
        simp only [Tracker.created_scopeKind]
        exact .scope index

/-- **Every call of a host does one of these things to its tracker.** -/
theorem change_perform (h : Host) (c : Call) :
    Tracker.Change h.tracker h.nextOperation (h.perform c).tracker (h.perform c).nextOperation := by
  cases c with
  | begin => exact .start
  | enterCell index => exact h.change_enterCell index
  | beginOperation kind => exact .created kind h.current
  | endOperation id => exact .completed id
  | cancel id => exact .completed id
  | schedule now id delay repeats =>
      simp only [perform, schedule]
      split <;> exact .same
  | popReady now => exact .same
  | reschedule now id => exact .same
  | fail cell? message stack =>
      have hreport := h.sameWork_report cell?
        ⟨CellPlaces.nonempty (some message), none, CellPlaces.nonempty (some stack)⟩
      simp only [perform, fail]
      rw [← hreport.tracker, ← hreport.next]
      exact change_finish _
  | finish => exact h.change_finish
  | _ => exact (h.sameWork_perform rfl).change

/-! ### What a call does to the cells -/

/-- Two hosts that know the same of their cells and of the text of the program. -/
structure SameRoll (h h' : Host) : Prop where
  cells : h'.cells = h.cells
  started : h'.started = h.started
  drained : h'.drained = h.drained
  textEnded : h'.textEnded = h.textEnded

theorem SameRoll.trans {h h' h'' : Host} (s : SameRoll h h') (t : SameRoll h' h'') : SameRoll h h'' :=
  ⟨t.cells.trans s.cells, t.started.trans s.started, t.drained.trans s.drained,
    t.textEnded.trans s.textEnded⟩

theorem OnlyTold.sameRoll {h h' : Host} (t : OnlyTold h h') : SameRoll h h' := by
  obtain ⟨_, _, _, _, _, rfl⟩ := t
  exact ⟨rfl, rfl, rfl, rfl⟩

theorem sameRoll_finish (h : Host) : SameRoll h h.finish := by
  unfold finish
  split <;> exact ⟨rfl, rfl, rfl, rfl⟩

/-- The calls that note something about the cells or the text. -/
def Call.isNoted : Call → Bool
  | .enterCell _ | .pollDrained | .endText => true
  | _ => false

/-- No other call does. -/
theorem sameRoll_perform (h : Host) {c : Call} (hc : c.isNoted = false) :
    SameRoll h (h.perform c) := by
  cases c with
  | enterCell index => cases hc
  | pollDrained => cases hc
  | endText => cases hc
  | leaveCell scope =>
      simp only [perform, leaveCell]
      split <;> exact ⟨rfl, rfl, rfl, rfl⟩
  | schedule now id delay repeats =>
      simp only [perform, schedule]
      split <;> exact ⟨rfl, rfl, rfl, rfl⟩
  | cellEnded index =>
      simp only [perform, cellEnded]
      split <;> exact ⟨rfl, rfl, rfl, rfl⟩
  | captureLocals json =>
      simp only [perform, captureLocals]
      split <;> exact ⟨rfl, rfl, rfl, rfl⟩
  | write channel text => exact (h.onlyTold_write channel text).sameRoll
  | display json kind => exact (h.onlyTold_display json kind).sameRoll
  | report cell? e => exact (h.onlyTold_report cell? e).sameRoll
  | fail cell? message stack =>
      exact (h.onlyTold_report cell? _).sameRoll.trans (sameRoll_finish _)
  | finish => exact h.sameRoll_finish
  | _ => exact ⟨rfl, rfl, rfl, rfl⟩

/-- No call names the cells anew. -/
theorem cells_perform (h : Host) (c : Call) : (h.perform c).cells = h.cells := by
  cases hc : c.isNoted with
  | false => exact (h.sameRoll_perform hc).cells
  | true =>
      cases c with
      | enterCell index =>
          simp only [perform, enterCell]
          split
          · rfl
          · split <;> rfl
      | pollDrained => rfl
      | endText => rfl
      | _ => cases hc

theorem cells_after (h : Host) (calls : List Call) : (h.after calls).cells = h.cells :=
  after_induction (P := fun h' => h'.cells = h.cells) calls rfl
    fun h' c hsame => (h'.cells_perform c).trans hsame

/-! ### The end of a run -/

theorem finished_finish (h : Host) : h.finish.finished = true := by
  unfold finish
  split
  next hf => exact hf
  next => rfl

theorem finished_fail (h : Host) (cell? : Option String) (message stack : String) :
    (h.fail cell? message stack).finished = true := finished_finish _

/-- A run that is over stays over, whatever is asked. -/
theorem finished_perform {h : Host} (hf : h.finished = true) (c : Call) :
    (h.perform c).finished = true := by
  cases c with
  | begin => exact hf
  | enterCell index =>
      simp only [perform, enterCell, hf, if_true]
  | beginOperation kind => exact hf
  | endOperation id => exact hf
  | cancel id => exact hf
  | schedule now id delay repeats =>
      simp only [perform, schedule, hf, if_true]
  | popReady now => exact hf
  | reschedule now id => exact hf
  | fail cell? message stack => exact h.finished_fail cell? message stack
  | finish => exact h.finished_finish
  | _ => exact ((h.sameWork_perform rfl).finished).trans hf

end Host

end NotebookEngine
