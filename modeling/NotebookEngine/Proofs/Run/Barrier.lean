/-
**The end of a run is a barrier.**

A run ends once, by being finished or by failing.  Nothing guards what is asked of its host afterwards as
a whole: some requests look whether the run is over, some whether the streams are held, and others find a
scheduler without tasks and a tracker that heeds nothing.  Together that is enough.  Whatever is asked of
a run that is over, in whatever order, nothing is registered, counted or told any more.

A run is begun at most once, and not when it is over already.

Main definitions:

* `Host.Order`, `Host.follow` — what a host may be asked, and the host after a list of such orders;
* `Host.orderly` — orders that begin the run at most once, and not when it is over;
* `Host.queued`, `Host.toldBy` — the events that an order queues, and those of a kind of orders;
* `Host.Account`, `Host.Closed` — what the orders so far say of a host, and what holds of one whose run
  is over.

Main results:

* `Host.tells_obey`, `Host.account_follow` — an order that is about none of this, and every run;
* `Host.closed_obey`, `Host.closed_follow` — a run that is over stays as it is;
* `Host.finish_is_barrier` — **once a run is over, nothing happens in it, and it has been told once that
  it is over**.
-/

import Mathlib.Data.List.Induction
import NotebookEngine.Proofs.Run.HostCalls

set_option autoImplicit false

namespace NotebookEngine

/-! ### Events -/

namespace Event

/-- Whether the event says that the run is over. -/
def isCompleted : Event → Bool
  | .completed => true
  | _ => false

/-- Whether the event shows an error. -/
def isError : Event → Bool
  | .error .. => true
  | _ => false

/-- Whether the event shows something that was put out, or tells that outputs are dropped. -/
def isOutput : Event → Bool
  | .display .. | .error .. | .capped => true
  | _ => false

theorem isCompleted_of_isOutput {e : Event} (h : e.isOutput = true) : e.isCompleted = false := by
  cases e with
  | completed => cases h
  | _ => rfl

end Event

/-! ### Orders -/

/-- What a host may be asked: any call, or to name the cells of the notebook. -/
inductive Host.Order where
  | call (c : Host.Call)
  | nameCells (ids : List String)

namespace Host

namespace Order

/-- Whether the run begins. -/
def begins : Order → Bool
  | .call .begin => true
  | _ => false

/-- Whether the run is to end. -/
def ends : Order → Bool
  | .call (.fail ..) | .call .finish => true
  | _ => false

/-- Whether the run fails. -/
def fails : Order → Bool
  | .call (.fail ..) => true
  | _ => false

/-- Whether an error is reported. -/
def reports : Order → Bool
  | .call (.report ..) | .call (.fail ..) => true
  | _ => false

/-- Whether the owner of the run is to be told something by the program or its driver. -/
def tells : Order → Bool
  | .call (.write ..) | .call (.display ..) => true
  | o => o.reports || o.ends

/-- Whether the queued events are taken. -/
def takes : Order → Bool
  | .call .takeEvents => true
  | _ => false

theorem ends_of_fails {o : Order} (h : o.fails = true) : o.ends = true := by
  cases o with
  | nameCells ids => cases h
  | call c =>
      cases c with
      | fail cell? message stack => rfl
      | _ => cases h

end Order

/-- The host after an order. -/
def obey (h : Host) : Order → Host
  | .call c => h.perform c
  | .nameCells ids => h.setCells ids

/-- The host after a list of orders. -/
def follow (h : Host) (orders : List Order) : Host := orders.foldl obey h

/-- The events that an order queues. -/
def queued (h : Host) (o : Order) : List Event := (h.obey o).events.drop h.events.length

/-- The events that the orders of a kind queue while a list of orders is followed. -/
def toldBy (kind : Order → Bool) : Host → List Order → List Event
  | _, [] => []
  | h, o :: orders => (if kind o then h.queued o else []) ++ toldBy kind (h.obey o) orders

/-- Whether the orders begin the run at most once, and not when it is over. -/
def orderly : Host → List Order → Bool
  | _, [] => true
  | h, o :: orders =>
    (!o.begins || (!h.finished && !orders.any Order.begins)) && orderly (h.obey o) orders

@[simp] theorem follow_nil (h : Host) : h.follow [] = h := rfl

@[simp] theorem follow_cons (h : Host) (o : Order) (orders : List Order) :
    h.follow (o :: orders) = (h.obey o).follow orders := rfl

theorem follow_append (h : Host) (a b : List Order) : h.follow (a ++ b) = (h.follow a).follow b :=
  List.foldl_append

theorem toldBy_append (kind : Order → Bool) (h : Host) (a b : List Order) :
    h.toldBy kind (a ++ b) = h.toldBy kind a ++ (h.follow a).toldBy kind b := by
  induction a generalizing h with
  | nil => rfl
  | cons o a ih => simp only [List.cons_append, toldBy, follow_cons, ih, List.append_assoc]

/-- The last order adds what it queues, if it is of the kind. -/
theorem toldBy_concat (kind : Order → Bool) (h : Host) (orders : List Order) (o : Order) :
    h.toldBy kind (orders ++ [o]) =
      h.toldBy kind orders ++ if kind o then (h.follow orders).queued o else [] := by
  rw [toldBy_append, toldBy, toldBy, List.append_nil]

/-- Orders are orderly up to the last, and if that one begins the run, it is the first to do so and the
run is not over. -/
theorem orderly_concat (h : Host) (orders : List Order) (o : Order) :
    h.orderly (orders ++ [o]) = true ↔
      h.orderly orders = true ∧
        (o.begins = true → (h.follow orders).finished = false ∧ orders.any Order.begins = false) := by
  induction orders generalizing h with
  | nil => cases hb : o.begins <;> simp [orderly, hb]
  | cons p orders ih =>
      simp only [List.cons_append, orderly, Bool.and_eq_true, ih, follow_cons, List.any_append,
        List.any_cons, List.any_nil, Bool.or_false]
      cases p.begins <;> cases o.begins <;> cases orders.any Order.begins <;> simp

/-! ### What an order does -/

/-- A host that has only told more: whether its run is over, who holds the streams, and the number of
errors are as before. -/
structure Tells (h h' : Host) (news : List Event) : Prop where
  events : h'.events = h.events ++ news
  errors : h'.errors = h.errors
  finished : h'.finished = h.finished
  holds : h'.holdsStreams = h.holdsStreams
  captured : h'.streams.captured = h.streams.captured
  releases : h'.streams.releases = h.streams.releases

theorem Tells.refl (h : Host) : Tells h h [] := ⟨(List.append_nil _).symm, rfl, rfl, rfl, rfl, rfl⟩

theorem Tells.trans {h h' h'' : Host} {a b : List Event} (s : Tells h h' a) (t : Tells h' h'' b) :
    Tells h h'' (a ++ b) where
  events := by rw [t.events, s.events, List.append_assoc]
  errors := t.errors.trans s.errors
  finished := t.finished.trans s.finished
  holds := t.holds.trans s.holds
  captured := t.captured.trans s.captured
  releases := t.releases.trans s.releases

theorem tells_tell (h : Host) (e : Event) : Tells h (h.tell e) [e] := ⟨rfl, rfl, rfl, rfl, rfl, rfl⟩

theorem tells_passThrough (h : Host) (channel : Channel) (text : String) :
    Tells h (h.passThrough channel text) [] := by
  cases channel <;> exact ⟨(List.append_nil _).symm, rfl, rfl, rfl, rfl, rfl⟩

/-- Counting an output tells at most that outputs are dropped from now on. -/
theorem tells_countOutput (h : Host) :
    ∃ news, Tells h h.countOutput.2 news ∧ ∀ e ∈ news, e = .capped := by
  unfold countOutput
  split
  · exact ⟨[], .refl h, by simp⟩
  · split
    · exact ⟨[.capped], ⟨rfl, rfl, rfl, rfl, rfl, rfl⟩, by simp⟩
    · exact ⟨[], ⟨(List.append_nil _).symm, rfl, rfl, rfl, rfl, rfl⟩, by simp⟩

/-- An output is counted and then, unless it is dropped, told by one event. -/
theorem tells_output {h : Host} {h' : Host} {dropped : Bool} (hcount : h.countOutput = (dropped, h'))
    {h'' : Host} {more : List Event} (htold : Tells h' h'' more)
    (hmore : ∀ e ∈ more, e.isOutput = true) :
    ∃ news, Tells h h'' news ∧ ∀ e ∈ news, e.isOutput = true := by
  obtain ⟨news, htells, hcapped⟩ := h.tells_countOutput
  rw [hcount] at htells
  refine ⟨news ++ more, htells.trans htold, ?_⟩
  intro e he
  rcases List.mem_append.1 he with he | he
  · rw [hcapped e he]
    rfl
  · exact hmore e he

/-- An event is told, and its text may pass through as well. -/
theorem tells_echo (h : Host) (e : Event) (channel : Channel) (text : String) :
    Tells h (if h.settings.echo then (h.tell e).passThrough channel text else h.tell e) [e] := by
  split
  · exact (h.tells_tell e).trans (tells_passThrough _ channel text)
  · exact h.tells_tell e

theorem tells_write (h : Host) (channel : Channel) (text : String) :
    ∃ news, Tells h (h.write channel text) news ∧ ∀ e ∈ news, e.isOutput = true := by
  unfold write
  split
  · exact ⟨[], h.tells_passThrough channel text, by simp⟩
  · split
    next h' hcount => exact tells_output hcount (.refl h') (by simp)
    next h' hcount =>
      -- The event depends on the stream.
      cases channel <;>
        exact tells_output hcount (h'.tells_echo _ _ text) (List.forall_mem_singleton.2 rfl)

theorem tells_display (h : Host) (json kind : String) :
    ∃ news, Tells h (h.display json kind) news ∧ ∀ e ∈ news, e.isOutput = true := by
  unfold display
  split
  · exact ⟨[], .refl h, by simp⟩
  · split
    next h' hcount => exact tells_output hcount (.refl h') (by simp)
    next h' hcount => exact tells_output hcount (h'.tells_tell _) (List.forall_mem_singleton.2 rfl)

theorem tells_enterCell (h : Host) (index : Nat) :
    ∃ news, Tells h (h.enterCell index).2 news ∧ ∀ e ∈ news, e.isCompleted = false := by
  unfold enterCell
  split
  · exact ⟨[], .refl h, by simp⟩
  · cases h.cells[index]? with
    | none => exact ⟨[], .refl h, by simp⟩
    | some cell =>
        exact ⟨[.started cell], ⟨rfl, rfl, rfl, rfl, rfl, rfl⟩, List.forall_mem_singleton.2 rfl⟩

/-- An order that neither begins nor ends the run, reports no error and takes no events only tells: it
does not say that the run is over. -/
theorem tells_obey (h : Host) {o : Order} (hbegins : o.begins = false) (hends : o.ends = false)
    (hreports : o.reports = false) (htakes : o.takes = false) :
    ∃ news, Tells h (h.obey o) news ∧ ∀ e ∈ news, e.isCompleted = false := by
  have hsilent : ∀ h' : Host, Tells h h' [] →
      ∃ news, Tells h h' news ∧ ∀ e ∈ news, e.isCompleted = false :=
    fun h' ht => ⟨[], ht, by simp⟩
  have hput : ∀ h' : Host, (∃ news, Tells h h' news ∧ ∀ e ∈ news, e.isOutput = true) →
      ∃ news, Tells h h' news ∧ ∀ e ∈ news, e.isCompleted = false := by
    rintro h' ⟨news, ht, hnews⟩
    exact ⟨news, ht, fun e he => Event.isCompleted_of_isOutput (hnews e he)⟩
  have hunchanged : h.events = h.events ++ [] := (List.append_nil _).symm
  cases o with
  | nameCells ids => exact hsilent _ ⟨hunchanged, rfl, rfl, rfl, rfl, rfl⟩
  | call c =>
      cases c with
      | begin => cases hbegins
      | report cell? error => cases hreports
      | fail cell? message stack => cases hends
      | finish => cases hends
      | takeEvents => cases htakes
      | enterCell index => exact h.tells_enterCell index
      | write channel text => exact hput _ (h.tells_write channel text)
      | display json kind => exact hput _ (h.tells_display json kind)
      | cellEnded index =>
          simp only [obey, perform, cellEnded]
          split
          · exact ⟨_, h.tells_tell _, List.forall_mem_singleton.2 rfl⟩
          · exact hsilent _ (.refl h)
      | leaveCell scope =>
          simp only [obey, perform, leaveCell]
          split <;> exact hsilent _ ⟨hunchanged, rfl, rfl, rfl, rfl, rfl⟩
      | schedule now id delay repeats =>
          simp only [obey, perform, schedule]
          split <;> exact hsilent _ ⟨hunchanged, rfl, rfl, rfl, rfl, rfl⟩
      | captureLocals json =>
          simp only [obey, perform, captureLocals]
          split <;> exact hsilent _ ⟨hunchanged, rfl, rfl, rfl, rfl, rfl⟩
      | _ => exact hsilent _ ⟨hunchanged, rfl, rfl, rfl, rfl, rfl⟩

/-- The events that an order queues are those that it adds. -/
theorem queued_of_append {h : Host} {o : Order} {news : List Event}
    (hadded : (h.obey o).events = h.events ++ news) : h.queued o = news := by
  rw [queued, hadded, List.drop_left]

theorem queued_of_events {h : Host} {o : Order} (hsame : (h.obey o).events = h.events) :
    h.queued o = [] := by
  rw [queued, hsame, List.drop_length]

theorem Tells.queued_eq {h : Host} {o : Order} {news : List Event} (t : Tells h (h.obey o) news) :
    h.queued o = news := queued_of_append t.events

/-- In a run that is not over, an error that is reported is told by one event and counted. -/
theorem report_of_unfinished {h : Host} (hf : h.finished = false) (cell? : Option String)
    (e : RawError) : ∃ cell text,
    h.report cell? e = { h.tell (.error cell text) with errors := h.errors + 1 } := by
  rw [report, if_neg (by rw [hf]; exact Bool.false_ne_true)]
  exact ⟨_, _, rfl⟩

theorem report_of_finished {h : Host} (hf : h.finished = true) (cell? : Option String)
    (e : RawError) : h.report cell? e = h := by
  rw [report, if_pos hf]

theorem finish_of_unfinished {h : Host} (hf : h.finished = false) : h.finish =
    { h.tell .completed with
      finished := true
      streams := if h.holdsStreams then h.streams.release else h.streams
      holdsStreams := false
      tracker := h.tracker.stop
      scheduler := .empty } := by
  rw [finish, if_neg (by rw [hf]; exact Bool.false_ne_true)]

theorem finish_of_finished {h : Host} (hf : h.finished = true) : h.finish = h := by
  rw [finish, if_pos hf]

theorem fail_of_finished {h : Host} (hf : h.finished = true) (cell? : Option String)
    (message stack : String) : h.fail cell? message stack = h := by
  rw [fail, report_of_finished hf, finish_of_finished hf]

/-- A run that is not over tells when it is. -/
theorem events_finish {h : Host} (hf : h.finished = false) :
    h.finish.events = h.events ++ [.completed] := by
  rw [finish_of_unfinished hf]
  rfl

/-- In a run that is not over, a failure is told by its error, and then the run is over. -/
theorem events_fail {h : Host} (hf : h.finished = false) (cell? : Option String)
    (message stack : String) : ∃ cell text,
    (h.fail cell? message stack).events = h.events ++ [.error cell text, .completed] ∧
      (h.fail cell? message stack).errors = h.errors + 1 := by
  obtain ⟨cell, text, hreport⟩ := report_of_unfinished hf cell?
    ⟨CellPlaces.nonempty (some message), none, CellPlaces.nonempty (some stack)⟩
  have hfail : h.fail cell? message stack =
      Host.finish { h.tell (.error cell text) with errors := h.errors + 1 } := by
    rw [← hreport]
    rfl
  rw [hfail, finish_of_unfinished (h := { h.tell (.error cell text) with errors := h.errors + 1 }) hf]
  exact ⟨cell, text, by simp [tell], rfl⟩

/-- Entering a cell that exists, in a run that is not over, tells that it has started. -/
theorem queued_enterCell {h : Host} (hf : h.finished = false) {index : Nat} {cell : String}
    (hcell : h.cells[index]? = some cell) : h.queued (.call (.enterCell index)) = [.started cell] := by
  have hnot : ¬h.finished = true := by simp [hf]
  refine queued_of_append ?_
  rw [obey, perform, enterCell, if_neg hnot, hcell]
  rfl

/-- An error that is reported in a run that is not over is told. -/
theorem queued_report {h : Host} (hf : h.finished = false) (cell? : Option String) (e : RawError) :
    ∃ cell text, h.queued (.call (.report cell? e)) = [.error cell text] := by
  obtain ⟨cell, text, hreport⟩ := report_of_unfinished hf cell? e
  refine ⟨cell, text, queued_of_append ?_⟩
  rw [obey, perform, hreport]
  rfl

/-- What an order does about the end of the run and about errors. -/
structure Telling (h : Host) (o : Order) : Prop where
  finished : (h.obey o).finished = (h.finished || o.ends)
  completed : (h.queued o).countP Event.isCompleted = if o.ends && !h.finished then 1 else 0
  errors : (h.obey o).errors = h.errors + if o.reports then (h.queued o).countP Event.isError else 0
  failures : o.fails = true → (h.queued o).countP Event.isError = if h.finished then 0 else 1

/-- An order that queues nothing and keeps the errors, in a run that stays as it is. -/
theorem telling_of_silent {h : Host} {o : Order} (hqueued : h.queued o = [])
    (herrors : (h.obey o).errors = h.errors) (hfinished : (h.obey o).finished = (h.finished || o.ends))
    (hover : (o.ends || o.fails) = true → h.finished = true) : Telling h o where
  finished := hfinished
  completed := by
    cases hends : o.ends with
    | false => rw [hqueued]; rfl
    | true => rw [hqueued, hover (by rw [hends]; rfl)]; rfl
  errors := by rw [hqueued, herrors]; split <;> rfl
  failures := by
    intro hfails
    rw [hqueued, hover (by rw [hfails, Bool.or_true])]
    rfl

/-- An order that does nothing, in a run that is over. -/
theorem telling_of_same {h : Host} {o : Order} (hover : h.finished = true) (hsame : h.obey o = h) :
    Telling h o := by
  refine telling_of_silent ?_ ?_ ?_ fun _ => hover
  · exact queued_of_events (congrArg Host.events hsame)
  · rw [hsame]
  · rw [hsame, hover]
    rfl

theorem telling_report (h : Host) (cell? : Option String) (e : RawError) :
    Telling h (.call (.report cell? e)) := by
  cases hf : h.finished with
  | true => exact telling_of_same hf (report_of_finished hf cell? e)
  | false =>
      obtain ⟨cell, text, hreport⟩ := report_of_unfinished hf cell? e
      have htold : h.obey (.call (.report cell? e)) =
        { h.tell (.error cell text) with errors := h.errors + 1 } := hreport
      have hqueued : h.queued (.call (.report cell? e)) = [.error cell text] :=
        queued_of_append (congrArg Host.events htold)
      refine ⟨?_, ?_, ?_, ?_⟩
      · rw [htold, hf]
        exact hf
      · rw [hqueued]
        rfl
      · rw [htold, hqueued]
        rfl
      · intro hfails
        cases hfails

theorem telling_finish (h : Host) : Telling h (.call .finish) := by
  cases hf : h.finished with
  | true => exact telling_of_same hf (finish_of_finished hf)
  | false =>
      have hqueued : h.queued (.call .finish) = [.completed] :=
        queued_of_append (events_finish hf)
      refine ⟨?_, ?_, ?_, ?_⟩
      · rw [obey, perform, finished_finish, hf]
        rfl
      · rw [hqueued, hf]
        rfl
      · rw [obey, perform, finish_of_unfinished hf]
        rfl
      · intro hfails
        cases hfails

theorem telling_fail (h : Host) (cell? : Option String) (message stack : String) :
    Telling h (.call (.fail cell? message stack)) := by
  cases hf : h.finished with
  | true => exact telling_of_same hf (fail_of_finished hf cell? message stack)
  | false =>
      obtain ⟨cell, text, hevents, herrors⟩ := events_fail hf cell? message stack
      have hqueued : h.queued (.call (.fail cell? message stack)) = [.error cell text, .completed] :=
        queued_of_append hevents
      refine ⟨?_, ?_, ?_, fun _ => ?_⟩
      · rw [obey, perform, finished_fail, hf]
        rfl
      · rw [hqueued, hf]
        rfl
      · rw [obey, perform, herrors, hqueued]
        rfl
      · rw [hqueued, hf]
        rfl

theorem telling (h : Host) (o : Order) : Telling h o := by
  have hplain : ∀ o : Order, o.begins = false → o.ends = false → o.reports = false →
      o.takes = false → Telling h o := by
    intro o hbegins hends hreports htakes
    obtain ⟨news, ht, hnews⟩ := h.tells_obey hbegins hends hreports htakes
    refine ⟨by rw [ht.finished, hends, Bool.or_false], ?_, by rw [ht.errors, hreports]; rfl, ?_⟩
    · have hnone : news.countP Event.isCompleted = 0 :=
        List.countP_eq_zero.2 fun e he => by rw [hnews e he]; exact Bool.false_ne_true
      rw [ht.queued_eq, hends, hnone]
      rfl
    · intro hfails
      rw [Order.ends_of_fails hfails] at hends
      cases hends
  cases o with
  | nameCells ids => exact hplain _ rfl rfl rfl rfl
  | call c =>
      cases c with
      | report cell? e => exact h.telling_report cell? e
      | fail cell? message stack => exact h.telling_fail cell? message stack
      | finish => exact h.telling_finish
      | begin =>
          refine telling_of_silent List.drop_length rfl (Bool.or_false _).symm ?_
          intro hends
          cases hends
      | takeEvents =>
          refine telling_of_silent List.drop_nil rfl (Bool.or_false _).symm ?_
          intro hends
          cases hends
      | _ => exact hplain _ rfl rfl rfl rfl

end Host

/-! ### A scheduler without tasks -/

namespace Scheduler

theorem cancel_empty (id : Nat) : empty.cancel id = (empty, false) := rfl

theorem popReady_empty (now : Nat) : empty.popReady now = (empty, none) := rfl

theorem reschedule_empty (now id : Nat) : empty.reschedule now id = (empty, false) := rfl

end Scheduler

/-! ### A tracker that heeds nothing -/

namespace Tracker

theorem created_of_not_tracking {t : Tracker} (h : t.tracking = false) (id : Nat) (kind : String)
    (trigger : Nat) : t.created id kind trigger = t := by
  simp [created, h]

theorem completed_of_not_tracking {t : Tracker} (h : t.tracking = false) (id : Nat) :
    t.completed id = t := by
  simp [completed, h]

end Tracker

/-! ### A run that is over -/

namespace Host

/-- A host whose run is over. -/
structure Closed (h : Host) : Prop where
  finished : h.finished = true
  scheduler : h.scheduler = .empty
  tracking : h.tracker.tracking = false
  captured : h.streams.captured = false

/-- Whatever is asked of a host whose run is over, short of beginning it again, finds and leaves it
closed, and the tracker as it is. -/
theorem closed_obey {h : Host} (hc : h.Closed) {o : Order} (hbegins : o.begins = false) :
    (h.obey o).Closed ∧ (h.obey o).tracker = h.tracker := by
  have hsame : ∀ h' : Host, h' = h → h'.Closed ∧ h'.tracker = h.tracker := by
    rintro h' rfl
    exact ⟨hc, rfl⟩
  obtain ⟨hfinished, hscheduler, htracking, hcaptured⟩ := hc
  -- What is only about cells and output leaves the work alone, and the streams are not held again.
  have hquiet : ∀ c : Call, c.isQuiet = true → (h.perform c).streams.captured = false →
      (h.obey (.call c)).Closed ∧ (h.obey (.call c)).tracker = h.tracker := by
    intro c hquiet hstreams
    have hwork := h.sameWork_perform hquiet
    exact ⟨⟨hwork.finished.trans hfinished, hwork.scheduler.trans hscheduler,
      (congrArg Tracker.tracking hwork.tracker).trans htracking, hstreams⟩, hwork.tracker⟩
  cases o with
  | nameCells ids => exact ⟨⟨hfinished, hscheduler, htracking, hcaptured⟩, rfl⟩
  | call c =>
      have htold := fun hends hreports htakes =>
        h.tells_obey (o := .call c) hbegins hends hreports htakes
      cases c with
      | begin => cases hbegins
      | enterCell index =>
          refine hsame _ ?_
          rw [obey, perform, enterCell, if_pos hfinished]
      | beginOperation kind =>
          have htracker := Tracker.created_of_not_tracking htracking h.nextOperation kind h.current
          exact ⟨⟨hfinished, hscheduler, (congrArg Tracker.tracking htracker).trans htracking, hcaptured⟩,
            htracker⟩
      | endOperation id =>
          have htracker := Tracker.completed_of_not_tracking htracking id
          exact ⟨⟨hfinished, hscheduler, (congrArg Tracker.tracking htracker).trans htracking, hcaptured⟩,
            htracker⟩
      | cancel id =>
          have htracker := Tracker.completed_of_not_tracking htracking id
          have hcancel : (h.scheduler.cancel id).1 = .empty := by rw [hscheduler, Scheduler.cancel_empty]
          exact ⟨⟨hfinished, hcancel, (congrArg Tracker.tracking htracker).trans htracking, hcaptured⟩,
            htracker⟩
      | schedule now id delay repeats =>
          refine hsame _ ?_
          rw [obey, perform, schedule, if_pos hfinished]
      | popReady now =>
          have hpop : (h.scheduler.popReady now).1 = .empty := by
            rw [hscheduler, Scheduler.popReady_empty]
          exact ⟨⟨hfinished, hpop, htracking, hcaptured⟩, rfl⟩
      | reschedule now id =>
          have hagain : (h.scheduler.reschedule now id).1 = .empty := by
            rw [hscheduler, Scheduler.reschedule_empty]
          exact ⟨⟨hfinished, hagain, htracking, hcaptured⟩, rfl⟩
      | report cell? error => exact hsame _ (report_of_finished hfinished cell? error)
      | fail cell? message stack => exact hsame _ (fail_of_finished hfinished cell? message stack)
      | finish => exact hsame _ (finish_of_finished hfinished)
      | takeEvents => exact hquiet .takeEvents rfl hcaptured
      | _ =>
          obtain ⟨news, ht, -⟩ := htold rfl rfl rfl
          exact hquiet _ rfl (ht.captured.trans hcaptured)

/-- So does any list of orders. -/
theorem closed_follow {h : Host} (hc : h.Closed) {orders : List Order}
    (hbegins : orders.any Order.begins = false) :
    (h.follow orders).Closed ∧ (h.follow orders).tracker = h.tracker := by
  induction orders generalizing h with
  | nil => exact ⟨hc, rfl⟩
  | cons o orders ih =>
      rw [List.any_cons, Bool.or_eq_false_iff] at hbegins
      obtain ⟨hclosed, htracker⟩ := closed_obey hc hbegins.1
      obtain ⟨hrest, hsame⟩ := ih hclosed hbegins.2
      exact ⟨hrest, hsame.trans htracker⟩

namespace Closed

variable {h : Host}

/-- A run that is over lets no cell be entered. -/
theorem enterCell (hc : h.Closed) (index : Nat) : h.enterCell index = (none, h) := by
  rw [Host.enterCell, if_pos hc.finished]

/-- What is written in a run that is over passes through. -/
theorem write (hc : h.Closed) (channel : Channel) (text : String) :
    h.write channel text = h.passThrough channel text := by
  rw [Host.write, hc.captured]
  rfl

/-- So it is put at the end of the stream that it is written to, and nothing else happens. -/
theorem write_streams (hc : h.Closed) (channel : Channel) (text : String) :
    h.write channel text =
      { h with streams :=
        { h.streams with
          output := h.streams.output ++ if channel = .output then text else ""
          errors := h.streams.errors ++ if channel = .error then text else "" } } := by
  rw [hc.write, Host.passThrough]
  cases channel with
  | output => simp [Streams.passThrough]
  | error => simp [Streams.passThrough]

/-- Nothing is told by a run that is over. -/
theorem queued (hc : h.Closed) {o : Order} (ho : o.tells = true) : h.queued o = [] := by
  have hsame : h.obey o = h → h.queued o = [] := by
    intro hsame
    exact queued_of_events (congrArg Host.events hsame)
  cases o with
  | nameCells ids => cases ho
  | call c =>
      cases c with
      | write channel text =>
          have htold := h.tells_passThrough channel text
          rw [← hc.write channel text] at htold
          exact Tells.queued_eq (o := .call (.write channel text)) htold
      | display json kind => exact hsame (by rw [obey, perform, Host.display, if_pos hc.finished])
      | report cell? e => exact hsame (report_of_finished hc.finished cell? e)
      | fail cell? message stack => exact hsame (fail_of_finished hc.finished cell? message stack)
      | finish => exact hsame (finish_of_finished hc.finished)
      | _ => cases ho

end Closed

/-! ### Every run -/

/-- What the orders so far say of a host: they have ended its run or not, and held the streams or not. -/
structure Account (orders : List Order) (h : Host) : Prop where
  finished : h.finished = orders.any Order.ends
  holds : h.holdsStreams = (orders.any Order.begins && !h.finished)
  captured : h.streams.captured = (orders.any Order.begins && !h.finished)
  releases : h.streams.releases = if orders.any Order.begins && h.finished then 1 else 0
  closed : h.finished = true → h.Closed

theorem account_new (settings : Settings) (file : String) : Account [] (new settings file) :=
  ⟨rfl, rfl, rfl, rfl, nofun⟩

namespace Account

variable {orders : List Order} {h : Host}

/-- Another host whose run is over or not as this one's, and that holds the streams as this one does. -/
theorem transfer (ha : Account orders h) {h' : Host} (hfinished : h'.finished = h.finished)
    (hholds : h'.holdsStreams = h.holdsStreams) (hcaptured : h'.streams.captured = h.streams.captured)
    (hreleases : h'.streams.releases = h.streams.releases) (hclosed : h'.finished = true → h'.Closed) :
    Account orders h' where
  finished := hfinished.trans ha.finished
  holds := by rw [hholds, hfinished, ha.holds]
  captured := by rw [hcaptured, hfinished, ha.captured]
  releases := by rw [hreleases, hfinished, ha.releases]
  closed := hclosed

/-- One more order that neither begins nor ends the run. -/
theorem more (ha : Account orders h) {o : Order} (hbegins : o.begins = false) (hends : o.ends = false) :
    Account (orders ++ [o]) h := by
  have hbegun : (orders ++ [o]).any Order.begins = orders.any Order.begins := by simp [hbegins]
  have hended : (orders ++ [o]).any Order.ends = orders.any Order.ends := by simp [hends]
  exact ⟨by rw [hended, ha.finished], by rw [hbegun, ha.holds], by rw [hbegun, ha.captured],
    by rw [hbegun, ha.releases], ha.closed⟩

/-- The run begins: its host holds the streams. -/
theorem begin (ha : Account orders h) (hf : h.finished = false)
    (hbegins : orders.any Order.begins = false) : Account (orders ++ [.call .begin]) h.begin := by
  have hreleased : h.holdsStreams = false := by rw [ha.holds, hbegins]; rfl
  have hstreams : h.begin.streams = h.streams.acquire := by
    rw [Host.begin, hreleased]
    rfl
  have hfinished : h.begin.finished = false := hf
  have hbegun : (orders ++ [Order.call .begin]).any Order.begins = true := by simp [Order.begins]
  have hended : (orders ++ [Order.call .begin]).any Order.ends = false := by
    rw [List.any_append, ← ha.finished, hf]
    rfl
  refine ⟨hfinished.trans hended.symm, ?_, ?_, ?_, ?_⟩
  · rw [hbegun, hfinished]
    rfl
  · rw [hstreams, hbegun, hfinished]
    rfl
  · rw [hstreams, hbegun, hfinished]
    exact ha.releases.trans (by rw [hbegins]; rfl)
  · rw [hfinished]
    exact nofun

/-- The run is over from now on, if it was not before. -/
theorem finish (ha : Account orders h) {o : Order} (hbegins : o.begins = false) (hends : o.ends = true) :
    Account (orders ++ [o]) h.finish := by
  have hbegun : (orders ++ [o]).any Order.begins = orders.any Order.begins := by simp [hbegins]
  have hended : (orders ++ [o]).any Order.ends = true := by simp [hends]
  cases hf : h.finished with
  | true =>
      rw [finish_of_finished hf]
      exact ⟨hf.trans hended.symm, by rw [hbegun, ha.holds], by rw [hbegun, ha.captured],
        by rw [hbegun, ha.releases], ha.closed⟩
  | false =>
      obtain ⟨-, hholds, hcaptured, hreleases, -⟩ := ha
      rw [hf, Bool.not_false, Bool.and_true] at hholds hcaptured
      rw [hf, Bool.and_false] at hreleases
      rw [finish_of_unfinished hf]
      -- The streams are released if the run has held them, and it has held them if it has begun.
      cases hany : orders.any Order.begins with
      | true =>
          rw [hany] at hholds hcaptured hbegun
          rw [if_pos hholds]
          exact ⟨hended.symm, by rw [hbegun]; rfl, by rw [hbegun]; rfl,
            by rw [hbegun]; exact congrArg (· + 1) hreleases, fun _ => ⟨rfl, rfl, rfl, rfl⟩⟩
      | false =>
          rw [hany] at hholds hcaptured hbegun
          rw [if_neg (by rw [hholds]; exact Bool.false_ne_true)]
          exact ⟨hended.symm, by rw [hbegun]; rfl, by rw [hbegun]; exact hcaptured,
            by rw [hbegun]; exact hreleases, fun _ => ⟨rfl, rfl, rfl, hcaptured⟩⟩

/-- **One more order, which begins the run only if none has done so and the run is not over.** -/
theorem obey (ha : Account orders h) {o : Order}
    (hbegins : o.begins = true → h.finished = false ∧ orders.any Order.begins = false) :
    Account (orders ++ [o]) (h.obey o) := by
  have hplain : ∀ o : Order, o.begins = false → o.ends = false → o.reports = false →
      o.takes = false → Account (orders ++ [o]) (h.obey o) := by
    intro o hbegins hends hreports htakes
    obtain ⟨news, ht, -⟩ := h.tells_obey hbegins hends hreports htakes
    refine (ha.more hbegins hends).transfer ht.finished ht.holds ht.captured ht.releases ?_
    intro hover
    exact (closed_obey (ha.closed (ht.finished.symm.trans hover)) hbegins).1
  have hreport : ∀ cell? e, Account orders (h.report cell? e) := by
    intro cell? e
    cases hf : h.finished with
    | true => rw [report_of_finished hf]; exact ha
    | false =>
        obtain ⟨cell, text, htold⟩ := report_of_unfinished hf cell? e
        rw [htold]
        refine ha.transfer rfl rfl rfl rfl ?_
        intro hover
        exact absurd (hf.symm.trans hover) Bool.false_ne_true
  cases o with
  | nameCells ids => exact hplain _ rfl rfl rfl rfl
  | call c =>
      cases c with
      | begin =>
          obtain ⟨hf, hfirst⟩ := hbegins rfl
          exact ha.begin hf hfirst
      | report cell? e => exact (hreport cell? e).more rfl rfl
      | fail cell? message stack => exact (hreport cell? _).finish rfl rfl
      | finish => exact ha.finish rfl rfl
      | takeEvents =>
          refine (ha.more (o := .call .takeEvents) rfl rfl).transfer rfl rfl rfl rfl ?_
          exact fun hover => (closed_obey (ha.closed hover) (o := .call .takeEvents) rfl).1
      | _ => exact hplain _ rfl rfl rfl rfl

end Account

/-- Every orderly run has this account. -/
theorem account_follow (settings : Settings) (file : String) (orders : List Order)
    (horderly : (new settings file).orderly orders = true) :
    Account orders ((new settings file).follow orders) := by
  -- By induction on the orders from the last one backwards: the account tells what came before it.
  induction orders using List.reverseRecOn with
  | nil => exact account_new settings file
  | append_singleton orders o ih =>
      obtain ⟨hbefore, hbegins⟩ := ((new settings file).orderly_concat orders o).1 horderly
      rw [follow_append, follow_cons, follow_nil]
      exact (ih hbefore).obey hbegins

/-- What is told in a run about its end and about errors. -/
structure Totals (start : Host) (orders : List Order) : Prop where
  finished : (start.follow orders).finished = orders.any Order.ends
  completed : (start.toldBy (fun _ => true) orders).countP Event.isCompleted =
    if orders.any Order.ends then 1 else 0
  errors : (start.follow orders).errors = (start.toldBy Order.reports orders).countP Event.isError
  failures : (start.toldBy Order.fails orders).countP Event.isError ≤ if orders.any Order.ends then 1 else 0

theorem totals_follow (settings : Settings) (file : String) (orders : List Order) :
    Totals (new settings file) orders := by
  induction orders using List.reverseRecOn with
  | nil => exact ⟨rfl, rfl, rfl, Nat.le_refl 0⟩
  | append_singleton orders o ih =>
      obtain ⟨hfinished, hcompleted, herrors, hfailures⟩ := ih
      have htelling := ((new settings file).follow orders).telling o
      have hended : (orders ++ [o]).any Order.ends = (orders.any Order.ends || o.ends) := by simp
      refine ⟨?_, ?_, ?_, ?_⟩
      · rw [follow_append, follow_cons, follow_nil, htelling.finished, hfinished, hended]
      · rw [toldBy_concat, if_pos rfl, List.countP_append, hcompleted, htelling.completed, hfinished, hended]
        cases orders.any Order.ends <;> cases o.ends <;> rfl
      · rw [follow_append, follow_cons, follow_nil, htelling.errors, herrors, toldBy_concat,
          List.countP_append]
        cases o.reports <;> rfl
      · rw [toldBy_concat, List.countP_append, hended]
        cases hfails : o.fails with
        | false =>
            rw [if_neg Bool.false_ne_true, List.countP_nil, Nat.add_zero]
            cases horders : orders.any Order.ends with
            | false => rw [horders] at hfailures; exact Nat.le_trans hfailures (Nat.zero_le _)
            | true => rw [horders] at hfailures; exact hfailures
        | true =>
            -- A run that is over fails without telling an error, so this is the first to tell one.
            rw [if_pos rfl, htelling.failures hfails, hfinished, Order.ends_of_fails hfails, Bool.or_true]
            cases horders : orders.any Order.ends with
            | false => rw [horders] at hfailures; exact Nat.add_le_add_right hfailures 1
            | true => rw [horders] at hfailures; exact hfailures

/-- A host whose run was over at an earlier state `ended`: it has no task, it tracks nothing more, and
whatever is told to it leads nowhere. -/
structure Sealed (ended h : Host) (begun : Bool) : Prop where
  tasks : h.scheduler.size = 0
  ready : ∀ now, (h.scheduler.popReady now).2 = none
  tracking : h.tracker.tracking = false
  tracker : h.tracker = ended.tracker
  captured : h.streams.captured = false
  releases : h.streams.releases = if begun then 1 else 0
  entry : ∀ index, h.enterCell index = (none, h)
  silent : ∀ o : Order, o.tells = true → h.queued o = []
  /-- What is written is put at the end of its stream, and does nothing else. -/
  passes : ∀ channel text, h.write channel text =
    { h with streams :=
      { h.streams with
        output := h.streams.output ++ if channel = .output then text else ""
        errors := h.streams.errors ++ if channel = .error then text else "" } }

/-- Both parts of orderly orders are orderly. -/
theorem orderly_append {h : Host} {a b : List Order} (horderly : h.orderly (a ++ b) = true) :
    h.orderly a = true ∧ (h.follow a).orderly b = true := by
  induction a generalizing h with
  | nil => exact ⟨rfl, horderly⟩
  | cons o a ih =>
      rw [List.cons_append, orderly, Bool.and_eq_true] at horderly
      obtain ⟨hfirst, hrest⟩ := ih horderly.2
      refine ⟨?_, hrest⟩
      have hbegins := horderly.1
      rw [List.any_append] at hbegins
      have hkeep : ∀ p f x y : Bool, (!p || (!f && !(x || y))) = true → (!p || (!f && !x)) = true := by
        decide
      rw [orderly, hfirst, Bool.and_true]
      exact hkeep _ _ _ _ hbegins

/-- No order begins a run that is over. -/
theorem not_begins_of_finished {h : Host} (hover : h.finished = true) {orders : List Order}
    (horderly : h.orderly orders = true) : orders.any Order.begins = false := by
  induction orders generalizing h with
  | nil => rfl
  | cons o orders ih =>
      rw [orderly, hover, Bool.and_eq_true] at horderly
      have hnot : o.begins = false := by simpa using horderly.1
      have hstill : (h.obey o).finished = true := by rw [(h.telling o).finished, hover, Bool.true_or]
      rw [List.any_cons, hnot, ih hstill horderly.2]
      rfl

/-- A run that was over at an earlier state is sealed. -/
theorem sealed_follow (settings : Settings) (file : String) {before after : List Order}
    (horderly : (new settings file).orderly (before ++ after) = true)
    (hover : ((new settings file).follow before).finished = true) :
    Sealed ((new settings file).follow before) ((new settings file).follow (before ++ after))
      ((before ++ after).any Order.begins) := by
  obtain ⟨hfirst, hrest⟩ := orderly_append horderly
  have hended := (account_follow settings file before hfirst).closed hover
  have hnot : after.any Order.begins = false := not_begins_of_finished hover hrest
  obtain ⟨hclosed, htracker⟩ := closed_follow hended hnot
  have hreleases := (account_follow settings file (before ++ after) horderly).releases
  rw [← follow_append] at hclosed htracker
  rw [hclosed.finished, Bool.and_true] at hreleases
  exact
    { tasks := by rw [hclosed.scheduler]; rfl
      ready := fun now => by rw [hclosed.scheduler, Scheduler.popReady_empty]
      tracking := hclosed.tracking
      tracker := htracker
      captured := hclosed.captured
      releases := hreleases
      entry := hclosed.enterCell
      silent := fun o ho => hclosed.queued ho
      passes := hclosed.write_streams }

/-- Only the first order that ends the run says that it is over. -/
theorem completed_queued_iff (settings : Settings) (file : String) (before : List Order) (o : Order) :
    (((new settings file).follow before).queued o).any Event.isCompleted = true ↔
      o.ends = true ∧ before.any Order.ends = false := by
  have htelling := ((new settings file).follow before).telling o
  have hcount := htelling.completed
  rw [(totals_follow settings file before).finished] at hcount
  rw [List.any_eq_true, ← List.countP_pos_iff, hcount]
  cases o.ends <;> cases before.any Order.ends <;> simp

/-- **The end of a run is a barrier.**  Take any orders that begin the run at most once, and not when it
is over.  From the first moment at which it is over, the run is sealed for good: no task is registered or
comes due, the tracker stays as it is and heeds nothing, the streams are free and were released once if
they were held, no cell is entered, what is written passes through, and nothing more is told.  Over the
whole run every error that is counted was told by a report or a failure, at most one of them by a
failure, and the end is told once, by the first order that ends the run. -/
theorem finish_is_barrier (settings : Settings) (file : String) (orders : List Order)
    (horderly : (new settings file).orderly orders = true) :
    let start := new settings file
    (∀ before after, orders = before ++ after → (start.follow before).finished = true →
      Sealed (start.follow before) (start.follow orders) (orders.any Order.begins)) ∧
    ((start.follow orders).finished = orders.any Order.ends) ∧
    ((start.follow orders).errors = (start.toldBy Order.reports orders).countP Event.isError) ∧
    ((start.toldBy Order.fails orders).countP Event.isError ≤ 1) ∧
    ((start.toldBy (fun _ => true) orders).countP Event.isCompleted =
      if orders.any Order.ends then 1 else 0) ∧
    ∀ before o after, orders = before ++ o :: after →
      (((start.follow before).queued o).any Event.isCompleted = true ↔
        o.ends = true ∧ before.any Order.ends = false) := by
  intro start
  obtain ⟨hfinished, hcompleted, herrors, hfailures⟩ := totals_follow settings file orders
  refine ⟨?_, hfinished, herrors, ?_, hcompleted, ?_⟩
  · rintro before after rfl hover
    exact sealed_follow settings file horderly hover
  · refine Nat.le_trans hfailures ?_
    split
    · exact Nat.le_refl 1
    · exact Nat.zero_le 1
  · intro before o after _
    exact completed_queued_iff settings file before o

/-- A run that fails in a cell with a timer, and goes on asking. -/
def lateOrders : List Order :=
  [.nameCells ["cell"], .call .begin, .call (.enterCell 0), .call (.beginOperation "Timeout"),
    .call (.schedule 0 3 10 true), .call (.fail none "Error: first" ""), .call (.reschedule 0 3),
    .call (.schedule 0 4 10 false), .call (.endOperation 3), .call (.fail none "Error: second" ""),
    .call (.write .output "late"), .call .finish]

/-- The run is over after its failure: the timer is gone, the streams were released once, and what is written
passes through, behind what has passed through before. -/
theorem sealed_lateOrders :
    (new .default "notebook").orderly lateOrders = true ∧
      ((new .default "notebook").follow (lateOrders.take 6)).finished = true ∧
      ((new .default "notebook").follow lateOrders).scheduler.size = 0 ∧
      ((new .default "notebook").follow lateOrders).streams.releases = 1 ∧
      (((new .default "notebook").follow lateOrders).write .output "more").streams.output = "latemore" ∧
      ((new .default "notebook").toldBy (fun _ => true) lateOrders).countP Event.isCompleted = 1 := by
  have horderly : (new .default "notebook").orderly lateOrders = true := by rfl
  have hover : ((new .default "notebook").follow (lateOrders.take 6)).finished = true := by rfl
  obtain ⟨hsealed, -, -, -, hcompleted, -⟩ := finish_is_barrier .default "notebook" lateOrders horderly
  have hlate := hsealed (lateOrders.take 6) (lateOrders.drop 6) (List.take_append_drop 6 _).symm hover
  have hpassed : ((new .default "notebook").follow lateOrders).streams.output = "late" := by rfl
  refine ⟨horderly, hover, hlate.tasks, hlate.releases, ?_, hcompleted⟩
  rw [hlate.passes, hpassed]
  rfl

end Host

end NotebookEngine
