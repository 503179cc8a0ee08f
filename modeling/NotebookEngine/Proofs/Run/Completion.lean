/-
**The end of a run is told once.**

There are many ways in which a run ends: its program cannot be read, it fails, its jobs fail, something
is rejected, every cell has drained, nothing is left to wait for, or it cannot be driven on.  Whichever
comes first, the owner of the run is told once that it is over.  After that only one thing can still be
told.  When a cell has drained, its variables are captured once more, and what the program does meanwhile
may end the run; the driver tells all the same that the cell has ended, and that the other cells have
that drained with it.

What a program does is taken from a script, so that what holds for every script holds for every program.

Main definitions:

* `Host.Call.isBinding` — the calls of its host that a program can make;
* `Turn`, `Actor` — what a program does when it is given control, and a program that does what a script
  says;
* `Actor.runner` — such a program as an evaluation runs it;
* `Host.Chronicle`, `Actor.Told` — what has been told of a run so far, and what waits to be told.

Main results:

* `Host.Chronicle.perform`, `Host.Chronicle.cellEnded` — a call of the program or its driver, and a cell
  that has ended;
* `Actor.Told.endCells`, `Actor.Told.round`, `Actor.Told.rounds` — a step of the driver, and all of them;
* `Actor.completed_once` — **the end of a run is told once, and last, unless capturing the variables of a
  cell has ended the run**.
-/

import NotebookEngine.Proofs.Run.Barrier
import NotebookEngine.Proofs.Run.Driving
import NotebookEngine.Run.Evaluate

set_option autoImplicit false

namespace NotebookEngine

/-! ### What a program does -/

/-- Whether a running program can make the call itself. -/
def Host.Call.isBinding : Host.Call → Bool
  | .enterCell _ | .leaveCell _ | .beginOperation _ | .endOperation _ | .cancel _ | .setCurrent _
  | .schedule .. | .endText | .write .. | .display .. | .captureLocals _ | .fail .. => true
  | _ => false

/-- What a program does when it is given control. -/
structure Turn where
  /-- What it asks of its host; only what a program can ask is done. -/
  calls : List Host.Call
  /-- The time that passes. -/
  nanoseconds : Nat
  /-- What keeps it from being driven on. -/
  fault? : Option String
  /-- What it fails with otherwise: a message and a trace. -/
  failure? : Option (String × String)
  /-- What has then been rejected and is not handled. -/
  rejected : List (String × String)

/-- A program that does what a script says. -/
structure Actor where
  host : Host
  clock : Nat
  files : FileTree
  /-- What the program does each time it is given control; `none` stands for nothing left to do. -/
  script : List (Option Turn)
  rejected : List (String × String)
  fault? : Option String
  /-- Whether the run has ended while the variables of a cell that had drained were captured, and was
  driven on after that. -/
  endedByCapture : Bool

namespace Actor

/-- Do what the script says for one turn. -/
def act (a : Actor) (t : Turn) : Actor :=
  { a with
    host := a.host.after (t.calls.filter Host.Call.isBinding)
    clock := a.clock + t.nanoseconds
    rejected := t.rejected }

/-- The next turn of the script. -/
def next (a : Actor) : Option Turn × Actor :=
  match a.script with
  | t? :: script => (t?, { a with script })
  | [] => (none, a)

/-- Take a turn, and fail if the script says so. -/
def actOrFail (a : Actor) : Actor :=
  match a.next with
  | (none, a) => a
  | (some t, a) =>
    let a := a.act t
    match t.fault?, t.failure? with
    | some fault, _ => { a with fault? := some fault }
    | none, some (message, stack) => { a with host := a.host.fail none message stack }
    | none, none => a

/-- Let the next job be a turn of the script. -/
def job (a : Actor) : (Bool × Option (String × String)) × Actor :=
  match a.next with
  | (none, a) => ((false, none), a)
  | (some t, a) => ((true, t.failure?), a.act t)

/-- Capture the variables of a cell: what this fails with is not told. -/
def capture (a : Actor) : Actor :=
  match a.next with
  | (none, a) => a
  | (some t, a) =>
    let b := a.act t
    match t.fault? with
    | some fault => { b with fault? := some fault }
    | none => { b with endedByCapture := a.endedByCapture || (!a.host.finished && b.host.finished) }

/-- A program that does what its script says, as it is driven. -/
def guest : Guest Actor where
  onHost f a :=
    let (x, host) := f a.host
    (x, { a with host })
  clock a := a.clock
  waitUntil moment a := { a with clock := max a.clock moment }
  job := job
  takeRejections a := (a.rejected, { a with rejected := [] })
  task _ := actOrFail
  capture _ := capture
  fault? a := a.fault?

/-- Start the program, unless it cannot be read. -/
def launch (unreadable? : Option RawError) (a : Actor) : Actor :=
  match unreadable? with
  | some e => { a with host := (a.host.report none e).finish }
  | none => a.actOrFail

/-- Such a program as an evaluation runs it. -/
def runner (unreadable? : Option RawError) (script : List (Option Turn)) : Runner Actor where
  guest := guest
  start host files := ⟨host, 0, files, script, [], none, false⟩
  launch _ _ _ := launch unreadable?
  files := files

end Actor

/-! ### What is told -/

/-- The event that a notice shows, if it shows one. -/
def Notice.event? : Notice → Option Event
  | .event e => some e
  | _ => none

namespace Session

variable {σ : Type} (g : Guest σ)

/-- The events that the owner of a run has been told. -/
def told (x : Session σ) : List Event := x.notices.toList.filterMap fun n => n.notice.event?

@[simp] theorem told_tellOwner (news : List Notice) (x : Session σ) :
    (x.tellOwner g news).told = x.told ++ news.filterMap Notice.event? := by
  simp only [told, tellOwner, List.foldl_push_eq_append, Array.toList_append,
    List.filterMap_append, List.filterMap_map]
  rfl

theorem filterMap_passedNotices (channel : Channel) (text : String) :
    (passedNotices channel text).filterMap Notice.event? = [] := by
  unfold passedNotices
  split <;> rfl

theorem filterMap_eventNotices (limit : Nat) (es : List Event) :
    (es.flatMap (eventNotices limit)).filterMap Notice.event? = es := by
  induction es with
  | nil => rfl
  | cons e es ih =>
      have hone : (eventNotices limit e).filterMap Notice.event? = [e] := by cases e <;> rfl
      rw [List.flatMap_cons, List.filterMap_append, hone, ih, List.singleton_append]

end Session

/-- A report tells the events that the owner of the run has been told. -/
theorem Evaluation.events_reportOf {σ : Type} (r : Runner σ) (x : Session σ) :
    (reportOf r x).events = x.told := rfl

/-- Whether the event says that a cell has ended. -/
def Event.isEnded : Event → Bool
  | .ended _ => true
  | _ => false

/-! ### What waits to be told -/

namespace Host

/-- Whether a call neither begins the run, nor takes its events, nor says that a cell has ended. -/
def Call.isPlain : Call → Bool
  | .begin | .takeEvents | .cellEnded _ => false
  | _ => true

theorem Call.isPlain_of_isBinding {c : Call} (h : c.isBinding = true) : c.isPlain = true := by
  cases c with
  | begin => cases h
  | takeEvents => cases h
  | cellEnded index => cases h
  | _ => rfl

/-- Such a call tells nothing in a run that is over. -/
theorem Closed.events_perform {h : Host} (hc : h.Closed) {c : Call} (hplain : c.isPlain = true) :
    (h.perform c).events = h.events := by
  have hf := hc.finished
  cases c with
  | begin => cases hplain
  | takeEvents => cases hplain
  | cellEnded index => cases hplain
  | enterCell index => rw [perform, hc.enterCell]
  | leaveCell scope =>
      simp only [perform, leaveCell]
      split <;> rfl
  | schedule now id delay repeats => rw [perform, schedule, if_pos hf]
  | write channel text => rw [perform, hc.write]; rfl
  | display json kind => rw [perform, display, if_pos hf]
  | captureLocals json =>
      simp only [perform, captureLocals]
      split <;> rfl
  | report cell? e => rw [perform, report_of_finished hf]
  | fail cell? message stack => rw [perform, fail_of_finished hf]
  | finish => rw [perform, finish_of_finished hf]
  | _ => rfl

/-- What has been told of a run and what waits to be told: before the run is over, not that it is; then
once, and afterwards at most that cells have ended. -/
structure Chronicle (told late : List Event) (h : Host) : Prop where
  held : h.finished = false → h.streams.captured = h.holdsStreams
  closed : h.finished = true → h.Closed
  before : h.finished = false → late = [] ∧ ∀ e ∈ told ++ h.events, e.isCompleted = false
  after : h.finished = true → ∃ before, told ++ h.events = before ++ .completed :: late ∧
    ∀ e ∈ before, e.isCompleted = false
  ended : ∀ e ∈ late, e.isEnded = true

namespace Chronicle

variable {told late : List Event} {h : Host}

/-- A run that is not over. -/
theorem of_open (hf : h.finished = false) (hheld : h.streams.captured = h.holdsStreams)
    (hbefore : ∀ e ∈ told ++ h.events, e.isCompleted = false) : Chronicle told [] h where
  held _ := hheld
  closed hover := absurd (hf.symm.trans hover) Bool.false_ne_true
  before _ := ⟨rfl, hbefore⟩
  after hover := absurd (hf.symm.trans hover) Bool.false_ne_true
  ended := nofun

/-- A run that is over. -/
theorem of_closed (hclosed : h.Closed) {before : List Event}
    (htold : told ++ h.events = before ++ .completed :: late)
    (hbefore : ∀ e ∈ before, e.isCompleted = false) (hended : ∀ e ∈ late, e.isEnded = true) :
    Chronicle told late h where
  held hopen := absurd (hopen.symm.trans hclosed.finished) Bool.false_ne_true
  closed _ := hclosed
  before hopen := absurd (hopen.symm.trans hclosed.finished) Bool.false_ne_true
  after _ := ⟨before, htold, hbefore⟩
  ended := hended

/-- More that is told before the run is over keeps what was told in order. -/
theorem not_completed_append (hc : Chronicle told late h) (hf : h.finished = false) {news : List Event}
    (hnews : ∀ e ∈ news, e.isCompleted = false) :
    ∀ e ∈ told ++ h.events ++ news, e.isCompleted = false := by
  intro e he
  rcases List.mem_append.1 he with he | he
  · exact (hc.before hf).2 e he
  · exact hnews e he

/-- The run is over from now on, after some more was told. -/
theorem finish (hc : Chronicle told late h) (hf : h.finished = false) {h' : Host}
    (hholds : h'.holdsStreams = h.holdsStreams) (hcaptured : h'.streams.captured = h.streams.captured)
    (hf' : h'.finished = false) {news : List Event} (hevents : h'.events = h.events ++ news)
    (hnews : ∀ e ∈ news, e.isCompleted = false) : Chronicle told late h'.finish := by
  obtain ⟨rfl, -⟩ := hc.before hf
  have hclosed : h'.finish.Closed := by
    have hsame : h'.streams.captured = h'.holdsStreams := by rw [hcaptured, hholds, hc.held hf]
    rw [finish_of_unfinished hf']
    refine ⟨rfl, rfl, rfl, ?_⟩
    -- The streams are released if they were held, and otherwise nobody has captured them.
    cases hheld : h'.holdsStreams with
    | true => rfl
    | false => exact hsame.trans hheld
  refine of_closed hclosed ?_ (hc.not_completed_append hf hnews) hc.ended
  rw [events_finish hf', hevents]
  simp

/-- Whatever else is told before the run is over. -/
theorem tells (hc : Chronicle told late h) (hf : h.finished = false) {h' : Host}
    (hf' : h'.finished = h.finished) (hholds : h'.holdsStreams = h.holdsStreams)
    (hcaptured : h'.streams.captured = h.streams.captured) {news : List Event}
    (hevents : h'.events = h.events ++ news) (hnews : ∀ e ∈ news, e.isCompleted = false) :
    Chronicle told late h' := by
  obtain ⟨rfl, -⟩ := hc.before hf
  refine of_open (hf'.trans hf) (by rw [hcaptured, hholds, hc.held hf]) ?_
  rw [hevents, ← List.append_assoc]
  exact hc.not_completed_append hf hnews

/-- **A call of the program or its driver.** -/
theorem perform (hc : Chronicle told late h) {c : Call} (hplain : c.isPlain = true) :
    Chronicle told late (h.perform c) := by
  cases hf : h.finished with
  | true =>
      have hbegins : (Order.call c).begins = false := by
        cases c with
        | begin => cases hplain
        | _ => rfl
      have hclosed : (h.perform c).Closed := (closed_obey (hc.closed hf) hbegins).1
      have hevents := (hc.closed hf).events_perform hplain
      obtain ⟨before, htold, hbefore⟩ := hc.after hf
      exact of_closed hclosed (by rw [hevents, htold]) hbefore hc.ended
  | false =>
      have hother : ∀ c : Call, (Order.call c).begins = false → (Order.call c).ends = false →
          (Order.call c).reports = false → (Order.call c).takes = false →
          Chronicle told late (h.perform c) := by
        intro c hbegins hends hreports htakes
        obtain ⟨news, ht, hnews⟩ := h.tells_obey hbegins hends hreports htakes
        exact hc.tells hf ht.finished ht.holds ht.captured ht.events hnews
      cases c with
      | begin => cases hplain
      | takeEvents => cases hplain
      | report cell? e =>
          obtain ⟨cell, text, hreport⟩ := report_of_unfinished hf cell? e
          rw [Host.perform, hreport]
          have hnews : ∀ e ∈ [Event.error cell text], e.isCompleted = false :=
            List.forall_mem_singleton.2 rfl
          exact hc.tells hf rfl rfl rfl rfl hnews
      | fail cell? message stack =>
          obtain ⟨cell, text, hreport⟩ := report_of_unfinished hf cell?
            ⟨CellPlaces.nonempty (some message), none, CellPlaces.nonempty (some stack)⟩
          rw [Host.perform, Host.fail, hreport]
          have hnews : ∀ e ∈ [Event.error cell text], e.isCompleted = false :=
            List.forall_mem_singleton.2 rfl
          exact hc.finish hf rfl rfl hf rfl hnews
      | finish => exact hc.finish hf rfl rfl hf (List.append_nil _).symm (List.forall_mem_nil _)
      | _ => exact hother _ rfl rfl rfl rfl

/-- A list of such calls. -/
theorem performAll (hc : Chronicle told late h) {calls : List Call}
    (hplain : ∀ c ∈ calls, c.isPlain = true) : Chronicle told late (h.after calls) := by
  induction calls generalizing h with
  | nil => exact hc
  | cons c calls ih =>
      rw [List.forall_mem_cons] at hplain
      exact ih (hc.perform hplain.1) hplain.2

/-- The run begins, and nobody holds the streams yet. -/
theorem begin (hc : Chronicle told late h) (hf : h.finished = false) (hfree : h.holdsStreams = false) :
    Chronicle told late h.begin := by
  have hstreams : h.begin.streams = h.streams.acquire := by
    rw [Host.begin, hfree]
    rfl
  obtain ⟨rfl, hbefore⟩ := hc.before hf
  refine of_open hf ?_ hbefore
  rw [hstreams]
  rfl

/-- What waits is told. -/
theorem handOut (hc : Chronicle told late h) :
    Chronicle (told ++ h.events) late { h.takeEvents.2 with streams := h.streams.take.2 } where
  held := hc.held
  closed hover :=
    have hclosed := hc.closed hover
    ⟨hclosed.finished, hclosed.scheduler, hclosed.tracking, hclosed.captured⟩
  before hf := by
    obtain ⟨hlate, hbefore⟩ := hc.before hf
    exact ⟨hlate, (List.append_nil (told ++ h.events)).symm ▸ hbefore⟩
  after hover := by
    obtain ⟨before, htold, hbefore⟩ := hc.after hover
    exact ⟨before, (List.append_nil (told ++ h.events)).trans htold, hbefore⟩
  ended := hc.ended

/-- A cell has ended: this is told late if the run is over. -/
theorem cellEnded (hc : Chronicle told late h) {index : Nat} (hindex : index < h.cells.length) :
    Chronicle told (late ++ if h.finished then [.ended h.cells[index]] else []) (h.cellEnded index) := by
  have hended : h.cellEnded index = h.tell (.ended h.cells[index]) := by
    rw [Host.cellEnded, List.getElem?_eq_getElem hindex]
  rw [hended]
  cases hf : h.finished with
  | false =>
      rw [if_neg Bool.false_ne_true, List.append_nil]
      have hnews : ∀ e ∈ [Event.ended h.cells[index]], e.isCompleted = false :=
        List.forall_mem_singleton.2 rfl
      exact hc.tells hf rfl rfl rfl rfl hnews
  | true =>
      rw [if_pos rfl]
      obtain ⟨before, htold, hbefore⟩ := hc.after hf
      have hclosed := hc.closed hf
      refine of_closed ⟨hf, hclosed.scheduler, hclosed.tracking, hclosed.captured⟩ ?_ hbefore ?_
      · rw [tell, ← List.append_assoc, htold, List.append_assoc, List.cons_append]
      · intro e he
        rcases List.mem_append.1 he with he | he
        · exact hc.ended e he
        · rw [List.mem_singleton.1 he]
          rfl

end Chronicle

end Host

namespace Actor

/-! ### The script of a run -/

/-- What has been told of a run so far and what waits to be told: something may be told after its end
only if capturing the variables of a cell has ended it. -/
def Told (x : Session Actor) : Prop :=
  ∃ late, Host.Chronicle x.told late x.state.host ∧ (late = [] ↔ x.state.endedByCapture = false)

namespace Told

variable {x y : Session Actor}

/-- Calls of the program or its driver. -/
theorem calls (hx : Told x) (calls : List Host.Call) (htold : y.told = x.told)
    (hended : y.state.endedByCapture = x.state.endedByCapture)
    (hplain : ∀ c ∈ calls, c.isPlain = true) (hhost : y.state.host = x.state.host.after calls) :
    Told y := by
  obtain ⟨late, hc, hlate⟩ := hx
  refine ⟨late, ?_, by rw [hended]; exact hlate⟩
  rw [htold, hhost]
  exact hc.performAll hplain

theorem tell (hx : Told x) {f : Host → Host} {c : Host.Call} (hplain : c.isPlain = true)
    (hf : f x.state.host = x.state.host.perform c) : Told (x.tell guest f) :=
  hx.calls [c] rfl rfl (List.forall_mem_singleton.2 hplain) hf

theorem warn (hx : Told x) (text : String) : Told (x.tellOwner guest [.warning text]) := by
  refine hx.calls [] ?_ rfl (by simp) rfl
  rw [Session.told_tellOwner]
  exact List.append_nil _

theorem flush (hx : Told x) : Told (x.flush guest) := by
  obtain ⟨late, hc, hlate⟩ := hx
  refine ⟨late, ?_, hlate⟩
  have htold : (x.flush guest).told = x.told ++ x.state.host.events := by
    rw [Session.flush, Session.told_tellOwner]
    simp only [List.filterMap_append, Session.filterMap_passedNotices, Session.filterMap_eventNotices,
      List.nil_append]
    rfl
  rw [htold]
  exact hc.handOut

/-! #### The program -/

theorem isPlain_of_mem_filter (calls : List Host.Call) :
    ∀ c ∈ calls.filter Host.Call.isBinding, c.isPlain = true := by
  intro c hc
  exact Host.Call.isPlain_of_isBinding (List.mem_filter.1 hc).2

theorem actOrFail (hx : Told x) : Told (x.change Actor.actOrFail) := by
  obtain ⟨⟨host, clock, files, script, rejected, stuck?, ended⟩, notices⟩ := x
  cases script with
  | nil => exact hx
  | cons t? script =>
      cases t? with
      | none => exact hx.calls [] rfl rfl (by simp) rfl
      | some t =>
          obtain ⟨calls, nanoseconds, fault?, failure?, rejected'⟩ := t
          cases fault? with
          | some fault => exact hx.calls _ rfl rfl (isPlain_of_mem_filter calls) rfl
          | none =>
              cases failure? with
              | none => exact hx.calls _ rfl rfl (isPlain_of_mem_filter calls) rfl
              | some failure =>
                  have hplain : ∀ c ∈ calls.filter Host.Call.isBinding ++
                      [.fail none failure.1 failure.2], c.isPlain = true := by
                    intro c hc
                    rcases List.mem_append.1 hc with hc | hc
                    · exact isPlain_of_mem_filter calls c hc
                    · rw [List.mem_singleton.1 hc]
                      rfl
                  refine hx.calls _ rfl rfl hplain ?_
                  rw [Host.after_append]
                  rfl

theorem launch (hx : Told x) (unreadable? : Option RawError) :
    Told (x.change (Actor.launch unreadable?)) := by
  cases unreadable? with
  | none => exact hx.actOrFail
  | some e => exact hx.calls [.report none e, .finish] rfl rfl (by simp [Host.Call.isPlain]) rfl

/-- A job is a turn of the script. -/
theorem job (hx : Told x) : Told ⟨(Actor.job x.state).2, x.notices⟩ := by
  obtain ⟨⟨host, clock, files, script, rejected, stuck?, ended⟩, notices⟩ := x
  cases script with
  | nil => exact hx
  | cons t? script =>
      cases t? with
      | none => exact hx.calls [] rfl rfl (by simp) rfl
      | some t => exact hx.calls _ rfl rfl (isPlain_of_mem_filter t.calls) rfl

theorem settle (hx : Told x) : Told (x.settle guest) :=
  Session.Settled.settle ⟨job, fun text hy => hy.warn text,
    fun message stack hy => hy.tell (c := .fail none message stack) rfl rfl,
    fun hy => hy.calls [] rfl rfl (by simp) rfl⟩ hx

/-! #### Cells that have drained -/

/-- Capturing the variables of a cell is a turn of the script, and whether it has ended the run is kept. -/
theorem capture_calls {a : Actor} (hgo : a.fault? = none) : ∃ calls : List Host.Call,
    (∀ c ∈ calls, c.isPlain = true) ∧ a.capture.host = a.host.after calls ∧
    a.capture.endedByCapture =
      (a.endedByCapture || (a.capture.fault?.isNone && !a.host.finished && a.capture.host.finished)) := by
  obtain ⟨host, clock, files, script, rejected, stuck?, ended⟩ := a
  cases hgo
  have hidle : ended = (ended || (true && !host.finished && host.finished)) := by
    rw [Bool.true_and, Bool.not_and_self, Bool.or_false]
  cases script with
  | nil => exact ⟨[], by simp, rfl, hidle⟩
  | cons t? script =>
      cases t? with
      | none => exact ⟨[], by simp, rfl, hidle⟩
      | some t =>
          obtain ⟨calls, nanoseconds, fault?, failure?, rejected'⟩ := t
          cases fault? with
          | some fault => exact ⟨_, isPlain_of_mem_filter calls, rfl, (Bool.or_false ended).symm⟩
          | none => exact ⟨_, isPlain_of_mem_filter calls, rfl, rfl⟩

/-- While the cells that have drained are ended, the run ends only by capturing variables. -/
structure Ending (cells : Nat) (x : Session Actor) : Prop where
  told : Told x
  cells : x.state.host.cells.length = cells
  ended : x.state.fault? = none → x.state.host.finished = true → x.state.endedByCapture = true

/-- One cell that has drained: its variables are captured, and then it is told that it has ended. -/
theorem endCell {cells index : Nat} (he : Ending cells x) (hindex : index < cells) :
    Ending cells (x.endCell guest index) := by
  cases hgo : x.state.fault? with
  | some fault =>
      have hsame : x.endCell guest index = x := by
        rw [Session.endCell, if_pos]
        exact congrArg Option.isSome hgo
      rw [hsame]
      exact he
  | none =>
      obtain ⟨⟨late, hc, hlate⟩, hcells, hended⟩ := he
      obtain ⟨calls, hplain, hhost, hcaptured⟩ := capture_calls hgo
      have hperformed : Host.Chronicle x.told late x.state.capture.host := hhost ▸ hc.performAll hplain
      have hlength : x.state.capture.host.cells.length = cells := by
        rw [hhost, Host.cells_after, hcells]
      have hstep : x.endCell guest index =
          if x.state.capture.fault?.isSome then x.change Actor.capture
          else (x.change Actor.capture).tell guest fun h => h.cellEnded index := by
        rw [Session.endCell, if_neg]
        · rfl
        · rw [Session.isStuck]
          change ¬ x.state.fault?.isSome = true
          rw [hgo]
          exact Bool.false_ne_true
      rw [hstep]
      cases hbroken : x.state.capture.fault? with
      | some fault =>
          -- The program cannot be driven on, and nothing is told of this cell.
          rw [hbroken, Option.isNone_some, Bool.false_and, Bool.false_and, Bool.or_false] at hcaptured
          refine ⟨⟨late, hperformed, ?_⟩, hlength, ?_⟩
          · change _ ↔ x.state.capture.endedByCapture = false
            rw [hcaptured]
            exact hlate
          · intro hnone
            cases hbroken.symm.trans hnone
      | none =>
          rw [hbroken, Option.isNone_none, Bool.true_and] at hcaptured
          have hkept := (Host.sameWork_perform x.state.capture.host (c := .cellEnded index) rfl).finished
          have htold := hperformed.cellEnded (hlength.symm ▸ hindex)
          refine ⟨⟨_, htold, ?_⟩, ?_, ?_⟩
          · -- Told late or not, depending on whether the run is over after the variables were captured.
            change _ ↔ x.state.capture.endedByCapture = false
            cases hf : x.state.capture.host.finished with
            | false => simpa [hcaptured, hf] using hlate
            | true =>
                cases hbefore : x.state.host.finished with
                | false => simp [hcaptured, hf, hbefore]
                | true => simp [hcaptured, hended hgo hbefore]
          · exact (congrArg List.length (Host.cells_perform _ (.cellEnded index))).trans hlength
          · intro _ hover
            change x.state.capture.endedByCapture = true
            have hover' : x.state.capture.host.finished = true := hkept.symm.trans hover
            cases hbefore : x.state.host.finished with
            | false => rw [hcaptured, hover', hbefore, Bool.not_false, Bool.and_self, Bool.or_true]
            | true => rw [hcaptured, hended hgo hbefore, Bool.true_or]

/-- **The cells that have drained, in a run that is not over.** -/
theorem endCells (hx : Told x) (hf : x.state.host.finished = false) : Told (x.endCells guest) := by
  have hpolled : Ending x.state.host.cells.length (x.tell guest fun h => h.pollDrained.2) :=
    ⟨hx.tell (c := .pollDrained) rfl rfl, rfl,
      fun _ hover => absurd (hf.symm.trans hover) Bool.false_ne_true⟩
  refine Session.endCells_keeps (P := Ending x.state.host.cells.length) hpolled ?_
    (fun y hy => hy.told) fun y hy => ?_
  · intro i hi y hy
    exact endCell hy (List.mem_range.1 (List.mem_filter.1 hi).1)
  · refine hy.told.calls (if y.state.host.isDone then [.finish] else []) rfl rfl ?_ ?_
    · intro c hc
      split at hc
      · rw [List.mem_singleton.1 hc]
        rfl
      · cases hc
    · change (if y.state.host.isDone then y.state.host.finish else y.state.host) = _
      split <;> rfl

/-! #### Rounds -/

/-- A task runs under its operation, which ends unless the task is scheduled again. -/
theorem runTask (hx : Told x) (task : ReadyTask) : Told (x.runTask guest task) := by
  have hrun : Told ((x.tell guest fun h => h.setCurrent task.id).change (guest.task task.id)) :=
    (hx.tell (c := .setCurrent task.id) rfl rfl).actOrFail
  rw [Session.runTask]
  generalize (x.tell guest fun h => h.setCurrent task.id).change (guest.task task.id) = z at hrun ⊢
  split
  · exact hrun
  · have hsettled := hrun.settle
    dsimp only
    generalize z.settle guest = y at hsettled ⊢
    cases hrepeats : task.repeats with
    | false =>
        exact hsettled.calls [.endOperation task.id, .setCurrent rootOperation] rfl rfl
          (by simp [Host.Call.isPlain]) rfl
    | true =>
        cases hagain : (y.state.host.scheduler.reschedule (guest.clock y.state) task.id).2 with
        | true =>
            refine hsettled.calls
              [.reschedule (guest.clock y.state) task.id, .setCurrent rootOperation] rfl rfl
              (by simp [Host.Call.isPlain]) ?_
            simp only [Session.tell, Session.ask, guest, if_true] at hagain ⊢
            simp only [hagain, if_true]
            rfl
        | false =>
            refine hsettled.calls [.reschedule (guest.clock y.state) task.id, .endOperation task.id,
              .setCurrent rootOperation] rfl rfl (by simp [Host.Call.isPlain]) ?_
            simp only [Session.tell, Session.ask, guest, if_true] at hagain ⊢
            simp only [hagain]
            rfl

theorem stall (hx : Told x) : Told (x.stall guest) :=
  Told.tell (c := .finish) (hx.warn _) rfl rfl

theorem next (hx : Told x) : Told (x.next guest) :=
  Session.next_keeps (P := Told)
    (hx.calls [.popReady (guest.clock x.state)] rfl rfl (by simp [Host.Call.isPlain]) rfl)
    (fun _ task hy => hy.runTask task) (fun _ hy => hy)
    (fun _ _ hy => hy.calls [] rfl rfl (by simp) rfl) fun _ hy => hy.stall

/-- **A round of the driver.** -/
theorem round : Session.Round guest Told Told where
  settle := settle
  flush := flush
  look := id
  endCells := endCells
  next := next
  last := id
  again hx _ := hx

/-- **All rounds.** -/
theorem rounds (hx : Told x) (n : Nat) : Told (x.rounds guest n) := round.rounds n hx

end Told

end Actor

/-! ### From the first report to the last event -/

namespace Host

/-- A host whose run has not begun: nobody holds the streams, and no end was told. -/
structure Waiting (h : Host) : Prop where
  finished : h.finished = false
  free : h.holdsStreams = false
  captured : h.streams.captured = false
  events : ∀ e ∈ h.events, e.isCompleted = false

theorem waiting_new (settings : Settings) (file : String) : Waiting (new settings file) :=
  ⟨rfl, rfl, rfl, nofun⟩

namespace Waiting

variable {h : Host}

/-- What is reported before the run begins does not begin or end it. -/
theorem report (hw : Waiting h) (cell? : Option String) (e : RawError) : Waiting (h.report cell? e) := by
  obtain ⟨cell, text, hreport⟩ := report_of_unfinished hw.finished cell? e
  rw [hreport]
  refine ⟨hw.finished, hw.free, hw.captured, ?_⟩
  intro e he
  rcases List.mem_append.1 he with he | he
  · exact hw.events e he
  · rw [List.mem_singleton.1 he]
    rfl

/-- Installing packages only reports. -/
theorem install (hw : Waiting h) (e : Evaluation) (cells : List Cell) (files : FileTree) :
    Waiting (e.install cells files h).2 := by
  unfold Evaluation.install
  induction cells generalizing files h with
  | nil => exact hw
  | cons c cells ih =>
      rw [List.foldl_cons]
      dsimp only
      cases e.installer files e.project c.source with
      | ok files' => exact ih hw files'
      | error failure => exact ih (hw.report _ _) files

/-- So do the messages of the compiler. -/
theorem reportDiagnostics (hw : Waiting h) (ds : List Diagnostic) :
    Waiting (Evaluation.reportDiagnostics ds h) := by
  unfold Evaluation.reportDiagnostics
  induction ds generalizing h with
  | nil => exact hw
  | cons d ds ih => exact ih (hw.report _ _)

theorem prepare (e : Evaluation) (cells : List Cell) (files : FileTree) :
    Waiting (e.prepare cells files).2.1 := by
  have hnamed : Waiting ((new e.settings e.fileName).setCells (cells.map Cell.id)) := by
    obtain ⟨hfinished, hfree, hcaptured, hevents⟩ := waiting_new e.settings e.fileName
    exact ⟨hfinished, hfree, hcaptured, hevents⟩
  obtain ⟨hfinished, hfree, hcaptured, hevents⟩ := hnamed.install e cells files
  have hmapped : ∀ generated? compiled? : Option SourceMap, Waiting ((e.install cells files
      ((new e.settings e.fileName).setCells (cells.map Cell.id))).2.setMaps generated? compiled?) :=
    fun _ _ => ⟨hfinished, hfree, hcaptured, hevents⟩
  exact (hmapped _ _).reportDiagnostics _

/-- Nothing was told yet. -/
theorem chronicle (hw : Waiting h) : Chronicle [] [] h :=
  .of_open hw.finished (hw.captured.trans hw.free.symm) hw.events

end Waiting

end Host

namespace Actor

variable (e : Evaluation) (cells : List Cell) (files : FileTree) (unreadable? : Option RawError)
  (script : List (Option Turn))

/-- A session, from what was prepared on. -/
theorem session_of_prepare {files' : FileTree} {h : Host} {g : Program.Generated} {text? : Option String}
    (hprepared : e.prepare cells files = (files', h, g)) (htext : g.text? = text?) :
    e.session (runner unreadable? script) cells files =
      ((match text? with
      | none => Session.flush guest ⟨(runner unreadable? script).start h files', #[]⟩
      | some _ =>
        let y := ((Session.flush guest ⟨(runner unreadable? script).start h files', #[]⟩).tell guest
          Host.begin).change (launch unreadable?)
        if y.isStuck guest then y else y.drive guest).tell guest Host.finish).flush guest := by
  subst htext
  rw [Evaluation.session, hprepared]
  rfl

/-- The whole run, from its first report on, until it has been finished and everything was handed out. -/
theorem told_session :
    let x := e.session (runner unreadable? script) cells files
    Told x ∧ x.state.host.finished = true ∧ x.state.host.events = [] := by
  intro x
  have hwaiting := Host.Waiting.prepare e cells files
  generalize hprepared : e.prepare cells files = prepared at hwaiting
  obtain ⟨files', h, g⟩ := prepared
  have hstart : Told ⟨(runner unreadable? script).start h files', #[]⟩ :=
    ⟨[], hwaiting.chronicle, by simp [runner]⟩
  have hbegun : Told ((Session.flush guest ⟨(runner unreadable? script).start h files', #[]⟩).tell guest
      Host.begin) := by
    obtain ⟨late, hc, hlate⟩ := hstart.flush
    exact ⟨late, hc.begin hwaiting.finished hwaiting.free, hlate⟩
  -- Whether the program was compiled and run or not, the run is finished afterwards.
  have hfinish : ∀ y : Session Actor, Told y → let x := (y.tell guest Host.finish).flush guest
      Told x ∧ x.state.host.finished = true ∧ x.state.host.events = [] := by
    intro y hy
    exact ⟨(hy.tell (c := .finish) rfl rfl).flush, y.state.host.finished_finish, rfl⟩
  cases htext : g.text? with
  | none =>
      have hx : x = _ := session_of_prepare e cells files unreadable? script hprepared htext
      rw [hx]
      exact hfinish _ hstart.flush
  | some text =>
      have hx : x = _ := session_of_prepare e cells files unreadable? script hprepared htext
      rw [hx]
      refine hfinish _ ?_
      dsimp only
      split
      · exact hbegun.launch _
      · exact (hbegun.launch _).rounds _

/-- **The end of a run is told once.**  Whatever the program does each time it is given control, and
whatever cannot be installed, compiled, read or driven on, an evaluation in a project directory tells once
that it is over.  After that it tells at most that cells have ended, and nothing at all unless capturing
the variables of a cell has ended the run. -/
theorem completed_once (hproject : files.isDirectory e.project = true) :
    ∃ before after,
      (e.reportWith (runner unreadable? script) cells files).events = before ++ .completed :: after ∧
      (∀ event ∈ before, event.isCompleted = false) ∧ (∀ event ∈ after, event.isEnded = true) ∧
      (after = [] ↔ (e.session (runner unreadable? script) (cells.filter Cell.isCode)
        files).state.endedByCapture = false) := by
  obtain ⟨⟨late, hc, hlate⟩, hover, hnone⟩ :=
    told_session e (cells.filter Cell.isCode) files unreadable? script
  obtain ⟨before, htold, hbefore⟩ := hc.after hover
  rw [hnone, List.append_nil] at htold
  have hreport : e.reportWith (runner unreadable? script) cells files = Evaluation.reportOf
      (runner unreadable? script) (e.session (runner unreadable? script) (cells.filter Cell.isCode)
        files) := by
    rw [Evaluation.reportWith, hproject]
    rfl
  refine ⟨before, late, ?_, hbefore, hc.ended, hlate⟩
  rw [hreport, Evaluation.events_reportOf, htold]

/-- A program of one cell: the cell is entered and left, there is no job, and capturing the variables of
the cell fails the run. -/
def failingCapture : List (Option Turn) :=
  [some ⟨[.enterCell 0, .leaveCell 2, .endText], 0, none, none, []⟩, none,
    some ⟨[.fail none "Error: late" ""], 0, none, none, []⟩]

/-- An evaluation that installs nothing and compiles everything to the empty program. -/
def plainEvaluation : Evaluation :=
  ⟨.default, fun _ _ => ⟨some "", none, []⟩, .none, "notebook", "."⟩

/-- What is told when capturing variables ends the run. -/
def lateReport : Evaluation.Report :=
  plainEvaluation.reportWith (runner none failingCapture) [⟨some "cell", .code, some ""⟩] .empty

/-- The end of that run is told, but something is told after it. -/
theorem completed_not_last : FileTree.empty.isDirectory plainEvaluation.project = true ∧
    (∃ event ∈ lateReport.events, event.isCompleted = true) ∧
      ∀ before, lateReport.events ≠ before ++ [.completed] := by
  have hproject : FileTree.empty.isDirectory plainEvaluation.project = true := by decide +kernel
  obtain ⟨before, after, hevents, hbefore, hafter, hlate⟩ :=
    completed_once plainEvaluation [⟨some "cell", .code, some ""⟩] .empty none failingCapture hproject
  have hended : (plainEvaluation.session (runner none failingCapture)
      ([⟨some "cell", .code, some ""⟩].filter Cell.isCode) .empty).state.endedByCapture = true := by
    rfl
  rw [lateReport]
  refine ⟨hproject, ⟨.completed, by simp [hevents], rfl⟩, ?_⟩
  intro before' hlast
  have hsome : after ≠ [] := by simp [hlate, hended]
  have hcompleted : after.getLast hsome = .completed := by
    have hsame := congrArg List.getLast? (hevents.symm.trans hlast)
    simpa [List.getLast?_append, List.getLast?_cons, List.getLast?_eq_some_getLast hsome] using hsame
  have hnot := hafter _ (List.getLast_mem hsome)
  rw [hcompleted] at hnot
  cases hnot

end Actor

end NotebookEngine
