/-
**Timers, tasks and operations stay in step.**

The driver runs one task after another, and in between it lets jobs run, hands out events and ends
cells.  Whatever the program does meanwhile, after each of these steps the functions that wait are those
whose tasks are registered, and the operations in flight are those of them and of the values that have
not settled.  There are two exceptions, and no others: a timer that was cleared while its own delay was
being converted is registered without a function, and a value that could not be subscribed to stays in
flight.

Main results:

* `Desk.Keeps.runTask`, `Desk.Keeps.next` — running a task keeps a desk sound;
* `Desk.keeps_steps` — so does every list of steps of the driver;
* `Desk.agreement_between_tasks` — when exactly both sides agree, and what holds in any case.
-/

import NotebookEngine.Proofs.Run.Requests

set_option autoImplicit false

namespace NotebookEngine

namespace Desk

/-! ### Sessions -/

section Sessions

variable (x : Session Desk)

@[simp] theorem state_tell (f : Host → Host) :
    (x.tell guest f).state = { x.state with host := f x.state.host } := rfl

theorem ask_popReady (now : Nat) :
    (x.ask guest fun h =>
        let (scheduler, ready?) := h.scheduler.popReady now
        (ready?, { h with scheduler })) =
      ((x.state.host.scheduler.popReady now).2,
        { x with state := { x.state with host := { x.state.host with
          scheduler := (x.state.host.scheduler.popReady now).1 } } }) := rfl

theorem ask_deadline :
    (x.ask guest fun h => ((h.scheduler.nextDeadline, h.settings.maxStall?), h)) =
      ((x.state.host.scheduler.nextDeadline, x.state.host.settings.maxStall?), x) := rfl

theorem job_guest (d : Desk) : guest.job d = ((d.goOn.1, none), d.goOn.2) := rfl

theorem state_settle : (x.settle guest).state = (x.runJobs guest Session.roundLimit).state := by
  unfold Session.settle
  cases x.runJobs guest Session.roundLimit with
  | mk state notices => rfl

end Sessions

@[simp] theorem clock_guest (d : Desk) : guest.clock d = d.clock := rfl

/-- No operation is being worked on. -/
def rest : Nat → Phase := fun _ => .resting

/-! ### Jobs, events and cells -/

namespace Keeps

variable {d : Desk} {phase : Nat → Phase}

/-- Another host with the same work will do as well. -/
theorem work (h : d.Keeps phase) {host : Host} (hwork : Host.SameWork d.host host) :
    Keeps { d with host } phase := by
  rcases h with h | ⟨a, h⟩
  · exact Or.inl (hwork.finished.trans h)
  · exact Or.inr ⟨a, h.work hwork⟩

theorem goOn (h : d.Keeps phase) : d.goOn.2.Keeps phase := by
  have hscript : ∀ script, Keeps { d with script } phase := by
    intro script
    rcases h with h | ⟨a, h⟩
    · exact Or.inl h
    · exact Or.inr ⟨a, h.passing d.clock script⟩
  unfold Desk.goOn
  cases d.script with
  | nil => exact h
  | cons p? script =>
      cases p? with
      | none => exact hscript script
      | some p => exact (hscript script).run p

theorem runJobs (fuel : Nat) {x : Session Desk} (h : x.state.Keeps phase) :
    (x.runJobs guest fuel).state.Keeps phase := by
  induction fuel generalizing x with
  | zero => exact h
  | succ fuel ih =>
      obtain ⟨d, notices⟩ := x
      rw [Session.runJobs, job_guest]
      cases d.goOn.1 with
      | false => exact h.goOn
      | true => exact ih h.goOn

theorem settle {x : Session Desk} (h : x.state.Keeps phase) :
    (x.settle guest).state.Keeps phase := by
  rw [state_settle]
  exact h.runJobs _

theorem flush {x : Session Desk} (h : x.state.Keeps phase) : (x.flush guest).state.Keeps phase :=
  h.work ⟨rfl, rfl, rfl, rfl⟩

theorem endCells {x : Session Desk} (h : x.state.Keeps phase) :
    (x.endCells guest).state.Keeps phase := by
  unfold Session.endCells
  have hpolled : (x.ask guest Host.pollDrained).2.state.Keeps phase :=
    h.work (x.state.host.sameWork_perform (c := .pollDrained) rfl)
  have hended : ∀ (newly : List Nat) (y : Session Desk), y.state.Keeps phase →
      (newly.foldl (fun y i => y.endCell guest i) y).state.Keeps phase := by
    intro newly
    induction newly with
    | nil => exact fun y hy => hy
    | cons i newly ih =>
        intro y hy
        refine ih _ ?_
        exact hy.goOn.work (Host.sameWork_perform _ (c := .cellEnded i) rfl)
  have hall := hended (x.ask guest Host.pollDrained).1 _ hpolled
  dsimp only
  rw [isStuck_guest, if_neg Bool.false_ne_true, state_tell]
  split
  · exact Or.inl (Host.finished_finish _)
  · exact hall

theorem stall {x : Session Desk} (_ : x.state.Keeps phase) :
    (x.stall guest).state.Keeps phase := Or.inl (Host.finished_finish _)

end Keeps

/-! ### Tasks -/

/-- What the driver does with the host when a task has run. -/
def closeTask (task : ReadyTask) (now : Nat) (h : Host) : Host :=
  let (scheduler, again) :=
    if task.repeats then h.scheduler.reschedule now task.id else (h.scheduler, false)
  let h := { h with scheduler }
  (if again then h else h.endOperation task.id).setCurrent rootOperation

theorem runTask_eq (task : ReadyTask) (x : Session Desk) :
    x.runTask guest task =
      let y := ((x.tell guest fun h => h.setCurrent task.id).change (guest.task task.id)).settle guest
      y.tell guest (closeTask task (guest.clock y.state)) := rfl

namespace Sound

variable {d : Desk} {a : Agenda} {id : Nat} {repeats : Bool}

/-- The task that runs next is taken from the scheduler. -/
theorem pop (h : d.Sound a rest) {now : Nat} {e : Agenda.Entry}
    (hready : a.ready? now = some (id, e)) :
    Sound { d with host := { d.host with scheduler := (d.host.scheduler.popReady now).1 } }
      (a.run id e) (Function.update rest id (if e.repeats then .turning else .popped)) := by
  have he : a.entries.get? id = some e :=
    ((Agenda.ready?_eq_some_iff h.refines.valid now id e).1 hready).1
  have hrefines : Scheduler.Refines (d.host.scheduler.popReady now).1 (a.run id e) := by
    have := (h.refines.popReady now).2
    rwa [Agenda.popReady, hready] at this
  have hid : id < d.host.nextOperation :=
    h.lt_of_holds (fun v => v.task?.isSome) rfl (by simp [standing, he])
  have hrun : ∀ other, (a.run id e).entries.get? other =
      if id = other then (if e.repeats then some { e with armed := false } else none)
      else a.entries.get? other := by
    intro other
    unfold Agenda.run
    cases e.repeats with
    | true => exact Table.get?_put _ _ _ _
    | false => exact Table.get?_erase _ _ _
  refine h.change id hrefines h.exact h.tracking h.unfinished (Nat.le_refl _) hid ?_ ?_
  · intro other hother
    refine ⟨?_, Function.update_of_ne (Ne.symm hother) _ _⟩
    simp only [standing, hrun, if_neg hother]
  · have hstanding : Desk.standing
        { d with host := { d.host with scheduler := (d.host.scheduler.popReady now).1 } }
        (a.run id e) id = (d.standing a id).popped e := by
      simp only [standing, hrun, if_pos, Standing.popped]
    rw [hstanding, Function.update_self]
    exact (h.fits id).pop he

/-- Nothing is due: only places that were left behind are thrown away. -/
theorem idle (h : d.Sound a rest) {now : Nat} (hready : a.ready? now = none) :
    Sound { d with host := { d.host with scheduler := (d.host.scheduler.popReady now).1 } } a rest := by
  have hrefines : Scheduler.Refines (d.host.scheduler.popReady now).1 a := by
    have := (h.refines.popReady now).2
    rwa [Agenda.popReady, hready] at this
  exact h.withScheduler hrefines

/-- The function of the task is taken to be run. -/
theorem take (h : d.Sound a (Function.update rest id (if repeats then .turning else .popped))) :
    Sound { d with callbacks := (d.callbacks.take id).2 } a
      (Function.update rest id (if repeats then .turning else .running)) := by
  have hfits := h.fits id
  rw [Function.update_self] at hfits
  have hid : id < d.host.nextOperation :=
    h.lt_of_update (by cases repeats <;> exact Phase.noConfusion)
  refine h.change id h.refines h.exact h.tracking h.unfinished (Nat.le_refl _) hid ?_ ?_
  · intro other hother
    rw [standing_take, if_neg hother, Function.update_of_ne (Ne.symm hother),
      Function.update_of_ne (Ne.symm hother)]
    exact ⟨rfl, rfl⟩
  · rw [standing_take, if_pos rfl, Function.update_self]
    cases repeats with
    | true => rw [Standing.Fits.take_repeating hfits]; exact hfits
    | false => exact Standing.Fits.take_single hfits

/-- A task that has run and is not registered is over with its operation. -/
theorem endTask (h : d.Sound a (Function.update rest id (if repeats then .turning else .running)))
    (hended : (d.standing a id).ended.Fits .resting) :
    Sound { d with host := d.host.endOperation id } a rest := by
  have hstanding := d.standing_endOperation a id h.tracking
  have hid : id < d.host.nextOperation :=
    h.lt_of_update (by cases repeats <;> exact Phase.noConfusion)
  refine h.change id h.refines (Tracker.exact_completed h.exact id)
    ((d.host.tracker.tracking_completed id).trans h.tracking) h.unfinished (Nat.le_refl _) hid ?_ ?_
  · intro other hother
    rw [hstanding, if_neg hother, Function.update_of_ne (Ne.symm hother)]
    exact ⟨rfl, rfl⟩
  · rw [hstanding, if_pos rfl]
    exact hended

/-- A task that has run waits for its next run. -/
theorem repeatTask (h : d.Sound a (Function.update rest id .turning)) {e : Agenda.Entry}
    (he : a.entries.get? id = some e) (now interval : Nat) {s : Scheduler}
    (hs : s.Refines (a.schedule now id interval true)) :
    Sound { d with host := { d.host with scheduler := s } } (a.schedule now id interval true)
      rest := by
  have hfits := h.fits id
  rw [Function.update_self] at hfits
  have hid : id < d.host.nextOperation := h.lt_of_update Phase.noConfusion
  refine h.change id hs h.exact h.tracking h.unfinished (Nat.le_refl _) hid ?_ ?_
  · intro other hother
    rw [Function.update_of_ne (Ne.symm hother)]
    refine ⟨?_, rfl⟩
    simp only [standing, Agenda.schedule_eq, Table.get?_put, if_neg hother]
  · have hstanding : Desk.standing { d with host := { d.host with scheduler := s } }
        (a.schedule now id interval true) id = { d.standing a id with
          task? := some ⟨dueTime now interval, a.nextTicket, some interval, true⟩ } := by
      simp only [standing, Agenda.schedule_eq, Table.get?_put_self, if_true]
    rw [hstanding]
    exact hfits.again (by simp [standing, he]) rfl rfl

/-- A task that has run is over or waits for its next run. -/
theorem closeTask (h : d.Sound a (Function.update rest id (if repeats then .turning else .running)))
    (now : Nat) :
    ∃ a', Sound { d with host := Desk.closeTask ⟨id, repeats⟩ now d.host } a' rest := by
  have hfits := h.fits id
  rw [Function.update_self] at hfits
  cases repeats with
  | false =>
      have hended := h.endTask (Standing.Fits.finish (Or.inl hfits))
      exact ⟨a, hended.work ⟨rfl, rfl, rfl, rfl⟩⟩
  | true =>
      -- A timer that cleared itself is not registered any more, and its operation ends again.
      obtain ⟨hagain, hrefines⟩ := h.refines.reschedule now id
      unfold Desk.closeTask
      cases he : a.entries.get? id with
      | none =>
          have hreschedule : a.reschedule now id = (a, false) := by simp [Agenda.reschedule, he]
          rw [hreschedule] at hagain hrefines
          simp only [if_true, hagain, Bool.false_eq_true, if_false]
          have hended := (h.withScheduler hrefines).endTask
            (Standing.Fits.finish (Or.inr ⟨hfits, he⟩))
          exact ⟨a, hended.work ⟨rfl, rfl, rfl, rfl⟩⟩
      | some e =>
          have hrepeats : e.interval?.isSome = true := hfits.moment.2.2.1 e he
          obtain ⟨interval, hinterval⟩ := Option.isSome_iff_exists.1 hrepeats
          have hreschedule : a.reschedule now id = (a.schedule now id interval true, true) := by
            simp [Agenda.reschedule, he, hinterval]
          rw [hreschedule] at hagain hrefines
          simp only [if_true, hagain]
          have hagain := h.repeatTask he now interval hrefines
          exact ⟨_, hagain.work ⟨rfl, rfl, rfl, rfl⟩⟩

end Sound

theorem finished_closeTask (task : ReadyTask) (now : Nat) {h : Host} (hf : h.finished = true) :
    (closeTask task now h).finished = true := by
  unfold closeTask
  cases task.repeats with
  | false => exact hf
  | true =>
      simp only [if_true]
      split
      · exact hf
      · exact hf

namespace Keeps

variable {id : Nat} {repeats : Bool}

/-- Running a task and closing it keeps a desk sound. -/
theorem runTask {x : Session Desk}
    (h : x.state.Keeps (Function.update rest id (if repeats then .turning else .popped))) :
    (x.runTask guest ⟨id, repeats⟩).state.Keeps rest := by
  rw [runTask_eq]
  have hcurrent : Keeps { x.state with host := x.state.host.setCurrent id }
      (Function.update rest id (if repeats then .turning else .popped)) := h.work ⟨rfl, rfl, rfl, rfl⟩
  have htask : (guest.task id { x.state with host := x.state.host.setCurrent id }).Keeps
      (Function.update rest id (if repeats then .turning else .running)) := by
    generalize { x.state with host := x.state.host.setCurrent id } = d at hcurrent
    have htaken : Keeps { d with callbacks := (d.callbacks.take id).2 }
        (Function.update rest id (if repeats then .turning else .running)) := by
      rcases hcurrent with hover | ⟨a, hsound⟩
      · exact Or.inl hover
      · exact Or.inr ⟨a, hsound.take⟩
    change (Desk.task id d).Keeps _
    unfold Desk.task
    cases htake : d.callbacks.take id with
    | mk f? callbacks =>
        rw [htake] at htaken
        cases f? with
        | none => exact htaken
        | some f => exact htaken.goOn
  have hsettled := Keeps.settle (x := (x.tell guest fun h => h.setCurrent id).change (guest.task id))
    htask
  rcases hsettled with hover | ⟨a, hsound⟩
  · exact Or.inl (finished_closeTask _ _ hover)
  · exact Or.inr (hsound.closeTask _)

/-- Waiting, and giving up, keeps a desk sound. -/
theorem waitUntil {x : Session Desk} (h : x.state.Keeps rest) (deadline : Nat) :
    (x.change (guest.waitUntil deadline)).state.Keeps rest := by
  rcases h with hover | ⟨a, hsound⟩
  · exact Or.inl hover
  · exact Or.inr ⟨a, hsound.passing _ _⟩

/-- Running the next task, or waiting for it, keeps a desk sound. -/
theorem next {x : Session Desk} (h : x.state.Keeps rest) : (x.next guest).state.Keeps rest := by
  let s := (x.state.host.scheduler.popReady x.state.clock).1
  let y : Session Desk := { x with state := { x.state with host := { x.state.host with scheduler := s } } }
  cases hpop : (x.state.host.scheduler.popReady x.state.clock).2 with
  | some task =>
      have hnext : x.next guest = y.runTask guest task := by
        unfold Session.next
        simp only [clock_guest, ask_popReady, hpop]
        rfl
      rw [hnext]
      refine runTask ?_
      rcases h with hover | ⟨a, hsound⟩
      · exact Or.inl hover
      · have hsame := (hsound.refines.popReady x.state.clock).1
        rw [hpop, Agenda.popReady] at hsame
        cases hready : a.ready? x.state.clock with
        | none => rw [hready] at hsame; cases hsame
        | some first =>
            rw [hready] at hsame
            obtain rfl : task = ⟨first.1, first.2.repeats⟩ := Option.some.inj hsame
            exact Or.inr ⟨_, hsound.pop hready⟩
  | none =>
      have hidle : y.state.Keeps rest := by
        rcases h with hover | ⟨a, hsound⟩
        · exact Or.inl hover
        · have hsame := (hsound.refines.popReady x.state.clock).1
          rw [hpop, Agenda.popReady] at hsame
          cases hready : a.ready? x.state.clock with
          | none => exact Or.inr ⟨a, hsound.idle hready⟩
          | some first => rw [hready] at hsame; cases hsame
      -- What the scheduler answers about deadlines only decides for how long to wait.
      have hnext : x.next guest = y.stall guest ∨
          ∃ deadline, x.next guest = y.change (guest.waitUntil deadline) := by
        unfold Session.next
        simp only [clock_guest, ask_popReady, ask_deadline, hpop]
        split
        · split
          · exact Or.inl rfl
          · exact Or.inr ⟨_, rfl⟩
        · exact Or.inr ⟨_, rfl⟩
        · exact Or.inl rfl
      rcases hnext with hstall | ⟨deadline, hwait⟩
      · rw [hstall]
        exact hidle.stall
      · rw [hwait]
        exact hidle.waitUntil deadline

theorem step {x : Session Desk} (h : x.state.Keeps rest) (s : Session.Step) :
    (x.step guest s).state.Keeps rest := by
  cases s with
  | settle => exact h.settle
  | flush => exact h.flush
  | endCells => exact h.endCells
  | next => exact h.next

end Keeps

/-! ### Runs -/

/-- What the driver does keeps a desk sound, as long as the run is not over. -/
theorem keeps_steps (l : List Session.Step) {x : Session Desk} (h : x.state.Keeps rest) :
    (x.steps guest l).state.Keeps rest := by
  induction l generalizing x with
  | nil => exact h
  | cons s l ih => exact ih (h.step s)

theorem sound_opened (settings : Settings) (file : String) (cells : List String)
    (script : List (Option Doings)) : Sound (opened settings file cells script) .empty rest where
  refines := Scheduler.refines_empty
  exact := Tracker.exact_change .start (Tracker.exact_new _)
  tracking := rfl
  unfinished := rfl
  fresh := fun _ _ => ⟨rfl, rfl⟩
  fits := fun _ => Standing.fits_blank false false

/-- The session of a run in which the program has done what it does first. -/
def started (settings : Settings) (file : String) (cells : List String) (first : Doings)
    (script : List (Option Doings)) : Session Desk :=
  ⟨first.run (opened settings file cells script), #[]⟩

theorem keeps_started (settings : Settings) (file : String) (cells : List String) (first : Doings)
    (script : List (Option Doings)) :
    (started settings file cells first script).state.Keeps rest :=
  Keeps.run first (Or.inr ⟨_, sound_opened settings file cells script⟩)

namespace Sound

variable {d : Desk} {a : Agenda}

theorem isScheduled_eq (h : d.Sound a rest) (id : Nat) :
    d.host.scheduler.isScheduled id = (d.standing a id).task?.isSome := h.refines.isScheduled_eq id

/-- A registered task is one of the agenda's, and it waits there. -/
theorem willRun (h : d.Sound a rest) {id : Nat} (hid : d.host.scheduler.isScheduled id = true) :
    d.WillRun id := by
  rw [h.isScheduled_eq] at hid
  obtain ⟨e, he⟩ := Option.isSome_iff_exists.1 hid
  have harmed : e.armed = true := (h.fits id).moment.2.1 e he
  refine ⟨⟨e.due, e.ticket, id⟩, (h.refines.queued id e he e.due).2 ⟨harmed, rfl⟩, rfl, ?_⟩
  exact (h.refines.isStale_eq_false_iff _).2 ⟨e, he, rfl⟩

/-- Everything that waits is registered. -/
theorem registered_of_waits (h : d.Sound a rest) {id : Nat} (hid : d.callbacks.contains id = true) :
    d.host.scheduler.isScheduled id = true := by
  rw [h.isScheduled_eq]
  exact (h.fits id).moment.1 hid

/-- What is registered waits, unless it was cut short. -/
theorem waits_of_registered (h : d.Sound a rest) {id : Nat}
    (hid : d.host.scheduler.isScheduled id = true) :
    d.callbacks.contains id = true ∨ id ∈ d.cutShort := by
  rw [h.isScheduled_eq] at hid
  exact ((h.fits id).whole.registered hid).imp_right List.contains_iff_mem.1

/-- What was cut short does not wait. -/
theorem not_waits_of_cut (h : d.Sound a rest) {id : Nat} (hid : id ∈ d.cutShort) :
    d.callbacks.contains id = false :=
  ((h.fits id).whole.cut (List.contains_iff_mem.2 hid)).2

/-- A registered task repeats exactly if it is among those that do, unless it was cut short. -/
theorem repeating_iff (h : d.Sound a rest) {id : Nat} (hid : d.callbacks.contains id = true) :
    id ∈ d.callbacks.repeating ↔
      ∃ task, d.host.scheduler.tasks.get? id = some task ∧ task.interval?.isSome = true := by
  have hsome : (d.standing a id).task?.isSome = true := (h.fits id).moment.1 hid
  have hperiodic := (h.fits id).whole.periodic hid hsome
  obtain ⟨e, he⟩ := Option.isSome_iff_exists.1 hsome
  have htask := h.refines.task_eq he
  rw [Standing.periodic, he] at hperiodic
  rw [htask, ← List.contains_iff_mem]
  constructor
  · intro hmem
    exact ⟨_, rfl, (hperiodic.symm.trans hmem :)⟩
  · rintro ⟨task, hsame, hinterval⟩
    cases hsame
    exact hperiodic.trans hinterval

/-- A timer of a cell is in flight exactly while its function waits. -/
theorem inFlight_timer (h : d.Sound a rest) {id : Nat} (hid : id ∈ d.timers)
    (hknown : d.host.tracker.knows id = true) :
    d.host.tracker.current.contains id = d.callbacks.contains id :=
  (h.fits id).moment.2.2.1 (List.contains_iff_mem.2 hid) hknown

/-- A value awaited in a cell is in flight until it settles, then while its continuation waits, and for
good if it could not be subscribed to. -/
theorem inFlight_await (h : d.Sound a rest) {id : Nat} (hid : id ∈ d.awaits)
    (hknown : d.host.tracker.knows id = true) :
    d.host.tracker.current.contains id
      = (d.unsettled.contains id || d.callbacks.contains id || d.broken.contains id) :=
  (h.fits id).moment.2.2.2 (List.contains_iff_mem.2 hid) hknown

/-- What is in flight was recorded. -/
theorem known_of_inFlight (h : d.Sound a rest) {id : Nat}
    (hid : d.host.tracker.current.contains id = true) : d.host.tracker.knows id = true := by
  obtain ⟨op, hop, -⟩ := (h.exact.current_iff id).1 hid
  rw [Tracker.knows, Table.contains, hop]
  rfl

/-- A cell has not drained while a function waits that belongs to it. -/
theorem not_drained (h : d.Sound a rest) {id cell : Nat} (hid : d.callbacks.contains id = true)
    (howner : d.host.tracker.ownerOf id = some cell) : d.host.tracker.isDrained cell = false := by
  obtain ⟨op, hop, hcell⟩ := (d.host.tracker.ownerOf_eq_some_iff id cell).1 howner
  have hknown : d.host.tracker.knows id = true := by
    rw [Tracker.knows, Table.contains, hop]
    rfl
  have hflight : d.host.tracker.current.contains id = true := by
    rcases (h.fits id).whole.owned hid with htimer | hawait
    · rw [h.inFlight_timer (List.contains_iff_mem.1 htimer) hknown]
      exact hid
    · rw [h.inFlight_await (List.contains_iff_mem.1 hawait) hknown, hid, Bool.or_true, Bool.true_or]
  obtain ⟨op', hop', hstatus⟩ := (h.exact.current_iff id).1 hflight
  cases hdrained : d.host.tracker.isDrained cell with
  | false => rfl
  | true =>
      rw [hop] at hop'
      cases hop'
      exact absurd hcell ((h.exact.isDrained_iff cell).1 hdrained id op hop hstatus)

/-- Both sides agree exactly if nothing that was cut short is registered, and no cell has awaited a value
that could not be subscribed to. -/
theorem inStep_iff (h : d.Sound a rest) :
    d.InStep ↔ (∀ id ∈ d.cutShort, d.host.scheduler.isScheduled id = false) ∧
      ∀ id ∈ d.broken, d.host.tracker.knows id = false := by
  constructor
  · intro hstep
    refine ⟨fun id hid => ?_, fun id hid => ?_⟩
    · rw [← hstep.tasks id, h.not_waits_of_cut hid]
    · obtain ⟨hawait, hwaits⟩ := (h.fits id).whole.broken (List.contains_iff_mem.2 hid)
      cases hknown : d.host.tracker.knows id with
      | false => rfl
      | true =>
          -- It is in flight for good, but its value is neither unsettled nor waited for.
          have hmem : id ∈ d.awaits := List.contains_iff_mem.1 hawait
          have hflight := h.inFlight_await hmem hknown
          rw [List.contains_iff_mem.2 hid, Bool.or_true] at hflight
          rcases (hstep.awaits id hmem hknown).1 hflight with hunsettled | hcontains
          · have hnot := ((h.fits id).whole.unsettled (List.contains_iff_mem.2 hunsettled)).2.2
            have hbroken : d.broken.contains id = true := List.contains_iff_mem.2 hid
            exact hbroken.symm.trans hnot
          · exact hcontains.symm.trans hwaits
  · rintro ⟨hcut, hbroken⟩
    have hwaits : ∀ id, d.host.scheduler.isScheduled id = true → d.callbacks.contains id = true := by
      intro id hid
      refine (h.waits_of_registered hid).resolve_right fun hmem => ?_
      rw [hcut id hmem] at hid
      cases hid
    refine ⟨fun id => ?_, fun id => ?_, fun id hid hknown => ?_, fun id hid hknown => ?_⟩
    · exact Bool.eq_iff_iff.2 ⟨h.registered_of_waits, hwaits id⟩
    · cases hid : d.callbacks.contains id with
      | true => exact h.repeating_iff hid
      | false =>
          constructor
          · intro hmem
            have hcontra := ((h.fits id).whole.repeating (List.contains_iff_mem.2 hmem)).1
            exact absurd (hid.symm.trans hcontra) Bool.false_ne_true
          · rintro ⟨task, htask, -⟩
            have hregistered : d.host.scheduler.isScheduled id = true := by
              rw [Scheduler.isScheduled, Table.contains, htask]
              rfl
            exact absurd (hid.symm.trans (hwaits id hregistered)) Bool.false_ne_true
    · rw [h.inFlight_timer hid hknown]
    · have hnot : d.broken.contains id = false := by
        cases hmem : d.broken.contains id with
        | false => rfl
        | true =>
            rw [hbroken id (List.contains_iff_mem.1 hmem)] at hknown
            cases hknown
      rw [h.inFlight_await hid hknown, hnot, Bool.or_false, Bool.or_eq_true, List.contains_iff_mem]

end Sound

/-- **When timers, tasks and operations are in step.**  Take any run that is not over, at any moment
between two steps of its driver.  Both sides agree exactly if no timer that was cleared while its own
delay was converted is registered, and no cell has awaited a value that could not be subscribed to.
A timer of the first kind that repeats stays registered for the rest of the run.  In any case everything
that waits will run, a timer that holds a cell will run, and a cell for which something waits has not
drained. -/
theorem agreement_between_tasks (settings : Settings) (file : String) (cells : List String) (first : Doings)
    (script : List (Option Doings)) (l : List Session.Step)
    (h : ((started settings file cells first script).steps guest l).state.host.finished = false) :
    let d := ((started settings file cells first script).steps guest l).state
    (d.InStep ↔ (∀ id ∈ d.cutShort, d.host.scheduler.isScheduled id = false) ∧
      ∀ id ∈ d.broken, d.host.tracker.knows id = false) ∧
    (∀ id ∈ d.endless, id ∈ d.cutShort ∧ d.host.scheduler.isScheduled id = true) ∧
    (∀ id, d.callbacks.contains id = true → d.WillRun id) ∧
    (∀ id ∈ d.timers, d.host.tracker.current.contains id = true → d.WillRun id) ∧
    ∀ id cell, d.callbacks.contains id = true → d.host.tracker.ownerOf id = some cell →
      d.host.tracker.isDrained cell = false := by
  intro d
  obtain ⟨a, hsound⟩ : ∃ a, d.Sound a rest := by
    have hkeeps := keeps_steps l (keeps_started settings file cells first script)
    exact hkeeps.resolve_left (by rw [h]; exact Bool.false_ne_true)
  refine ⟨hsound.inStep_iff, ?_, ?_, ?_, ?_⟩
  · intro id hid
    obtain ⟨hcut, hperiodic⟩ := (hsound.fits id).whole.endless (List.contains_iff_mem.2 hid)
    refine ⟨List.contains_iff_mem.1 hcut, ?_⟩
    rw [hsound.isScheduled_eq]
    exact Option.isSome_of_any hperiodic
  · exact fun id hid => hsound.willRun (hsound.registered_of_waits hid)
  · intro id hid hflight
    rw [hsound.inFlight_timer hid (hsound.known_of_inFlight hflight)] at hflight
    exact hsound.willRun (hsound.registered_of_waits hflight)
  · exact fun id cell => hsound.not_drained

/-- A cell that clears an interval while its delay is converted. -/
def strayInterval : Doings :=
  .ask (.enterCell 0) (.timer "Timeout" true (.clear (some 3) .done) 10 .done)

/-- The interval is registered when the driver has let its jobs run, and no function waits for it. -/
theorem stray_out_of_step :
    let d := ((started .default "notebook" ["cell"] strayInterval []).steps guest
      [.settle, .flush, .endCells]).state
    d.host.finished = false ∧ ¬ d.InStep := by
  have hunfinished : ((started .default "notebook" ["cell"] strayInterval []).steps guest
      [.settle, .flush, .endCells]).state.host.finished = false := by rfl
  refine ⟨hunfinished, fun hstep => ?_⟩
  have hexact := agreement_between_tasks .default "notebook" ["cell"] strayInterval []
    [.settle, .flush, .endCells] hunfinished
  have hstray := (hexact.1.1 hstep).1 3 (by decide)
  revert hstray
  decide

end Desk

end NotebookEngine
