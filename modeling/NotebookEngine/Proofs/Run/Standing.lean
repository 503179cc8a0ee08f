/-
**How one operation stands.**

Timers and awaited values are kept in four places: the functions that wait, the set of those that
repeat, the scheduler, and the tracker.  Every request changes all four for one operation and leaves the
others alone.  So it is enough to say what the four may hold about one operation, in each phase of its
life, and what becomes of that when a request is made.

Main definitions:

* `Standing` — what the four places hold about one operation, and what happened to it;
* `Phase`, `Standing.Fits` — what they may hold in each phase.

Main results:

* `Standing.Fits.clear`, `Standing.Fits.schedule`, `Standing.Fits.subscribe`, `Standing.Fits.settle` —
  each request keeps it;
* `Standing.Fits.pop`, `Standing.Fits.take_single`, `Standing.Fits.take_repeating`,
  `Standing.Fits.finish`, `Standing.Fits.again` — so does the running of a task.
-/

import NotebookEngine.Proofs.Schedule.Agenda

set_option autoImplicit false

namespace NotebookEngine

/-- What is known about one operation. -/
structure Standing where
  /-- Its task, if it is registered. -/
  task? : Option Agenda.Entry
  /-- Whether its function waits. -/
  waits : Bool
  /-- Whether the program's side holds it for one that repeats. -/
  repeating : Bool
  /-- Whether the tracker has recorded it for a cell. -/
  known : Bool
  inFlight : Bool
  /-- Whether it is a timer. -/
  timer : Bool
  /-- Whether it is an awaited value. -/
  await : Bool
  unsettled : Bool
  /-- Whether it is an awaited value that could not be subscribed to. -/
  broken : Bool
  /-- Whether it is a timer that was cleared while its delay was converted. -/
  cut : Bool
  /-- Whether it is one of those that repeat. -/
  endless : Bool

/-- Where an operation is in its life. -/
inductive Phase where
  /-- It is not being worked on. -/
  | resting
  /-- A timer whose delay is being converted. -/
  | converting (repeats : Bool)
  /-- A value that is being subscribed to. -/
  | subscribing
  /-- Its single task has been taken from the scheduler and not run yet. -/
  | popped
  /-- Its single task runs. -/
  | running
  /-- Its task runs and is to be scheduled again. -/
  | turning

namespace Standing

/-- An operation that nothing was asked about, in flight or not. -/
def blank (known inFlight : Bool) : Standing :=
  ⟨none, false, false, known, inFlight, false, false, false, false, false, false⟩

/-- Whether the task is registered to repeat. -/
def periodic (v : Standing) : Bool := v.task?.any Agenda.Entry.repeats

/-- What holds of an operation in every phase. -/
structure Whole (v : Standing) : Prop where
  owned : v.waits = true → v.timer = true ∨ v.await = true
  apart : v.timer = true → v.await = false
  repeating : v.repeating = true → v.waits = true ∧ v.timer = true
  unsettled : v.unsettled = true → v.await = true ∧ v.waits = false ∧ v.broken = false
  broken : v.broken = true → v.await = true ∧ v.waits = false
  cut : v.cut = true → v.timer = true ∧ v.waits = false
  endless : v.endless = true → v.cut = true ∧ v.periodic = true
  /-- Only what was cut short is registered although no function waits for it. -/
  registered : v.task?.isSome = true → v.waits = true ∨ v.cut = true
  periodic : v.waits = true → v.task?.isSome = true → v.repeating = v.periodic

namespace Whole

variable {v : Standing}

/-- What is not an awaited value is neither unsettled nor broken. -/
theorem not_unsettled (h : v.Whole) (hawait : v.await = false) : v.unsettled = false := by
  refine Bool.eq_false_of_not_eq_true fun hunsettled => ?_
  rw [(h.unsettled hunsettled).1] at hawait
  cases hawait

theorem not_broken (h : v.Whole) (hawait : v.await = false) : v.broken = false := by
  refine Bool.eq_false_of_not_eq_true fun hbroken => ?_
  rw [(h.broken hbroken).1] at hawait
  cases hawait

/-- An awaited value is not a timer. -/
theorem not_timer (h : v.Whole) (hawait : v.await = true) : v.timer = false := by
  refine Bool.eq_false_of_not_eq_true fun htimer => ?_
  rw [h.apart htimer] at hawait
  cases hawait

/-- What is not a timer does not repeat and was not cut short. -/
theorem not_repeating (h : v.Whole) (htimer : v.timer = false) : v.repeating = false := by
  refine Bool.eq_false_of_not_eq_true fun hrepeating => ?_
  rw [(h.repeating hrepeating).2] at htimer
  cases htimer

theorem not_cut (h : v.Whole) (htimer : v.timer = false) : v.cut = false := by
  refine Bool.eq_false_of_not_eq_true fun hcut => ?_
  rw [(h.cut hcut).1] at htimer
  cases htimer

/-- What waits was not cut short. -/
theorem not_cut_of_waits (h : v.Whole) (hwaits : v.waits = true) : v.cut = false := by
  refine Bool.eq_false_of_not_eq_true fun hcut => ?_
  rw [(h.cut hcut).2] at hwaits
  cases hwaits

/-- What was not cut short is not endless. -/
theorem not_endless (h : v.Whole) (hcut : v.cut = false) : v.endless = false := by
  refine Bool.eq_false_of_not_eq_true fun hendless => ?_
  rw [(h.endless hendless).1] at hcut
  cases hcut

/-- Nor is what does not repeat. -/
theorem not_endless_of_single (h : v.Whole) (hsingle : v.periodic = false) : v.endless = false := by
  refine Bool.eq_false_of_not_eq_true fun hendless => ?_
  rw [(h.endless hendless).2] at hsingle
  cases hsingle

/-- An awaited value that is registered waits. -/
theorem waits_of_await (h : v.Whole) (htask : v.task?.isSome = true) (hawait : v.await = true) :
    v.waits = true := by
  refine (h.registered htask).resolve_right fun hcut => ?_
  rw [h.not_cut (h.not_timer hawait)] at hcut
  cases hcut

end Whole

/-- What holds in each phase besides. -/
def Moment (v : Standing) : Phase → Prop
  | .resting =>
    (v.waits = true → v.task?.isSome = true) ∧ (∀ e, v.task? = some e → e.armed = true) ∧
      (v.timer = true → v.known = true → v.inFlight = v.waits) ∧
      (v.await = true → v.known = true → v.inFlight = (v.unsettled || v.waits || v.broken))
  | .converting repeats =>
    v.timer = true ∧ v.task? = none ∧ v.cut = false ∧ (v.waits = true → v.repeating = repeats) ∧
      (v.known = true → v.inFlight = v.waits)
  | .subscribing =>
    v.await = true ∧ v.waits = false ∧ v.unsettled = false ∧ v.broken = false ∧
      (v.known = true → v.inFlight = true)
  | .popped =>
    v.task? = none ∧ v.unsettled = false ∧ v.broken = false ∧ v.repeating = false
  | .running =>
    v.task? = none ∧ v.unsettled = false ∧ v.broken = false ∧ v.waits = false
  | .turning =>
    v.timer = true ∧ (v.waits = true → v.task?.isSome = true) ∧
      (∀ e, v.task? = some e → e.repeats = true) ∧ (v.known = true → v.inFlight = v.waits)

/-- What may be known about an operation in a phase. -/
structure Fits (p : Phase) (v : Standing) : Prop where
  whole : v.Whole
  moment : v.Moment p

/-! ### Beginnings -/

theorem whole_blank (known inFlight : Bool) : (blank known inFlight).Whole := by
  constructor <;> simp [blank]

theorem fits_blank (known inFlight : Bool) : (blank known inFlight).Fits .resting :=
  ⟨whole_blank known inFlight, by simp [blank, Moment]⟩

/-- A timer has begun: its function waits, and its task is not registered. -/
def begun (tracked repeats : Bool) : Standing :=
  { blank tracked tracked with waits := true, repeating := repeats, timer := true }

theorem fits_begun (tracked repeats : Bool) : (begun tracked repeats).Fits (.converting repeats) := by
  refine ⟨?_, ?_⟩
  · constructor <;> simp [begun, blank, periodic]
  · simp [begun, blank, Moment]

/-- A value has begun to be awaited. -/
def awaited (tracked : Bool) : Standing := { blank tracked tracked with await := true }

theorem fits_awaited (tracked : Bool) : (awaited tracked).Fits .subscribing := by
  refine ⟨?_, ?_⟩
  · constructor <;> simp [awaited, blank, periodic]
  · simp [awaited, blank, Moment]

/-! ### Requests -/

variable {p : Phase} {v : Standing}

/-- The operation is cleared. -/
def cleared (v : Standing) : Standing :=
  if v.waits then { v with task? := none, waits := false, repeating := false, inFlight := false }
  else v

theorem Fits.clear (h : v.Fits p) : v.cleared.Fits p := by
  obtain ⟨hwhole, hmoment⟩ := h
  unfold cleared
  split
  next hwaits =>
    -- Only what does not wait can be unsettled, broken or cut short.
    have hunsettled : v.unsettled = false := by
      refine Bool.eq_false_of_not_eq_true fun hunsettled => ?_
      exact Bool.false_ne_true ((hwhole.unsettled hunsettled).2.1.symm.trans hwaits)
    have hbroken : v.broken = false := by
      refine Bool.eq_false_of_not_eq_true fun hbroken => ?_
      exact Bool.false_ne_true ((hwhole.broken hbroken).2.symm.trans hwaits)
    have hcut : v.cut = false := hwhole.not_cut_of_waits hwaits
    have hendless : v.endless = false := hwhole.not_endless hcut
    refine ⟨?_, ?_⟩
    · constructor <;> simp [hunsettled, hbroken, hcut, hendless, Standing.periodic]
      exact hwhole.apart
    · cases p <;> simp_all [Moment]
  next => exact ⟨hwhole, hmoment⟩

/-- The task of a timer is registered; if its function does not wait by then, it was cut short. -/
def scheduled (v : Standing) (e : Agenda.Entry) : Standing :=
  { v with
    task? := some e
    cut := v.cut || !v.waits
    endless := v.endless || (!v.waits && e.repeats) }

theorem Fits.schedule {e : Agenda.Entry} (h : v.Fits (.converting e.repeats))
    (harmed : e.armed = true) : (v.scheduled e).Fits .resting := by
  obtain ⟨hwhole, htimer, htask, hcut, hrepeating, hflight⟩ := h
  have hawait : v.await = false := hwhole.apart htimer
  have hunsettled : v.unsettled = false := hwhole.not_unsettled hawait
  have hbroken : v.broken = false := hwhole.not_broken hawait
  have hendless : v.endless = false := hwhole.not_endless hcut
  refine ⟨?_, ?_⟩
  · constructor
    · exact fun _ => Or.inl htimer
    · exact fun _ => hawait
    · exact hwhole.repeating
    · simp [scheduled, hunsettled]
    · simp [scheduled, hbroken]
    · simp [scheduled, hcut, htimer]
    · simp [scheduled, hendless, hcut, Standing.periodic]
    · cases hw : v.waits <;> simp [scheduled, hw]
    · intro hw _
      simpa [scheduled, Standing.periodic] using hrepeating hw
  · simpa [Moment, scheduled, hawait, harmed] using fun _ => hflight

/-- The value has been subscribed to, or could not be. -/
def subscribed (v : Standing) : Bool → Standing
  | true => { v with unsettled := true }
  | false => { v with broken := true }

theorem Fits.subscribe (h : v.Fits .subscribing) (subscribes : Bool) :
    (v.subscribed subscribes).Fits .resting := by
  obtain ⟨hwhole, hawait, hwaits, hunsettled, hbroken, hflight⟩ := h
  have htimer : v.timer = false := hwhole.not_timer hawait
  have hrepeating : v.repeating = false := hwhole.not_repeating htimer
  have hcut : v.cut = false := hwhole.not_cut htimer
  have hendless : v.endless = false := hwhole.not_endless hcut
  have htask : v.task? = none := by
    have hregistered := hwhole.registered
    cases he : v.task? with
    | none => rfl
    | some e => simp [he, hwaits, hcut] at hregistered
  refine ⟨?_, ?_⟩
  · cases subscribes <;> constructor <;>
      simp [subscribed, hawait, htimer, hwaits, hrepeating, hunsettled, hbroken, hcut, hendless, htask]
  · cases subscribes <;>
      simpa [Moment, subscribed, hawait, htimer, hwaits, hunsettled, hbroken, htask] using hflight

/-- The value has settled, and its continuation waits for a single task. -/
def settled (v : Standing) (e : Agenda.Entry) : Standing :=
  { v with task? := some e, waits := true, unsettled := false }

theorem Fits.settle (h : v.Fits p) {e : Agenda.Entry} (harmed : e.armed = true)
    (hsingle : e.repeats = false) (hunsettled : v.unsettled = true) : (v.settled e).Fits p := by
  obtain ⟨hwhole, hmoment⟩ := h
  obtain ⟨hawait, hwaits, hbroken⟩ := hwhole.unsettled hunsettled
  have htimer : v.timer = false := hwhole.not_timer hawait
  have hrepeating : v.repeating = false := hwhole.not_repeating htimer
  have hcut : v.cut = false := hwhole.not_cut htimer
  have hendless : v.endless = false := hwhole.not_endless hcut
  refine ⟨?_, ?_⟩
  · constructor <;>
      simp [settled, hawait, htimer, hrepeating, hcut, hendless, hbroken, hsingle, Standing.periodic]
  · -- In no other phase can the value be unsettled.
    cases p with
    | resting => simp_all [Moment, settled]
    | _ => simp_all [Moment]

/-- The task has been taken from the scheduler, where it stays if it repeats. -/
def popped (v : Standing) (e : Agenda.Entry) : Standing :=
  { v with task? := if e.repeats then some { e with armed := false } else none }

theorem Fits.pop (h : v.Fits .resting) {e : Agenda.Entry} (he : v.task? = some e) :
    (v.popped e).Fits (if e.repeats then .turning else .popped) := by
  obtain ⟨hwhole, hregistered, harmed, htimers, hawaits⟩ := h
  have htask : v.task?.isSome = true := by rw [he]; rfl
  have hperiodic : v.periodic = e.repeats := by rw [Standing.periodic, he]; rfl
  have hrep : v.waits = true → v.repeating = e.repeats := by
    intro hwaits
    rw [← hperiodic]
    exact hwhole.periodic hwaits htask
  cases hrepeats : e.repeats with
  | true =>
      have htimer : v.timer = true := by
        rcases hwhole.registered htask with hwaits | hcut
        · exact (hwhole.repeating ((hrep hwaits).trans hrepeats)).2
        · exact (hwhole.cut hcut).1
      refine ⟨⟨hwhole.owned, hwhole.apart, hwhole.repeating, hwhole.unsettled, hwhole.broken,
        hwhole.cut, ?_, fun _ => hwhole.registered htask, ?_⟩, ?_⟩
      · intro hendless
        exact ⟨(hwhole.endless hendless).1, by simp [popped, Standing.periodic, hrepeats]⟩
      · intro hwaits _
        simp [popped, Standing.periodic, hrepeats, hrep hwaits]
      · refine ⟨htimer, fun _ => by simp [popped, hrepeats], fun e' he' => ?_, htimers htimer⟩
        simp only [popped, hrepeats, if_true, Option.some.injEq] at he'
        rw [← he']
        exact hrepeats
  | false =>
      have hendless : v.endless = false := hwhole.not_endless_of_single (hperiodic.trans hrepeats)
      have hunsettled : v.unsettled = false := by
        refine Bool.eq_false_of_not_eq_true fun hunsettled => ?_
        obtain ⟨hawait, hwaits, -⟩ := hwhole.unsettled hunsettled
        exact Bool.false_ne_true (hwaits.symm.trans (hwhole.waits_of_await htask hawait))
      have hbroken : v.broken = false := by
        refine Bool.eq_false_of_not_eq_true fun hbroken => ?_
        obtain ⟨hawait, hwaits⟩ := hwhole.broken hbroken
        exact Bool.false_ne_true (hwaits.symm.trans (hwhole.waits_of_await htask hawait))
      have hrepeating : v.repeating = false := by
        refine Bool.eq_false_of_not_eq_true fun hrepeating => ?_
        have hsame := (hrep (hwhole.repeating hrepeating).1).trans hrepeats
        exact Bool.false_ne_true (hsame.symm.trans hrepeating)
      refine ⟨⟨hwhole.owned, hwhole.apart, hwhole.repeating, hwhole.unsettled, hwhole.broken,
        hwhole.cut, ?_, ?_, ?_⟩, ?_⟩
      · simp [popped, hendless]
      · simp [popped, hrepeats]
      · simp [popped, hrepeats]
      · simp [popped, hrepeats, Moment, hunsettled, hbroken, hrepeating]

/-- The function has been taken to be run; it waits on if the timer repeats. -/
def taken (v : Standing) : Standing := { v with waits := v.waits && v.repeating }

theorem Fits.take_single (h : v.Fits .popped) : v.taken.Fits .running := by
  obtain ⟨hwhole, htask, hunsettled, hbroken, hrepeating⟩ := h
  have hperiodic : v.periodic = false := by rw [Standing.periodic, htask]; rfl
  have hendless : v.endless = false := hwhole.not_endless_of_single hperiodic
  refine ⟨?_, ?_⟩
  · constructor
    · simp [taken, hrepeating]
    · exact hwhole.apart
    · simp [taken, hrepeating]
    · simp [taken, hunsettled]
    · simp [taken, hbroken]
    · intro hcut
      exact ⟨(hwhole.cut hcut).1, by simp [taken, hrepeating]⟩
    · simp [taken, hendless]
    · simp [taken, htask]
    · simp [taken, hrepeating]
  · simp [Moment, taken, htask, hunsettled, hbroken, hrepeating]

theorem Fits.take_repeating (h : v.Fits .turning) : v.taken = v := by
  obtain ⟨hwhole, -, hregistered, hrepeats, -⟩ := h
  have hkept : (v.waits && v.repeating) = v.waits := by
    cases hw : v.waits with
    | false => rfl
    | true =>
        obtain ⟨e, he⟩ := Option.isSome_iff_exists.1 (hregistered hw)
        rw [hwhole.periodic hw (hregistered hw), Standing.periodic, he]
        exact hrepeats e he
  rw [taken, hkept]

/-- The operation has ended. -/
def ended (v : Standing) : Standing := { v with inFlight := false }

/-- What is neither a timer nor an awaited value may end at any time. -/
theorem Fits.end_other (h : v.Fits p) (htimer : v.timer = false) (hawait : v.await = false) :
    v.ended.Fits p := by
  obtain ⟨hwhole, hmoment⟩ := h
  refine ⟨⟨hwhole.owned, hwhole.apart, hwhole.repeating, hwhole.unsettled, hwhole.broken, hwhole.cut,
    hwhole.endless, hwhole.registered, hwhole.periodic⟩, ?_⟩
  cases p <;> simp_all [Moment, ended]

/-- A task that has run and is not registered any more is over. -/
theorem Fits.finish (h : v.Fits .running ∨ (v.Fits .turning ∧ v.task? = none)) :
    v.ended.Fits .resting := by
  have hwhole : v.Whole := h.elim Fits.whole fun h => h.1.whole
  have htask : v.task? = none := h.elim (fun h => h.moment.1) And.right
  have hwaits : v.waits = false := by
    rcases h with h | ⟨h, -⟩
    · exact h.moment.2.2.2
    · refine Bool.eq_false_of_not_eq_true fun hwaits => ?_
      have hregistered := h.moment.2.1 hwaits
      rw [htask] at hregistered
      cases hregistered
  have hover : v.await = true → v.unsettled = false ∧ v.broken = false := by
    rcases h with h | ⟨h, -⟩
    · exact fun _ => ⟨h.moment.2.1, h.moment.2.2.1⟩
    · intro hawait
      exact absurd ((hwhole.apart h.moment.1).symm.trans hawait) Bool.false_ne_true
  refine ⟨⟨hwhole.owned, hwhole.apart, hwhole.repeating, hwhole.unsettled, hwhole.broken, hwhole.cut,
    hwhole.endless, hwhole.registered, hwhole.periodic⟩, ?_⟩
  simpa [Moment, ended, htask, hwaits] using fun hawait _ => hover hawait

/-- A task that has run and is registered to repeat waits for its next run. -/
theorem Fits.again (h : v.Fits .turning) {e : Agenda.Entry} (hregistered : v.task?.isSome = true)
    (harmed : e.armed = true) (hrepeats : e.repeats = true) :
    Fits .resting { v with task? := some e } := by
  obtain ⟨hwhole, htimer, -, hold, hflight⟩ := h
  have hperiodic : v.periodic = true := by
    obtain ⟨e', he'⟩ := Option.isSome_iff_exists.1 hregistered
    rw [Standing.periodic, he']
    exact hold e' he'
  have hawait : v.await = false := hwhole.apart htimer
  refine ⟨⟨hwhole.owned, hwhole.apart, hwhole.repeating, hwhole.unsettled, hwhole.broken, hwhole.cut,
    ?_, fun _ => hwhole.registered hregistered, ?_⟩, ?_⟩
  · intro hendless
    exact ⟨(hwhole.endless hendless).1, by simpa [Standing.periodic] using hrepeats⟩
  · intro hw _
    rw [hwhole.periodic hw hregistered, hperiodic]
    simpa [Standing.periodic] using hrepeats.symm
  · simpa [Moment, harmed, hawait] using fun _ => hflight

end Standing

end NotebookEngine
