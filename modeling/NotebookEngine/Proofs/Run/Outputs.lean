/-
**The limit of outputs.**

Displaying a value and writing to a stream that the run holds are attempts to put something out.  They
share one budget: as many attempts as the settings allow are shown, each by one event; the next one is
told as the moment from which outputs are dropped; and all later ones leave no trace.  A text that is
written while the streams are free passes through and is no attempt.

Everything else that a host can be asked is done as it would be done with any other budget, and leaves
the budget as it is.

Main definitions:

* `Host.outputOf` — the event that an order is to show, if it is an attempt;
* `Host.attempts`, `Host.shownBy` — what the attempts of a list of orders are to show, and the events that
  they queue;
* `Host.withBudget`, `Host.IgnoresBudget` — a host with another budget, and an order to which the budget
  is all the same;
* `Host.Spent` — what the attempts so far say of a host.

Main results:

* `Host.obey_attempt` — the three things that can become of an attempt;
* `Host.ignoresBudget` — what is no attempt ignores the budget;
* `Host.spent_follow`, `Host.shownBy_eq` — every run;
* `Host.outputs_within_limit` — **the attempts within the limit are shown, the next one tells that outputs
  are dropped, and nothing comes of those after it**.
-/

import NotebookEngine.Proofs.Run.Barrier

set_option autoImplicit false

namespace NotebookEngine

namespace Host

/-! ### Attempts -/

/-- What a displayed text shows: its value if it is JSON, and otherwise the text itself. -/
def shownData (json : String) : Json :=
  match Json.parse json with
  | .ok v => v
  | .error _ => .str json

/-- The event that shows a text written to a stream. -/
def writtenEvent (h : Host) (text : String) : Channel → Event
  | .output => .display h.currentCellId (some "text") (.str (Ansi.strip text))
  | .error => .error h.currentCellId text

/-- The event that an order is to show, if it is an attempt to put something out. -/
def outputOf (h : Host) : Order → Option Event
  | .call (.display json kind) =>
    if h.finished then none
    else some (.display h.currentCellId (if kind.isEmpty then none else some kind) (shownData json))
  | .call (.write channel text) =>
    if h.streams.captured then some (h.writtenEvent text channel) else none
  | _ => none

/-- The streams after a text was shown: it passes through as well if the settings say so. -/
def echoed (h : Host) : Order → Streams
  | .call (.write channel text) =>
    if h.settings.echo then h.streams.passThrough channel text else h.streams
  | _ => h.streams

/-- What the attempts of a list of orders are to show, in order. -/
def attempts : Host → List Order → List Event
  | _, [] => []
  | h, o :: orders => (h.outputOf o).toList ++ attempts (h.obey o) orders

/-- The events that the attempts of a list of orders queue. -/
def shownBy : Host → List Order → List Event
  | _, [] => []
  | h, o :: orders =>
    (if (h.outputOf o).isSome then h.queued o else []) ++ shownBy (h.obey o) orders

theorem attempts_concat (h : Host) (orders : List Order) (o : Order) :
    h.attempts (orders ++ [o]) = h.attempts orders ++ ((h.follow orders).outputOf o).toList := by
  induction orders generalizing h with
  | nil => exact List.append_nil _
  | cons p orders ih => rw [List.cons_append, attempts, ih, attempts, follow_cons, List.append_assoc]

theorem shownBy_concat (h : Host) (orders : List Order) (o : Order) :
    h.shownBy (orders ++ [o]) =
      h.shownBy orders ++
        if ((h.follow orders).outputOf o).isSome then (h.follow orders).queued o else [] := by
  induction orders generalizing h with
  | nil => exact List.append_nil _
  | cons p orders ih => rw [List.cons_append, shownBy, ih, shownBy, follow_cons, List.append_assoc]

/-! ### What becomes of an attempt -/

/-- Counting an output drops it silently, drops it and tells so, or uses up one of the budget. -/
theorem countOutput_eq (h : Host) :
    h.countOutput =
      if h.capped then (true, h)
      else if h.settings.maxOutputs ≤ h.outputs then (true, { h.tell .capped with capped := true })
      else (false, { h with outputs := h.outputs + 1 }) := rfl

/-- **An attempt is dropped silently, or dropped with the news that outputs are dropped from now on, or
shown by its event.** -/
theorem obey_attempt {h : Host} {o : Order} {e : Event} (ho : h.outputOf o = some e) :
    h.obey o =
      if h.capped then h
      else if h.settings.maxOutputs ≤ h.outputs then { h.tell .capped with capped := true }
      else { h.tell e with outputs := h.outputs + 1, streams := h.echoed o } := by
  cases o with
  | nameCells ids => cases ho
  | call c =>
      cases c with
      | display json kind =>
          simp only [outputOf] at ho
          split at ho
          next => cases ho
          next hopen =>
            cases ho
            rw [obey, perform, display, if_neg hopen, countOutput_eq]
            by_cases hcapped : h.capped = true
            · rw [if_pos hcapped, if_pos hcapped]
            · by_cases hlimit : h.settings.maxOutputs ≤ h.outputs
              · rw [if_neg hcapped, if_pos hlimit, if_neg hcapped, if_pos hlimit]
              · rw [if_neg hcapped, if_neg hlimit, if_neg hcapped, if_neg hlimit]
                rfl
      | write channel text =>
          simp only [outputOf] at ho
          split at ho
          next hheld =>
            cases ho
            have hheld' : ¬(!h.streams.captured) = true := by simp [hheld]
            rw [obey, perform, write, if_neg hheld', countOutput_eq]
            by_cases hcapped : h.capped = true
            · rw [if_pos hcapped, if_pos hcapped]
            · by_cases hlimit : h.settings.maxOutputs ≤ h.outputs
              · rw [if_neg hcapped, if_pos hlimit, if_neg hcapped, if_pos hlimit]
              · -- Which event shows the text depends on the stream, and whether it passes through on
                -- the settings.
                rw [if_neg hcapped, if_neg hlimit, if_neg hcapped, if_neg hlimit]
                cases hecho : h.settings.echo with
                | true => cases channel <;> simp only [tell, echoed, hecho, if_true] <;> rfl
                | false =>
                    cases channel <;> simp only [tell, echoed, hecho, Bool.false_eq_true, if_false] <;> rfl
          next => cases ho
      | _ => cases ho

/-- The events that an attempt queues: its own, or the news that outputs are dropped, or none. -/
theorem queued_attempt {h : Host} {o : Order} {e : Event} (ho : h.outputOf o = some e) :
    h.queued o =
      if h.capped then [] else if h.settings.maxOutputs ≤ h.outputs then [.capped] else [e] := by
  have hobey := obey_attempt ho
  by_cases hcapped : h.capped = true
  · rw [if_pos hcapped] at hobey ⊢
    exact queued_of_events (congrArg Host.events hobey)
  · rw [if_neg hcapped] at hobey ⊢
    by_cases hlimit : h.settings.maxOutputs ≤ h.outputs
    · rw [if_pos hlimit] at hobey ⊢
      exact queued_of_append (congrArg Host.events hobey)
    · rw [if_neg hlimit] at hobey ⊢
      exact queued_of_append (congrArg Host.events hobey)

/-! ### What ignores the budget -/

/-- The host with another budget. -/
def withBudget (h : Host) (limit outputs : Nat) (capped : Bool) : Host :=
  { h with settings := { h.settings with maxOutputs := limit }, outputs := outputs, capped := capped }

/-- An order that is done in the same way whatever the budget is, and leaves the budget as it is. -/
def IgnoresBudget (h : Host) (o : Order) : Prop :=
  ∀ limit outputs capped,
    (h.withBudget limit outputs capped).obey o = (h.obey o).withBudget limit outputs capped

/-- The budget of a host is its own. -/
theorem withBudget_self (h : Host) :
    h.withBudget h.settings.maxOutputs h.outputs h.capped = h := rfl

theorem report_withBudget (h : Host) (limit outputs : Nat) (capped : Bool) (cell? : Option String)
    (e : RawError) : (h.withBudget limit outputs capped).report cell? e =
      (h.report cell? e).withBudget limit outputs capped := by
  have hsame : (h.withBudget limit outputs capped).finished = h.finished := rfl
  unfold report
  rw [hsame]
  split <;> rfl

theorem finish_withBudget (h : Host) (limit outputs : Nat) (capped : Bool) :
    (h.withBudget limit outputs capped).finish = h.finish.withBudget limit outputs capped := by
  have hsame : (h.withBudget limit outputs capped).finished = h.finished := rfl
  unfold finish
  rw [hsame]
  split <;> rfl

/-- **What is no attempt ignores the budget.** -/
theorem ignoresBudget {h : Host} {o : Order} (ho : h.outputOf o = none) : IgnoresBudget h o := by
  intro limit outputs capped
  cases o with
  | nameCells ids => rfl
  | call c =>
      cases c with
      | display json kind =>
          simp only [outputOf] at ho
          split at ho
          next hover =>
            have hover' : (h.withBudget limit outputs capped).finished = true := hover
            rw [obey, perform, display, if_pos hover', obey, perform, display, if_pos hover]
          next => cases ho
      | write channel text =>
          simp only [outputOf] at ho
          split at ho
          next => cases ho
          next hfree =>
            have hpasses : (!h.streams.captured) = true := by simpa using hfree
            have hpasses' : (!(h.withBudget limit outputs capped).streams.captured) = true := hpasses
            rw [obey, perform, write, if_pos hpasses', obey, perform, write, if_pos hpasses]
            rfl
      | enterCell index =>
          have hover : (h.withBudget limit outputs capped).finished = h.finished := rfl
          have hcells : (h.withBudget limit outputs capped).cells = h.cells := rfl
          simp only [obey, perform, enterCell, hover, hcells]
          split
          · rfl
          · cases h.cells[index]? <;> rfl
      | leaveCell scope =>
          have hcurrent : (h.withBudget limit outputs capped).current = h.current := rfl
          simp only [obey, perform, leaveCell, hcurrent]
          split <;> rfl
      | schedule now id delay repeats =>
          have hover : (h.withBudget limit outputs capped).finished = h.finished := rfl
          simp only [obey, perform, schedule, hover]
          split <;> rfl
      | cellEnded index =>
          have hcells : (h.withBudget limit outputs capped).cells = h.cells := rfl
          simp only [obey, perform, cellEnded, hcells]
          cases h.cells[index]? <;> rfl
      | captureLocals json =>
          simp only [obey, perform, captureLocals]
          split <;> rfl
      | report cell? e => exact h.report_withBudget limit outputs capped cell? e
      | fail cell? message stack =>
          simp only [obey, perform, fail]
          rw [report_withBudget, finish_withBudget]
      | finish => exact h.finish_withBudget limit outputs capped
      | _ => rfl

namespace IgnoresBudget

variable {h : Host} {o : Order}

/-- It queues the same events whatever the budget is. -/
theorem queued_eq (hi : IgnoresBudget h o) (limit outputs : Nat) (capped : Bool) :
    (h.withBudget limit outputs capped).queued o = h.queued o := by
  rw [queued, hi limit outputs capped]
  rfl

/-- It uses nothing of the budget. -/
theorem keeps (hi : IgnoresBudget h o) :
    (h.obey o).settings.maxOutputs = h.settings.maxOutputs ∧ (h.obey o).outputs = h.outputs ∧
      (h.obey o).capped = h.capped := by
  have hsame := hi h.settings.maxOutputs h.outputs h.capped
  rw [withBudget_self] at hsame
  rw [hsame]
  exact ⟨rfl, rfl, rfl⟩

end IgnoresBudget

/-! ### Every run -/

/-- What `n` attempts say of a host with a limit: how many were shown, and whether outputs are dropped. -/
structure Spent (limit n : Nat) (h : Host) : Prop where
  limit_eq : h.settings.maxOutputs = limit
  outputs_eq : h.outputs = min n limit
  capped_eq : h.capped = decide (limit < n)

theorem spent_new (settings : Settings) (file : String) :
    Spent settings.maxOutputs 0 (new settings file) :=
  ⟨rfl, (Nat.zero_min _).symm, rfl⟩

namespace Spent

variable {limit n : Nat} {h : Host} {o : Order} {e : Event}

/-- Outputs are dropped silently exactly if the limit was exceeded before. -/
theorem capped_iff (hs : Spent limit n h) : h.capped = true ↔ limit < n := by
  rw [hs.capped_eq, decide_eq_true_eq]

/-- The budget is used up exactly if there were as many attempts as the limit allows. -/
theorem full_iff (hs : Spent limit n h) : h.settings.maxOutputs ≤ h.outputs ↔ limit ≤ n := by
  rw [hs.limit_eq, hs.outputs_eq]
  omega

/-- One more attempt is shown, or tells that outputs are dropped, or comes to nothing, depending on how
many came before. -/
theorem queued_eq (hs : Spent limit n h) (ho : h.outputOf o = some e) :
    h.queued o = if n < limit then [e] else if n = limit then [.capped] else [] := by
  simp only [queued_attempt ho, hs.capped_iff, hs.full_iff]
  split
  next hover => rw [if_neg (by omega), if_neg (by omega)]
  next hnot =>
    split
    next hfull => rw [if_neg (by omega), if_pos (by omega)]
    next hroom => rw [if_pos (by omega)]

/-- It passes through as well only if it is shown. -/
theorem streams_eq (hs : Spent limit n h) (ho : h.outputOf o = some e) :
    (h.obey o).streams = if n < limit then h.echoed o else h.streams := by
  rw [obey_attempt ho]
  simp only [hs.capped_iff, hs.full_iff]
  split
  next hover => rw [if_neg (by omega)]
  next =>
    split
    next hfull =>
      rw [if_neg (by omega)]
      rfl
    next hroom => rw [if_pos (by omega)]

/-- One more attempt. -/
theorem attempt (hs : Spent limit n h) (ho : h.outputOf o = some e) :
    Spent limit (n + 1) (h.obey o) := by
  have hcapped := hs.capped_iff
  have hfull := hs.full_iff
  obtain ⟨hlimit, houtputs, hflag⟩ := hs
  rw [obey_attempt ho]
  split
  next hover =>
    have hlt := hcapped.1 hover
    refine ⟨hlimit, ?_, ?_⟩
    · rw [houtputs]
      omega
    · rw [hover, decide_eq_true (Nat.lt_succ_of_lt hlt)]
  next hnot =>
    have hle : ¬limit < n := fun hlt => hnot (hcapped.2 hlt)
    split
    next hnone =>
      have hreached := hfull.1 hnone
      refine ⟨hlimit, ?_, ?_⟩
      · change h.outputs = min (n + 1) limit
        rw [houtputs]
        omega
      · exact (decide_eq_true (by omega)).symm
    next hroom =>
      have hless : ¬limit ≤ n := fun hreached => hroom (hfull.2 hreached)
      refine ⟨hlimit, ?_, ?_⟩
      · change h.outputs + 1 = min (n + 1) limit
        rw [houtputs]
        omega
      · change h.capped = decide (limit < n + 1)
        rw [hflag, decide_eq_false hle, decide_eq_false (by omega)]

/-- An order that is no attempt. -/
theorem other (hs : Spent limit n h) (ho : h.outputOf o = none) : Spent limit n (h.obey o) := by
  obtain ⟨hlimit, houtputs, hcapped⟩ := (ignoresBudget ho).keeps
  exact ⟨hlimit.trans hs.limit_eq, houtputs.trans hs.outputs_eq, hcapped.trans hs.capped_eq⟩

end Spent

theorem spent_follow (settings : Settings) (file : String) (orders : List Order) :
    Spent settings.maxOutputs ((new settings file).attempts orders).length
      ((new settings file).follow orders) := by
  induction orders using List.reverseRecOn with
  | nil => exact spent_new settings file
  | append_singleton orders o ih =>
      rw [follow_append, follow_cons, follow_nil, attempts_concat, List.length_append]
      cases ho : ((new settings file).follow orders).outputOf o with
      | none => exact ih.other ho
      | some e => exact ih.attempt ho

/-- The attempts of a run queue the events of those within the limit, in order, and then, if there are
more, the news that outputs are dropped. -/
theorem shownBy_eq (settings : Settings) (file : String) (orders : List Order) :
    (new settings file).shownBy orders =
      ((new settings file).attempts orders).take settings.maxOutputs ++
        if settings.maxOutputs < ((new settings file).attempts orders).length then [.capped]
        else [] := by
  induction orders using List.reverseRecOn with
  | nil => simp [shownBy, attempts]
  | append_singleton orders o ih =>
      have hspent := spent_follow settings file orders
      rw [shownBy_concat, attempts_concat, ih]
      cases ho : ((new settings file).follow orders).outputOf o with
      | none => simp
      | some e =>
          rw [hspent.queued_eq ho, Option.isSome_some, if_pos rfl, Option.toList_some,
            List.length_append, List.length_singleton]
          generalize (new settings file).attempts orders = shown
          by_cases hless : shown.length < settings.maxOutputs
          · -- All attempts so far are shown, and so is this one.
            have hnext : ¬settings.maxOutputs < shown.length + 1 := by omega
            have hnow : ¬settings.maxOutputs < shown.length := by omega
            rw [if_pos hless, if_neg hnow, if_neg hnext, List.take_of_length_le (by omega),
              List.take_of_length_le (by rw [List.length_append, List.length_singleton]; omega),
              List.append_nil, List.append_nil]
          · have hnext : settings.maxOutputs < shown.length + 1 := by omega
            rw [if_neg hless, if_pos hnext, List.take_append_of_le_length (by omega)]
            by_cases hequal : shown.length = settings.maxOutputs
            · rw [if_neg (by omega), if_pos hequal, List.append_nil]
            · rw [if_pos (by omega), if_neg hequal, List.append_nil]

/-- **The attempts within the limit are shown, the next one tells that outputs are dropped, and nothing
comes of those after it.**  Take any orders that do not end the run.  Its attempts are the values that are
displayed and the texts that are written while the streams are held.  With fewer than the limit before
it, an attempt queues its event, and passes through as well if it is a text and the settings say so; with
as many as the limit, it queues the news that outputs are dropped and passes nothing through; with more,
it does neither.  So the attempts of the whole run queue the events of the first of them, in order, and
then at most that news, and outputs are dropped exactly if there were more attempts than the limit allows.
Every other order is done as with any other budget and leaves the budget alone: cells are entered and
errors reported all the same. -/
theorem outputs_within_limit (settings : Settings) (file : String) (orders : List Order)
    (hopen : orders.any Order.ends = false) :
    let start := new settings file
    (∀ before o after, orders = before ++ o :: after →
      let h := start.follow before
      let n := (start.attempts before).length
      (∀ e, h.outputOf o = some e →
        h.queued o =
            (if n < settings.maxOutputs then [e]
            else if n = settings.maxOutputs then [.capped] else []) ∧
          (h.obey o).streams = if n < settings.maxOutputs then h.echoed o else h.streams) ∧
      (h.outputOf o = none →
        IgnoresBudget h o ∧
          ∀ limit outputs capped, (h.withBudget limit outputs capped).queued o = h.queued o) ∧
      (∀ json kind, (h.outputOf (.call (.display json kind))).isSome = true) ∧
      (∀ channel text,
        (h.outputOf (.call (.write channel text))).isSome = h.streams.captured) ∧
      (∀ index cell, h.cells[index]? = some cell →
        h.queued (.call (.enterCell index)) = [.started cell]) ∧
      ∀ cell? error, ∃ cell text, h.queued (.call (.report cell? error)) = [.error cell text]) ∧
    (start.shownBy orders =
      (start.attempts orders).take settings.maxOutputs ++
        if settings.maxOutputs < (start.attempts orders).length then [.capped] else []) ∧
    ((start.follow orders).capped = true ↔
      settings.maxOutputs + 1 ≤ (start.attempts orders).length) := by
  intro start
  refine ⟨?_, shownBy_eq settings file orders, ?_⟩
  · rintro before o after rfl h n
    have hspent : Spent settings.maxOutputs n h := spent_follow settings file before
    have hgoes : h.finished = false := by
      have hbefore : before.any Order.ends = false := by
        rw [List.any_append, Bool.or_eq_false_iff] at hopen
        exact hopen.1
      exact (totals_follow settings file before).finished.trans hbefore
    refine ⟨?_, ?_, ?_, ?_, ?_, ?_⟩
    · intro e ho
      exact ⟨hspent.queued_eq ho, hspent.streams_eq ho⟩
    · intro ho
      exact ⟨ignoresBudget ho, (ignoresBudget ho).queued_eq⟩
    · intro json kind
      simp [outputOf, hgoes]
    · intro channel text
      cases hheld : h.streams.captured <;> simp [outputOf, hheld]
    · intro index cell hcell
      exact queued_enterCell hgoes hcell
    · intro cell? error
      exact queued_report hgoes cell? error
  · exact (spent_follow settings file orders).capped_iff

/-- A run that shows one output: a text written too early, and three attempts. -/
def noisyOrders : List Order :=
  [.nameCells ["cell"], .call (.write .output "early"), .call .begin, .call (.enterCell 0),
    .call (.write .output "first"), .call (.report none default), .call (.write .error "second"),
    .call (.write .output "third")]

/-- With a limit of one, the first attempt is shown and the second tells that outputs are dropped. -/
theorem outputs_noisyOrders :
    noisyOrders.any Order.ends = false ∧
      ((new ⟨1, true, none⟩ "notebook").attempts noisyOrders).length = 3 ∧
      ((new ⟨1, true, none⟩ "notebook").shownBy noisyOrders).length = 2 ∧
      ((new ⟨1, true, none⟩ "notebook").follow noisyOrders).capped = true := by
  have hopen : noisyOrders.any Order.ends = false := by rfl
  have hthree : ((new ⟨1, true, none⟩ "notebook").attempts noisyOrders).length = 3 := by rfl
  obtain ⟨-, hshown, hcapped⟩ := outputs_within_limit ⟨1, true, none⟩ "notebook" noisyOrders hopen
  refine ⟨hopen, hthree, ?_, hcapped.2 ?_⟩
  · rw [hshown, List.length_append, List.length_take, hthree]
    rfl
  · rw [hthree]
    exact Nat.le_of_ble_eq_true rfl

end Host

end NotebookEngine
