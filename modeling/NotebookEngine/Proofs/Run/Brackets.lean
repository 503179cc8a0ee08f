/-
**Brackets put the current operation back.**

Entering a cell makes its scope the current operation, and leaving it returns to the operation before.  In
the same way a continuation runs under its own operation and puts back the one that it found.  Such
brackets may lie within one another to any depth, and anything else may be asked of the host between them:
a run may even end within a bracket, after which no cell is entered any more but those that were entered
are left as before.

A cell is left only if its scope is current.  That it is when the bracket closes is what the induction over
the nesting has to carry: whatever lies within a bracket gives back the current operation and all the
operations that are to be returned to.

Main definitions:

* `Host.SameCurrent` — hosts that have the same operation to go on with and the same ones to return to;
* `Host.WellNested`, `Host.Nested` — lists of orders whose brackets are well nested, and hosts that they lead
  to;
* `Guest.Nests` — programs that leave no bracket open when they give control back;
* `Session.Stands`, `Session.Rests` — a session with its current operation and those to be returned to, and
  one that is back at the root operation.

Main results:

* `Host.sameCurrent_perform` — only entering and leaving cells and switching operations move it;
* `Host.WellNested.sameCurrent` — **a well-nested list of orders gives back what it found**;
* `Host.WellNested.findCell_current` — what runs afterwards belongs to the same cell;
* `Session.Stands.runTask`, `Session.Stands.round` — a task gives way to the root operation, and so does a
  round of the driver;
* `Host.brackets_restore` — **all of this in every run**.
-/

import NotebookEngine.Proofs.Run.Driving
import NotebookEngine.Proofs.Run.Outputs
import NotebookEngine.Proofs.Tracking.Ancestry

set_option autoImplicit false

namespace NotebookEngine

namespace Host

/-! ### The current operation -/

/-- Two hosts with the same current operation, and with the same operations to return to. -/
structure SameCurrent (h h' : Host) : Prop where
  current : h'.current = h.current
  saved : h'.saved = h.saved

theorem SameCurrent.refl (h : Host) : SameCurrent h h := ⟨rfl, rfl⟩

theorem SameCurrent.trans {h h' h'' : Host} (s : SameCurrent h h') (t : SameCurrent h' h'') :
    SameCurrent h h'' :=
  ⟨t.current.trans s.current, t.saved.trans s.saved⟩

theorem OnlyTold.sameCurrent {h h' : Host} (t : OnlyTold h h') : SameCurrent h h' := by
  obtain ⟨_, _, _, _, _, rfl⟩ := t
  exact ⟨rfl, rfl⟩

theorem sameCurrent_finish (h : Host) : SameCurrent h h.finish := by
  unfold finish
  split <;> exact ⟨rfl, rfl⟩

/-- The calls that can make another operation current. -/
def Call.moves : Call → Bool
  | .enterCell _ | .leaveCell _ | .setCurrent _ => true
  | _ => false

/-- No other call does. -/
theorem sameCurrent_perform (h : Host) {c : Call} (hc : c.moves = false) :
    SameCurrent h (h.perform c) := by
  cases c with
  | enterCell index => cases hc
  | leaveCell scope => cases hc
  | setCurrent id => cases hc
  | schedule now id delay repeats =>
      simp only [perform, schedule]
      split <;> exact ⟨rfl, rfl⟩
  | cellEnded index =>
      simp only [perform, cellEnded]
      split <;> exact ⟨rfl, rfl⟩
  | captureLocals json =>
      simp only [perform, captureLocals]
      split <;> exact ⟨rfl, rfl⟩
  | write channel text => exact (h.onlyTold_write channel text).sameCurrent
  | display json kind => exact (h.onlyTold_display json kind).sameCurrent
  | report cell? e => exact (h.onlyTold_report cell? e).sameCurrent
  | fail cell? message stack =>
      exact (h.onlyTold_report cell? _).sameCurrent.trans (sameCurrent_finish _)
  | finish => exact h.sameCurrent_finish
  | _ => exact ⟨rfl, rfl⟩

/-- The orders that can make another operation current. -/
def Order.moves : Order → Bool
  | .call c => c.moves
  | .nameCells _ => false

theorem sameCurrent_obey (h : Host) {o : Order} (ho : o.moves = false) : SameCurrent h (h.obey o) := by
  cases o with
  | nameCells ids => exact ⟨rfl, rfl⟩
  | call c => exact h.sameCurrent_perform ho

/-- A cell that is entered makes its scope current, which belongs to it, and keeps what was current. -/
theorem enterCell_some {h : Host} {index scope : Nat} (hscope : (h.enterCell index).1 = some scope) :
    scope = h.nextOperation ∧ (h.enterCell index).2.current = scope ∧
      (h.enterCell index).2.saved = h.current :: h.saved ∧
      (h.enterCell index).2.tracker = h.tracker.bind scope index := by
  unfold enterCell at hscope ⊢
  by_cases hf : h.finished = true
  · rw [if_pos hf] at hscope
    cases hscope
  · rw [if_neg hf] at hscope ⊢
    cases hcell : h.cells[index]? with
    | none =>
        rw [hcell] at hscope
        cases hscope
    | some cell =>
        rw [hcell] at hscope
        cases hscope
        have hcreated := h.tracker.created_scopeKind h.nextOperation h.current
        exact ⟨rfl, rfl, rfl, congrArg (Tracker.bind · h.nextOperation index) hcreated⟩

/-- A cell that is not entered leaves no trace. -/
theorem enterCell_none {h : Host} {index : Nat} (hnone : (h.enterCell index).1 = none) :
    (h.enterCell index).2 = h := by
  rcases h.enterCell_cases index with heq | ⟨hscope, -⟩
  · rw [heq]
  · cases hnone.symm.trans hscope

/-- Leaving a scope that is not current leaves no trace either. -/
theorem leaveCell_elsewhere {h : Host} {scope : Nat} (hne : h.current ≠ scope) : h.leaveCell scope = h :=
  if_neg hne

theorem leaveCell_current (h : Host) :
    h.leaveCell h.current = { h with current := h.saved.headD rootOperation, saved := h.saved.tail } :=
  if_pos rfl

/-! ### Brackets -/

/-- The lists of orders that a host can be given one after the other and whose brackets are well nested:
every scope that is handed out for a cell is left, and every operation that was switched away from is
switched back to.  All other orders may come between them, as well as cells that are not entered and scopes
that are not current. -/
inductive WellNested : Host → List Order → Prop
  | nil (h : Host) : WellNested h []
  | plain (h : Host) {o : Order} (ho : o.moves = false) : WellNested h [o]
  | refused {h : Host} {index : Nat} (hnone : (h.enterCell index).1 = none) :
      WellNested h [.call (.enterCell index)]
  | elsewhere {h : Host} {scope : Nat} (hne : h.current ≠ scope) :
      WellNested h [.call (.leaveCell scope)]
  | cell {h : Host} {index scope : Nat} {body : List Order}
      (hscope : (h.enterCell index).1 = some scope) (hbody : WellNested (h.enterCell index).2 body) :
      WellNested h (.call (.enterCell index) :: body ++ [.call (.leaveCell scope)])
  | under {h : Host} {id : Nat} {body : List Order} (hbody : WellNested (h.setCurrent id) body) :
      WellNested h (.call (.setCurrent id) :: body ++ [.call (.setCurrent h.current)])
  | append {h : Host} {a b : List Order} (ha : WellNested h a) (hb : WellNested (h.follow a) b) :
      WellNested h (a ++ b)

/-- What is done in a bracket is done after it was opened and before it is closed. -/
theorem follow_bracket (h : Host) (opening closing : Call) (body : List Order) :
    h.follow (.call opening :: body ++ [.call closing]) =
      ((h.perform opening).follow body).perform closing :=
  follow_append h (.call opening :: body) [.call closing]

/-- **A well-nested list of orders gives back what it found.** -/
theorem WellNested.sameCurrent {h : Host} {orders : List Order} (hw : h.WellNested orders) :
    SameCurrent h (h.follow orders) := by
  -- By induction on the nesting: when a bracket closes, what it has put away is on top again.
  induction hw with
  | nil h => exact .refl h
  | plain h ho => exact h.sameCurrent_obey ho
  | @refused h index hnone =>
      have hsame : h.follow [.call (.enterCell index)] = h := enterCell_none hnone
      rw [hsame]
      exact .refl h
  | @elsewhere h scope hne =>
      have hsame : h.follow [.call (.leaveCell scope)] = h := leaveCell_elsewhere hne
      rw [hsame]
      exact .refl h
  | @cell h index scope body hscope _ ih =>
      obtain ⟨-, hcurrent, hsaved, -⟩ := enterCell_some hscope
      have htop : scope = ((h.enterCell index).2.follow body).current := by rw [ih.current, hcurrent]
      rw [follow_bracket, perform, perform, htop, leaveCell_current, ih.saved, hsaved]
      exact ⟨rfl, rfl⟩
  | under _ ih =>
      rw [follow_bracket]
      exact ⟨rfl, ih.saved⟩
  | append _ _ iha ihb =>
      rw [follow_append]
      exact iha.trans ihb

/-- Orders whose brackets are well nested lead from the one host to the other. -/
def Nested (h h' : Host) : Prop := ∃ orders, h.WellNested orders ∧ h.follow orders = h'

namespace Nested

variable {h h' h'' : Host}

theorem refl (h : Host) : Nested h h := ⟨[], .nil h, rfl⟩

theorem trans (hn : Nested h h') (hn' : Nested h' h'') : Nested h h'' := by
  obtain ⟨a, ha, rfl⟩ := hn
  obtain ⟨b, hb, rfl⟩ := hn'
  exact ⟨a ++ b, ha.append hb, follow_append h a b⟩

theorem perform (hn : Nested h h') {c : Call} (hc : c.moves = false) : Nested h (h'.perform c) :=
  hn.trans ⟨[.call c], .plain h' hc, rfl⟩

theorem cell {index scope : Nat} (hscope : (h.enterCell index).1 = some scope)
    (hbody : Nested (h.enterCell index).2 h') : Nested h (h'.leaveCell scope) := by
  obtain ⟨body, hw, rfl⟩ := hbody
  exact ⟨_, .cell hscope hw, h.follow_bracket (.enterCell index) (.leaveCell scope) body⟩

theorem under {id : Nat} (hbody : Nested (h.setCurrent id) h') : Nested h (h'.setCurrent h.current) := by
  obtain ⟨body, hw, rfl⟩ := hbody
  exact ⟨_, .under hw, h.follow_bracket (.setCurrent id) (.setCurrent h.current) body⟩

theorem sameCurrent (hn : Nested h h') : SameCurrent h h' := by
  obtain ⟨orders, hw, rfl⟩ := hn
  exact hw.sameCurrent

end Nested

/-! ### What is put out between brackets -/

/-- What runs after a well-nested list of orders belongs to the cell that what ran before belongs to. -/
theorem WellNested.findCell_current {h : Host} {orders : List Order} (hw : h.WellNested orders)
    (hexact : h.tracker.Exact h.nextOperation) {cell : Nat}
    (hcell : h.tracker.findCell h.current = some cell) :
    (h.follow orders).tracker.findCell (h.follow orders).current = some cell := by
  rw [hw.sameCurrent.current, (exact_follow hexact orders).findCell_eq]
  rw [hexact.findCell_eq] at hcell
  exact (stays_follow hexact orders).bound h.current cell hcell

/-- What runs in a cell that was entered belongs to it. -/
theorem findCell_enterCell {h : Host} (hexact : h.tracker.Exact h.nextOperation) {index scope : Nat}
    (hscope : (h.enterCell index).1 = some scope) :
    (h.enterCell index).2.tracker.findCell (h.enterCell index).2.current = some index := by
  have hentered : (h.enterCell index).2.tracker.Exact (h.enterCell index).2.nextOperation :=
    Tracker.exact_change (h.change_enterCell index) hexact
  obtain ⟨-, hcurrent, -, htracker⟩ := enterCell_some hscope
  rw [hentered.findCell_eq, hcurrent, htracker, Tracker.bind, Table.get?_put, if_pos rfl]

end Host

/-- The cell that an event is about. -/
def Event.cell? : Event → Option String
  | .started cell | .ended cell | .display cell .. | .error cell _ => some cell
  | .capped | .completed => none

namespace Host

/-- What is put out is about the cell that the current operation belongs to. -/
theorem cell?_outputOf {h : Host} {o : Order} {e : Event} (ho : h.outputOf o = some e) :
    e.cell? = some h.currentCellId := by
  cases o with
  | nameCells ids => cases ho
  | call c =>
      cases c with
      | display json kind =>
          simp only [outputOf] at ho
          split at ho
          · cases ho
          · cases ho
            rfl
      | write channel text =>
          simp only [outputOf] at ho
          split at ho
          · cases ho
            cases channel <;> rfl
          · cases ho
      | _ => cases ho

end Host

/-! ### Programs -/

/-- A program in whose states its host can be seen, and which leaves no bracket open when it gives control
back: neither after a job, nor after a task, nor after the variables of a cell were captured.  This is asked
of the states that the program can be in while it is driven. -/
structure Guest.Nests {σ : Type} (g : Guest σ) (host : σ → Host) (possible : σ → Prop) : Prop where
  onHost : ∀ {α : Type} (f : Host → α × Host) {s}, possible s →
    possible (g.onHost f s).2 ∧ host (g.onHost f s).2 = (f (host s)).2
  waitUntil : ∀ (moment : Nat) {s}, possible s →
    possible (g.waitUntil moment s) ∧ host (g.waitUntil moment s) = host s
  takeRejections : ∀ {s}, possible s →
    possible (g.takeRejections s).2 ∧ host (g.takeRejections s).2 = host s
  job : ∀ {s}, possible s → possible (g.job s).2 ∧ (host s).Nested (host (g.job s).2)
  task : ∀ (id : Nat) {s}, possible s → possible (g.task id s) ∧ (host s).Nested (host (g.task id s))
  capture : ∀ (i : Nat) {s}, possible s →
    possible (g.capture i s) ∧ (host s).Nested (host (g.capture i s))

namespace Session

variable {σ : Type}

/-- A session in which an operation is current and some are to be returned to. -/
structure Stands (host : σ → Host) (possible : σ → Prop) (current : Nat) (saved : List Nat)
    (x : Session σ) : Prop where
  possible : possible x.state
  current : (host x.state).current = current
  saved : (host x.state).saved = saved

/-- A session that is back at the root operation, unless its program cannot be driven on. -/
def Rests (g : Guest σ) (host : σ → Host) (possible : σ → Prop) (saved : List Nat) (x : Session σ) :
    Prop :=
  ∃ last, x.Stands host possible last saved ∧ (x.isStuck g = false → last = rootOperation)

namespace Stands

variable {g : Guest σ} {host : σ → Host} {possible : σ → Prop} {current : Nat} {saved : List Nat}
  {x : Session σ}

theorem rests (hx : Stands host possible rootOperation saved x) : x.Rests g host possible saved :=
  ⟨rootOperation, hx, fun _ => rfl⟩

/-- What leads to a host with the same current operation. -/
theorem same (hx : Stands host possible current saved x) {y : Session σ} (hy : possible y.state)
    (hsame : (host x.state).SameCurrent (host y.state)) : Stands host possible current saved y :=
  ⟨hy, hsame.current.trans hx.current, hsame.saved.trans hx.saved⟩

theorem tellOwner (hx : Stands host possible current saved x) (news : List Notice) :
    Stands host possible current saved (x.tellOwner g news) := ⟨hx.possible, hx.current, hx.saved⟩

theorem change (hx : Stands host possible current saved x) {f : σ → σ}
    (hf : possible (f x.state) ∧ (host x.state).Nested (host (f x.state))) :
    Stands host possible current saved (x.change f) :=
  hx.same hf.1 hf.2.sameCurrent

/-! #### What the driver does -/

variable (hg : g.Nests host possible)

include hg

theorem ask (hx : Stands host possible current saved x) {α : Type} {f : Host → α × Host}
    (hf : ∀ h : Host, h.SameCurrent (f h).2) : Stands host possible current saved (x.ask g f).2 := by
  obtain ⟨hpossible, hhost⟩ := hg.onHost f hx.possible
  refine hx.same hpossible ?_
  change (host x.state).SameCurrent (host (g.onHost f x.state).2)
  rw [hhost]
  exact hf _

theorem perform (hx : Stands host possible current saved x) {c : Host.Call} (hc : c.moves = false) :
    Stands host possible current saved (x.tell g fun h => h.perform c) :=
  hx.ask hg fun h => h.sameCurrent_perform hc

/-- Another operation is made current, whatever else is done meanwhile. -/
theorem switch (hx : Stands host possible current saved x) {f : Host → Host} {id : Nat}
    (hf : ∀ h : Host, (f h).current = id ∧ (f h).saved = h.saved) :
    Stands host possible id saved (x.tell g f) := by
  obtain ⟨hpossible, hhost⟩ := hg.onHost (fun h => ((), f h)) hx.possible
  obtain ⟨hcurrent, hsaved⟩ := hf (host x.state)
  exact ⟨hpossible, (congrArg Host.current hhost).trans hcurrent,
    (congrArg Host.saved hhost).trans (hsaved.trans hx.saved)⟩

/-- Running all jobs. -/
theorem settle (hx : Stands host possible current saved x) :
    Stands host possible current saved (x.settle g) := by
  refine Settled.settle ⟨?_, ?_, ?_, ?_⟩ hx
  · intro x hx
    obtain ⟨hpossible, hnested⟩ := hg.job hx.possible
    exact hx.same hpossible hnested.sameCurrent
  · exact fun text hx => hx.tellOwner _
  · exact fun message stack hx => hx.perform hg (c := .fail none message stack) rfl
  · intro x hx
    obtain ⟨hpossible, hhost⟩ := hg.takeRejections hx.possible
    exact hx.same hpossible (hhost ▸ .refl _)

theorem flush (hx : Stands host possible current saved x) :
    Stands host possible current saved (x.flush g) :=
  (hx.ask hg fun _ => ⟨rfl, rfl⟩).tellOwner _

theorem endCell (hx : Stands host possible current saved x) (i : Nat) :
    Stands host possible current saved (x.endCell g i) := by
  have hcaptured := hx.change (hg.capture i hx.possible)
  rw [Session.endCell]
  split
  · exact hx
  · dsimp only
    split
    · exact hcaptured
    · exact hcaptured.perform hg (c := .cellEnded i) rfl

theorem endCells (hx : Stands host possible current saved x) :
    Stands host possible current saved (x.endCells g) := by
  refine endCells_keeps (hx.ask hg fun h => h.sameCurrent_perform (c := .pollDrained) rfl)
    (fun i _ y hy => hy.endCell hg i) (fun y hy => hy) fun y hy => hy.ask hg fun h => ?_
  dsimp only
  split
  · exact h.sameCurrent_finish
  · exact .refl h

theorem stall (hx : Stands host possible current saved x) :
    Stands host possible current saved (x.stall g) :=
  perform hg ((hx.ask hg fun h => .refl h).tellOwner _) (c := .finish) rfl

/-- **A task gives way to the root operation**, and keeps what is to be returned to.  A program that cannot
be driven on may be left in the middle of its task. -/
theorem runTask (hx : Stands host possible current saved x) (task : ReadyTask) :
    (x.runTask g task).Rests g host possible saved := by
  have hbegun := hx.switch hg (f := fun h => h.setCurrent task.id) fun _ => ⟨rfl, rfl⟩
  have hrun := hbegun.change (hg.task task.id hbegun.possible)
  rw [Session.runTask]
  dsimp only
  split
  next hstuck => exact ⟨task.id, hrun, fun hgo => absurd (hgo.symm.trans hstuck) Bool.false_ne_true⟩
  next =>
    -- Whether or not the task is scheduled again, nothing is to be returned to because of it.
    have hkept : ∀ (again : Bool) (h : Host),
        (if again then h else h.endOperation task.id).saved = h.saved := by
      intro again h
      cases again <;> rfl
    refine rests ((hrun.settle hg).switch hg fun h => ⟨rfl, ?_⟩)
    exact hkept _ _

/-- Going on with the next task, or waiting for one. -/
theorem next (hx : Stands host possible rootOperation saved x) :
    (x.next g).Rests g host possible saved := by
  refine next_keeps (P := Stands host possible rootOperation saved) (Q := Rests g host possible saved)
    (hx.ask hg fun _ => ⟨rfl, rfl⟩) (fun y task hy => hy.runTask hg task)
    (fun y hy => hy.ask hg fun h => .refl h) ?_ fun y hy => (hy.stall hg).rests
  intro y moment hy
  obtain ⟨hpossible, hhost⟩ := hg.waitUntil moment hy.possible
  exact rests (hy.same hpossible (hhost ▸ .refl _))

/-- **A round of the driver.** -/
theorem round : Round g (Stands host possible rootOperation saved) (Rests g host possible saved) where
  settle := settle hg
  flush := flush hg
  look hx := hx.ask hg fun h => .refl h
  endCells hx _ := (hx.ask hg fun h => .refl h).endCells hg
  next := next hg
  last := rests
  again := by
    rintro x ⟨last, hx, hlast⟩ hgo
    exact hlast hgo ▸ hx

end Stands

end Session

/-! ### Every run -/

/-- **Every bracket puts the current operation back.**  Whatever a host is asked, and whether or not its
run ends meanwhile: a list of orders whose brackets are well nested gives back the current operation and
the operations that are to be returned to.

In every run, what runs in a cell that was just entered belongs to this cell.  If the current operation
belongs to a cell, it does so again after a well-nested list of orders, such as one that enters another cell
and leaves it: the errors of the program are again those of the first cell, and what is put out is about it
and is shown as long as the limit of outputs is not met.

A program that leaves no bracket open when it gives control back runs each task that way: after a task,
unless the program cannot be driven on, the root operation is current, and if nothing was to be returned to
before, nothing is.  The same holds after any number of rounds of the driver. -/
theorem Host.brackets_restore :
    (∀ (h : Host) (orders : List Host.Order), h.WellNested orders →
      (h.follow orders).current = h.current ∧ (h.follow orders).saved = h.saved) ∧
    (∀ (settings : Settings) (file : String) (past : List Host.Order),
      let h := (Host.new settings file).follow past
      (∀ index scope, (h.enterCell index).1 = some scope →
        (h.enterCell index).2.tracker.findCell (h.enterCell index).2.current = some index) ∧
      ∀ index, h.tracker.findCell h.current = some index → ∀ orders, h.WellNested orders →
        let h' := h.follow orders
        h'.tracker.findCell h'.current = some index ∧
        ∀ cell, h'.cells[index]? = some cell → h'.currentCell = some cell ∧
          ∀ o e, h'.outputOf o = some e → e.cell? = some cell ∧
            (h'.capped = false → h'.outputs < h'.settings.maxOutputs → h'.queued o = [e])) ∧
    (∀ {σ : Type} (g : Guest σ) (host : σ → Host) (possible : σ → Prop), g.Nests host possible →
      ∀ x : Session σ, possible x.state → (host x.state).saved = [] →
        (∀ task, (host (x.runTask g task).state).saved = [] ∧
          ((x.runTask g task).isStuck g = false →
            (host (x.runTask g task).state).current = rootOperation)) ∧
        ((host x.state).current = rootOperation → ∀ n,
          (host (x.rounds g n).state).saved = [] ∧
          ((x.rounds g n).isStuck g = false → (host (x.rounds g n).state).current = rootOperation))) := by
  refine ⟨fun h orders hw => ⟨hw.sameCurrent.current, hw.sameCurrent.saved⟩, ?_, ?_⟩
  · intro settings file past h
    have hexact : h.tracker.Exact h.nextOperation := Host.exact_new_follow settings file past
    refine ⟨fun index scope hscope => Host.findCell_enterCell hexact hscope, ?_⟩
    intro index hindex orders hw h'
    have hfind : h'.tracker.findCell h'.current = some index := hw.findCell_current hexact hindex
    refine ⟨hfind, fun cell hcell => ?_⟩
    have hcurrent : h'.currentCell = some cell := by
      rw [Host.currentCell, hfind]
      exact hcell
    refine ⟨hcurrent, fun o e ho => ⟨?_, fun hopen hless => ?_⟩⟩
    · rw [Host.cell?_outputOf ho, Host.currentCellId, hcurrent]
      rfl
    · rw [Host.queued_attempt ho, hopen, if_neg Bool.false_ne_true, if_neg (Nat.not_le_of_lt hless)]
  · intro σ g host possible hg x hpossible hsaved
    have hread : ∀ y : Session σ, y.Rests g host possible [] →
        (host y.state).saved = [] ∧ (y.isStuck g = false → (host y.state).current = rootOperation) := by
      rintro y ⟨last, hy, hlast⟩
      exact ⟨hy.saved, fun hgo => hy.current.trans (hlast hgo)⟩
    have hx : x.Stands host possible (host x.state).current [] := ⟨hpossible, rfl, hsaved⟩
    refine ⟨fun task => hread _ (hx.runTask hg task), fun hroot n => hread _ ?_⟩
    rw [hroot] at hx
    exact (Session.Stands.round hg).rounds n hx

/-- A run in its first cell. -/
def Host.outerCell : Host :=
  (Host.new .default "notebook").follow
    [.nameCells ["outer", "inner"], .call .begin, .call (.enterCell 0)]

/-- A continuation that runs another cell, and a cell that does not exist. -/
def Host.nestedOrders : List Host.Order :=
  [.call (.beginOperation "PROMISE"), .call (.setCurrent 3), .call (.enterCell 1),
    .call (.write .output "inner"), .call (.leaveCell 4), .call (.setCurrent 2), .call (.enterCell 2),
    .call (.endOperation 3)]

/-- Entering the first cell, running an operation there, and leaving it again. -/
def Host.visit (id : Nat) (h : Host) : Host :=
  match (h.enterCell 0).1 with
  | none => h
  | some scope => (((h.enterCell 0).2.setCurrent id).setCurrent scope).leaveCell scope

theorem Host.nested_visit (id : Nat) (h : Host) : h.Nested (h.visit id) := by
  rw [visit]
  split
  next => exact .refl h
  next scope hscope =>
    have hcurrent := (enterCell_some hscope).2.1
    have hinside : (h.enterCell 0).2.Nested (((h.enterCell 0).2.setCurrent id).setCurrent scope) :=
      hcurrent ▸ Nested.under (.refl _)
    exact .cell hscope hinside

/-- A program whose tasks visit the first cell. -/
def Host.visitor : Guest Host where
  onHost f h := f h
  clock _ := 0
  waitUntil _ h := h
  job h := ((false, none), h)
  takeRejections h := ([], h)
  task := Host.visit
  capture _ h := h

theorem Host.nests_visitor : visitor.Nests (fun h => h) fun _ => True where
  onHost _ _ _ := ⟨trivial, rfl⟩
  waitUntil _ h _ := ⟨trivial, .refl h⟩
  takeRejections _ := ⟨trivial, rfl⟩
  job {h} _ := ⟨trivial, .refl h⟩
  task id h _ := ⟨trivial, h.nested_visit id⟩
  capture _ h _ := ⟨trivial, .refl h⟩

/-- After the continuation, what is written is about the first cell again; and a task that has visited a
cell has given way to the root operation. -/
theorem Host.restored_outerCell :
    outerCell.WellNested nestedOrders ∧ (outerCell.follow nestedOrders).current = 2 ∧
      (outerCell.follow nestedOrders).saved = [1] ∧
      (outerCell.follow nestedOrders).queued (.call (.write .output "outer")) =
        [.display "outer" (some "text") (.str "outer")] ∧
      (Session.runTask visitor ⟨7, false⟩
        ⟨(new .default "notebook").setCells ["outer"], #[]⟩).state.current = rootOperation := by
  let begun := outerCell.obey (.call (.beginOperation "PROMISE"))
  have hcell : (begun.setCurrent 3).WellNested
      (.call (.enterCell 1) :: [.call (.write .output "inner")] ++ [.call (.leaveCell 4)]) :=
    .cell rfl (.plain _ rfl)
  have hw : outerCell.WellNested nestedOrders :=
    .append (.plain outerCell (o := .call (.beginOperation "PROMISE")) rfl)
      (.append (.under hcell) (.append (.refused rfl) (.plain _ (o := .call (.endOperation 3)) rfl)))
  obtain ⟨hback, hcells, hruns⟩ := brackets_restore
  obtain ⟨-, hbelongs⟩ :=
    hcells .default "notebook" [.nameCells ["outer", "inner"], .call .begin, .call (.enterCell 0)]
  obtain ⟨-, hput⟩ := (hbelongs 0 rfl nestedOrders hw).2 "outer" rfl
  refine ⟨hw, (hback _ _ hw).1, (hback _ _ hw).2, ?_, ?_⟩
  · exact (hput _ _ rfl).2 rfl (by decide)
  · exact ((hruns visitor _ _ nests_visitor _ trivial rfl).1 ⟨7, false⟩).2 rfl

end NotebookEngine
