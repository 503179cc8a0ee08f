/-
**The life of a cell.**

A cell is entered, drains once no operation of it is in flight, and is then told to have ended.  The host
keeps one mark for each of its cells that it was entered, and one that it was found drained; whether
operations are in flight it asks the tracker.  It does not know whether a cell was told to have ended:
that is for the driver of the run to see to, which tells it of each cell that was found drained.

Whatever the order of calls, each cell is found drained at most once, after it was entered, and in a
moment in which it has no operation in flight; and no cell for which that is so is overlooked.

Main definitions:

* `Milestone` — what can happen to a cell;
* `Host.milestones`, `Host.history` — what happens to cells by a call, and during a list of calls;
* `Milestone.due` — a driver that tells of the ends of the cells that were found drained, and of no
  other;
* `Host.Roll` — the marks of a host and what happened so far.

Main results:

* `Host.Roll.perform` — what every call keeps;
* `Host.queued_aboutCell` — the events about cells that a call queues;
* `Host.Roll.mem_pollDrained` — which cells are found drained;
* `Host.cell_lifecycle` — **the life of a cell in every run**.
-/

import NotebookEngine.Proofs.Run.Barrier
import NotebookEngine.Proofs.Tracking.Ancestry

set_option autoImplicit false

namespace NotebookEngine

/-! ### Milestones -/

/-- What can happen to a cell, given by its place among the cells. -/
inductive Milestone where
  | entered (cell : Nat)
  | drained (cell : Nat)
  | ended (cell : Nat)
  deriving DecidableEq

namespace Milestone

/-- The event that the owner of a run is told, if the cell exists. -/
def event? (ids : List String) : Milestone → Option Event
  | .entered i => ids[i]?.map .started
  | .ended i => ids[i]?.map .ended
  | .drained _ => none

/-- Whether a cell may be told to have ended: it was found drained more often than it was told so. -/
def isDue (past : List Milestone) : Milestone → Bool
  | .ended i => past.count (.ended i) < past.count (.drained i)
  | _ => true

/-- Whether that is so at every end that is told after a given past. -/
def due : List Milestone → List Milestone → Bool
  | _, [] => true
  | past, m :: later => m.isDue past && due (past ++ [m]) later

theorem due_append (past ms later : List Milestone) :
    due past (ms ++ later) = (due past ms && due (past ++ ms) later) := by
  induction ms generalizing past with
  | nil => rw [List.nil_append, List.append_nil, due, Bool.true_and]
  | cons m ms ih =>
      rw [List.cons_append, due, due, ih, Bool.and_assoc, List.append_assoc, List.singleton_append]

/-- No cell was told to have ended more often than it was found drained. -/
theorem count_ended_le {ms : List Milestone} (h : due [] ms = true) (i : Nat) :
    ms.count (.ended i) ≤ ms.count (.drained i) := by
  induction ms using List.reverseRecOn with
  | nil => exact Nat.le_refl 0
  | append_singleton ms m ih =>
      rw [due_append, Bool.and_eq_true] at h
      obtain ⟨hms, hm⟩ := h
      have hle := ih hms
      rw [due, Bool.and_eq_true] at hm
      rw [List.count_append, List.count_append]
      cases m with
      | entered j => simpa using hle
      | drained j =>
          have hended : [Milestone.drained j].count (.ended i) = 0 := by simp
          omega
      | ended j =>
          by_cases hij : j = i
          · subst hij
            have hlt : ms.count (.ended j) < ms.count (.drained j) := by simpa [isDue] using hm.1
            have hone : [Milestone.ended j].count (.ended j) = 1 := by simp
            omega
          · have hnone : [Milestone.ended j].count (.ended i) = 0 := by simp [hij]
            omega

end Milestone

/-- Whether an event says that a cell has started or ended. -/
def Event.isAboutCell : Event → Bool
  | .started _ | .ended _ => true
  | _ => false

/-- What is put out says nothing about the start or the end of a cell. -/
theorem Event.isAboutCell_of_isOutput {e : Event} (h : e.isOutput = true) : e.isAboutCell = false := by
  cases e with
  | started cell => cases h
  | ended cell => cases h
  | _ => rfl

namespace Host

/-- What happens to cells by a call. -/
def milestones (h : Host) : Call → List Milestone
  | .enterCell i => if (h.enterCell i).1.isSome then [.entered i] else []
  | .pollDrained => h.pollDrained.1.map .drained
  | .cellEnded i => [.ended i]
  | _ => []

/-- What happens to cells during a list of calls. -/
def history : Host → List Call → List Milestone
  | _, [] => []
  | h, c :: calls => h.milestones c ++ history (h.perform c) calls

theorem history_append (h : Host) (a b : List Call) :
    h.history (a ++ b) = h.history a ++ (h.after a).history b := by
  induction a generalizing h with
  | nil => rfl
  | cons c a ih => rw [List.cons_append, history, ih, history, after_cons, List.append_assoc]

/-! ### The marks of a host -/

/-- Whether a place of a list is marked; there are no marks beyond its end. -/
def isMarked (marks : List Bool) (i : Nat) : Bool := marks[i]?.getD false

theorem isMarked_set {marks : List Bool} {i : Nat} (hi : i < marks.length) (j : Nat) :
    isMarked (marks.set i true) j = (isMarked marks j || decide (j = i)) := by
  rw [isMarked, isMarked, List.getElem?_set]
  by_cases hij : i = j
  · subst hij
    simp [hi]
  · simp [hij, Ne.symm hij]

theorem length_markAll (marks : List Bool) (is : List Nat) :
    (is.foldl (fun ms i => ms.set i true) marks).length = marks.length := by
  induction is generalizing marks with
  | nil => rfl
  | cons i is ih => rw [List.foldl_cons, ih, List.length_set]

theorem isMarked_markAll {marks : List Bool} {is : List Nat} (his : ∀ i ∈ is, i < marks.length)
    (j : Nat) :
    isMarked (is.foldl (fun ms i => ms.set i true) marks) j =
      (isMarked marks j || decide (j ∈ is)) := by
  induction is generalizing marks with
  | nil => simp
  | cons i is ih =>
      have hi : i < marks.length := his i List.mem_cons_self
      have hrest : ∀ k ∈ is, k < (marks.set i true).length := by
        intro k hk
        rw [List.length_set]
        exact his k (List.mem_cons_of_mem i hk)
      rw [List.foldl_cons, ih hrest, isMarked_set hi, Bool.or_assoc]
      simp

/-- The marks of a host agree with what happened: the cells that were entered are marked so, those that
were found drained are marked so and were found only once, after they had been entered. -/
structure Roll (ids : List String) (past : List Milestone) (h : Host) : Prop where
  cells_eq : h.cells = ids
  started_length : h.started.length = ids.length
  drained_length : h.drained.length = ids.length
  started_iff : ∀ i, isMarked h.started i = true ↔ .entered i ∈ past
  count_drained : ∀ i, past.count (.drained i) = (isMarked h.drained i).toNat
  entered_first : ∀ before, before <+: past → ∀ i, .drained i ∈ before → .entered i ∈ before

theorem roll_setCells (h : Host) (ids : List String) : Roll ids [] (h.setCells ids) := by
  have hnone : ∀ i, isMarked (List.replicate ids.length false) i = false := by
    intro i
    rw [isMarked, List.getElem?_replicate]
    split <;> rfl
  refine ⟨rfl, List.length_replicate, List.length_replicate, ?_, ?_, ?_⟩
  · intro i
    simp [setCells, hnone]
  · intro i
    simp [setCells, hnone]
  · intro before hbefore i hi
    rw [List.prefix_nil.1 hbefore] at hi
    cases hi

namespace Roll

variable {ids : List String} {past : List Milestone} {h : Host}

theorem drained_iff (hr : Roll ids past h) (i : Nat) :
    isMarked h.drained i = true ↔ .drained i ∈ past := by
  rw [← List.count_pos_iff, hr.count_drained]
  cases isMarked h.drained i <;> simp

/-- A later host, whose marks have changed by what happened. -/
theorem more (hr : Roll ids past h) {h' : Host} {ms : List Milestone} (hcells : h'.cells = h.cells)
    (hstarted : h'.started.length = h.started.length)
    (hdrained : h'.drained.length = h.drained.length)
    (hentered : ∀ i, isMarked h'.started i = true ↔ isMarked h.started i = true ∨ .entered i ∈ ms)
    (hcount : ∀ i, (isMarked h.drained i).toNat + ms.count (.drained i) =
      (isMarked h'.drained i).toNat)
    (hfirst : ∀ i, .drained i ∈ ms → .entered i ∈ past) : Roll ids (past ++ ms) h' where
  cells_eq := hcells.trans hr.cells_eq
  started_length := hstarted.trans hr.started_length
  drained_length := hdrained.trans hr.drained_length
  started_iff := by
    intro i
    rw [hentered, hr.started_iff, List.mem_append]
  count_drained := by
    intro i
    rw [List.count_append, hr.count_drained, hcount]
  entered_first := by
    intro before hbefore i hi
    rcases List.prefix_or_prefix_of_prefix hbefore (List.prefix_append past ms) with hold | hnew
    · exact hr.entered_first before hold i hi
    · -- What is found drained by the call was entered before it.
      obtain ⟨new, rfl⟩ := hnew
      refine List.mem_append_left new ?_
      rcases List.mem_append.1 hi with hi | hi
      · exact hr.entered_first past (List.prefix_refl past) i hi
      · exact hfirst i (((List.prefix_append_right_inj past).1 hbefore).subset hi)

/-- A call that notes nothing about cells. -/
theorem other (hr : Roll ids past h) {c : Call} (hc : c.isNoted = false) :
    Roll ids (past ++ h.milestones c) (h.perform c) := by
  have hends : ∀ m ∈ h.milestones c, ∃ i, m = .ended i := by
    intro m hm
    cases c with
    | cellEnded i => exact ⟨i, List.mem_singleton.1 hm⟩
    | enterCell i => cases hc
    | pollDrained => cases hc
    | _ => cases hm
  have hentered : ∀ i, .entered i ∉ h.milestones c := by
    intro i hi
    obtain ⟨j, hj⟩ := hends _ hi
    cases hj
  have hdrained : ∀ i, .drained i ∉ h.milestones c := by
    intro i hi
    obtain ⟨j, hj⟩ := hends _ hi
    cases hj
  have hsame := h.sameRoll_perform hc
  refine hr.more hsame.cells (congrArg List.length hsame.started)
    (congrArg List.length hsame.drained) ?_ ?_ ?_
  · intro i
    rw [hsame.started]
    simp [hentered i]
  · intro i
    rw [hsame.drained, List.count_eq_zero.2 (hdrained i), Nat.add_zero]
  · intro i hi
    exact absurd hi (hdrained i)

theorem enterCell (hr : Roll ids past h) (index : Nat) :
    Roll ids (past ++ h.milestones (.enterCell index)) (h.perform (.enterCell index)) := by
  simp only [milestones, perform, Host.enterCell]
  by_cases hover : h.finished = true
  · rw [if_pos hover]
    simpa using hr
  · rw [if_neg hover]
    cases hcell : h.cells[index]? with
    | none => simpa using hr
    | some cell =>
        have hlt : index < h.started.length := by
          rw [hr.started_length, ← hr.cells_eq]
          exact (List.getElem?_eq_some_iff.1 hcell).1
        change Roll ids (past ++ [.entered index]) _
        refine hr.more rfl (List.length_set ..) rfl ?_ ?_ ?_
        · intro i
          rw [isMarked_set hlt]
          simp
        · intro i
          have hnone : [Milestone.entered index].count (.drained i) = 0 := by simp
          rw [hnone]
          rfl
        · intro i hi
          simp at hi

/-- The cells that are found drained: those that were entered, were not found drained before, and of
which the tracker says that they have drained. -/
theorem mem_pollDrained (hr : Roll ids past h) (i : Nat) :
    i ∈ h.pollDrained.1 ↔
      .entered i ∈ past ∧ .drained i ∉ past ∧ h.tracker.isDrained i = true := by
  have hrange : isMarked h.started i = true → i < h.cells.length := by
    intro hstarted
    rw [hr.cells_eq, ← hr.started_length]
    by_contra hge
    rw [isMarked, List.getElem?_eq_none (by omega)] at hstarted
    cases hstarted
  have hnewly : h.isNewlyDrained i = true ↔
      isMarked h.started i = true ∧ ¬isMarked h.drained i = true ∧ h.tracker.isDrained i = true := by
    simp [isNewlyDrained, isMarked, and_assoc]
  rw [pollDrained, List.mem_filter, List.mem_range, hnewly, ← hr.started_iff, ← hr.drained_iff]
  constructor
  · rintro ⟨-, hi⟩
    exact hi
  · intro hi
    exact ⟨hrange hi.1, hi⟩

theorem pollDrained (hr : Roll ids past h) :
    Roll ids (past ++ h.milestones .pollDrained) (h.perform .pollDrained) := by
  have hlt : ∀ i ∈ h.pollDrained.1, i < h.drained.length := by
    intro i hi
    rw [hr.drained_length, ← hr.cells_eq]
    exact List.mem_range.1 (List.mem_filter.1 hi).1
  have honce : h.pollDrained.1.Nodup := List.nodup_range.filter _
  change Roll ids (past ++ h.pollDrained.1.map .drained) _
  refine hr.more rfl rfl (length_markAll _ _) ?_ ?_ ?_
  · intro i
    simp [Host.perform, Host.pollDrained]
  · intro i
    have hmarks : isMarked (h.perform .pollDrained).drained i =
        (isMarked h.drained i || decide (i ∈ h.pollDrained.1)) := isMarked_markAll hlt i
    rw [hmarks, List.count_map_of_injective _ _ fun j k hjk => Milestone.drained.inj hjk]
    by_cases hi : i ∈ h.pollDrained.1
    · -- It was not marked before.
      have hunmarked : isMarked h.drained i = false := by
        rw [Bool.eq_false_iff, ne_eq, hr.drained_iff]
        exact ((hr.mem_pollDrained i).1 hi).2.1
      rw [List.count_eq_one_of_mem honce hi, hunmarked, decide_eq_true hi]
      rfl
    · rw [List.count_eq_zero.2 hi, decide_eq_false hi, Bool.or_false, Nat.add_zero]
  · intro i hi
    obtain ⟨j, hj, hji⟩ := List.mem_map.1 hi
    cases hji
    exact ((hr.mem_pollDrained i).1 hj).1

theorem perform (hr : Roll ids past h) (c : Call) :
    Roll ids (past ++ h.milestones c) (h.perform c) := by
  cases hc : c.isNoted with
  | false => exact hr.other hc
  | true =>
      cases c with
      | enterCell index => exact hr.enterCell index
      | pollDrained => exact hr.pollDrained
      | endText =>
          refine hr.more rfl rfl rfl ?_ ?_ ?_
          · intro i
            simp [Host.perform, endText, milestones]
          · intro i
            rfl
          · intro i hi
            cases hi
      | _ => cases hc

end Roll

theorem roll_after {ids : List String} {past : List Milestone} {h : Host} (hr : Roll ids past h)
    (calls : List Call) : Roll ids (past ++ h.history calls) (h.after calls) := by
  induction calls generalizing h past with
  | nil => simpa [history] using hr
  | cons c calls ih =>
      have hnext := ih (hr.perform c)
      rw [List.append_assoc] at hnext
      exact hnext

/-! ### Events about cells -/

theorem filter_aboutCell_of_tells {h : Host} {o : Order}
    (ht : ∃ news, Tells h (h.obey o) news ∧ ∀ e ∈ news, e.isOutput = true) :
    (h.queued o).filter Event.isAboutCell = [] := by
  obtain ⟨news, ht, hnews⟩ := ht
  rw [ht.queued_eq, List.filter_eq_nil_iff]
  intro e he
  rw [Event.isAboutCell_of_isOutput (hnews e he)]
  exact Bool.false_ne_true

/-- **The events about cells that a call queues are those of what happens to cells by it.** -/
theorem queued_aboutCell (h : Host) (c : Call) :
    (h.queued (.call c)).filter Event.isAboutCell =
      (h.milestones c).filterMap (Milestone.event? h.cells) := by
  have hsilent : ∀ c : Call, (h.perform c).events = h.events →
      (h.milestones c).filterMap (Milestone.event? h.cells) = [] →
        (h.queued (.call c)).filter Event.isAboutCell =
          (h.milestones c).filterMap (Milestone.event? h.cells) := by
    intro c hsame hnone
    rw [queued_of_events (o := .call c) hsame, hnone]
    rfl
  cases c with
  | enterCell index =>
      simp only [queued, obey, perform, milestones, Host.enterCell]
      split
      · simp
      · cases hcell : h.cells[index]? with
        | none => simp
        | some cell => simp [tell, Event.isAboutCell, Milestone.event?, hcell]
  | cellEnded index =>
      simp only [queued, obey, perform, milestones, cellEnded]
      cases hcell : h.cells[index]? with
      | none => simp [Milestone.event?, hcell]
      | some cell => simp [tell, Event.isAboutCell, Milestone.event?, hcell]
  | pollDrained =>
      refine hsilent _ rfl ?_
      rw [milestones, List.filterMap_map]
      exact List.filterMap_eq_nil_iff.2 fun _ _ => rfl
  | takeEvents =>
      rw [queued]
      exact congrArg (List.filter _) List.drop_nil
  | write channel text => exact filter_aboutCell_of_tells (h.tells_write channel text)
  | display json kind => exact filter_aboutCell_of_tells (h.tells_display json kind)
  | report cell? e =>
      cases hover : h.finished with
      | true => exact hsilent _ (by rw [perform, report_of_finished hover]) rfl
      | false =>
          obtain ⟨cell, text, hqueued⟩ := queued_report hover cell? e
          rw [hqueued]
          rfl
  | fail cell? message stack =>
      cases hover : h.finished with
      | true => exact hsilent _ (by rw [perform, fail_of_finished hover]) rfl
      | false =>
          obtain ⟨cell, text, hfail, -⟩ := events_fail hover cell? message stack
          rw [queued_of_append (o := .call (.fail cell? message stack)) hfail]
          rfl
  | finish =>
      cases hover : h.finished with
      | true => exact hsilent _ (by rw [perform, finish_of_finished hover]) rfl
      | false =>
          rw [queued_of_append (o := .call .finish) (events_finish hover)]
          rfl
  | leaveCell scope =>
      refine hsilent _ ?_ rfl
      simp only [perform, leaveCell]
      split <;> rfl
  | schedule now id delay repeats =>
      refine hsilent _ ?_ rfl
      simp only [perform, schedule]
      split <;> rfl
  | captureLocals json =>
      refine hsilent _ ?_ rfl
      simp only [perform, captureLocals]
      split <;> rfl
  | _ => exact hsilent _ rfl rfl

/-- So it is for a list of calls. -/
theorem toldBy_aboutCell (h : Host) (calls : List Call) :
    (h.toldBy (fun _ => true) (calls.map .call)).filter Event.isAboutCell =
      (h.history calls).filterMap (Milestone.event? h.cells) := by
  induction calls generalizing h with
  | nil => rfl
  | cons c calls ih =>
      have hrest := ih (h.perform c)
      rw [h.cells_perform c] at hrest
      rw [List.map_cons, toldBy, if_pos rfl, history, List.filter_append, List.filterMap_append,
        h.queued_aboutCell c]
      exact congrArg _ hrest

/-! ### The end of the text -/

theorem textEnded_obey (h : Host) (o : Order) :
    (h.obey o).textEnded = true ↔ h.textEnded = true ∨ .call .endText = o := by
  have hother : ∀ {o : Order}, .call .endText ≠ o → (h.obey o).textEnded = h.textEnded →
      ((h.obey o).textEnded = true ↔ h.textEnded = true ∨ .call .endText = o) := by
    intro o hne hsame
    rw [hsame, or_iff_left hne]
  cases o with
  | nameCells ids => exact hother (by simp) rfl
  | call c =>
      cases hc : c.isNoted with
      | false =>
          refine hother ?_ (h.sameRoll_perform hc).textEnded
          rintro ⟨⟩
          cases hc
      | true =>
          cases c with
          | enterCell index =>
              refine hother (by simp) ?_
              simp only [obey, perform, Host.enterCell]
              split
              · rfl
              · split <;> rfl
          | pollDrained => exact hother (by simp) rfl
          | endText => simp [obey, perform, endText]
          | _ => cases hc

/-- The text has ended exactly if the host was told so. -/
theorem textEnded_follow (h : Host) (orders : List Order) :
    (h.follow orders).textEnded = true ↔ h.textEnded = true ∨ .call .endText ∈ orders := by
  induction orders generalizing h with
  | nil => simp
  | cons o orders ih => rw [follow_cons, ih, textEnded_obey, List.mem_cons, or_assoc]

/-! ### Every run -/

/-- The host of a run that names its cells after some orders. -/
def enrolled (settings : Settings) (file : String) (before : List Order) (ids : List String) : Host :=
  ((new settings file).follow before).setCells ids

theorem after_eq_follow (h : Host) (calls : List Call) : h.after calls = h.follow (calls.map .call) := by
  induction calls generalizing h with
  | nil => rfl
  | cons c calls ih => exact ih (h.perform c)

section Runs

variable (settings : Settings) (file : String) (before : List Order) (ids : List String)
  (calls : List Call)

/-- A run is a list of orders. -/
theorem enrolled_after : (enrolled settings file before ids).after calls =
    (new settings file).follow (before ++ .nameCells ids :: calls.map .call) := by
  rw [after_eq_follow, follow_append, follow_cons]
  rfl

theorem roll_enrolled : Roll ids ((enrolled settings file before ids).history calls)
    ((enrolled settings file before ids).after calls) :=
  roll_after (roll_setCells _ ids) calls

theorem exact_enrolled : ((enrolled settings file before ids).after calls).tracker.Exact
    ((enrolled settings file before ids).after calls).nextOperation := by
  rw [enrolled_after]
  exact exact_new_follow settings file _

theorem textEnded_enrolled : ((enrolled settings file before ids).after calls).textEnded = true ↔
    .call .endText ∈ before ∨ .endText ∈ calls := by
  rw [enrolled_after, textEnded_follow]
  simp [new]

/-- A notebook is done once its text has ended and each of its cells was found drained. -/
theorem isDone_enrolled : ((enrolled settings file before ids).after calls).isDone = true ↔
    (.call .endText ∈ before ∨ .endText ∈ calls) ∧
      ∀ i < ids.length, .drained i ∈ (enrolled settings file before ids).history calls := by
  have hr := roll_enrolled settings file before ids calls
  rw [isDone, Bool.and_eq_true, textEnded_enrolled, List.all_eq_true]
  refine and_congr_right fun _ => ?_
  constructor
  · intro hall i hi
    rw [← hr.drained_length] at hi
    rw [← hr.drained_iff, isMarked, List.getElem?_eq_getElem hi]
    exact hall _ (List.getElem_mem hi)
  · intro hall b hb
    obtain ⟨i, hi, rfl⟩ := List.mem_iff_getElem.1 hb
    have hmarked := (hr.drained_iff i).2 (hall i (hr.drained_length ▸ hi))
    rw [isMarked, List.getElem?_eq_getElem hi] at hmarked
    exact hmarked

/-- It stays done, whatever is called. -/
theorem isDone_append (more : List Call)
    (hdone : ((enrolled settings file before ids).after calls).isDone = true) :
    ((enrolled settings file before ids).after (calls ++ more)).isDone = true := by
  rw [isDone_enrolled] at hdone ⊢
  obtain ⟨htext, hdrained⟩ := hdone
  refine ⟨htext.imp_right (List.mem_append_left more), ?_⟩
  intro i hi
  rw [history_append]
  exact List.mem_append_left _ (hdrained i hi)

end Runs

/-- **The life of a cell in every run.**  Take the calls after the cells were named, whatever was asked
before, by a driver that tells of the end of a cell only after it was found drained, once for each time.
At every moment a cell was told to have ended at most as often as it was found drained, and that is at most
once, and after it was entered.  Whenever the host is asked which cells have drained, these are the cells
that were entered, were not found drained before, and own no operation in flight.  The events that say that
a cell has started or ended are those of cells that were entered or told to have ended, in this order.  The
notebook is done exactly if the text was said to have ended and each cell was found drained; then each was
entered, and has ended as well once the driver has told of all that were found drained.  It stays
done. -/
theorem cell_lifecycle (settings : Settings) (file : String) (before : List Order) (ids : List String)
    (calls : List Call)
    (hdue : Milestone.due [] ((enrolled settings file before ids).history calls) = true) :
    let start := enrolled settings file before ids
    (∀ past, past <+: start.history calls → ∀ i,
      past.count (.ended i) ≤ past.count (.drained i) ∧ past.count (.drained i) ≤ 1 ∧
        (.drained i ∈ past → .entered i ∈ past)) ∧
    (∀ earlier later, calls = earlier ++ .pollDrained :: later →
      let h := start.after earlier
      ∀ i, i ∈ h.pollDrained.1 ↔
        .entered i ∈ start.history earlier ∧ .drained i ∉ start.history earlier ∧
          ∀ id op, h.tracker.operations.get? id = some op → op.status = .inFlight → op.cell ≠ i) ∧
    ((start.toldBy (fun _ => true) (calls.map .call)).filter Event.isAboutCell =
      (start.history calls).filterMap (Milestone.event? ids)) ∧
    ((start.after calls).isDone = true ↔
      (.call .endText ∈ before ∨ .endText ∈ calls) ∧
        ∀ i < ids.length, .drained i ∈ start.history calls) ∧
    ((start.after calls).isDone = true → ∀ i < ids.length,
      .entered i ∈ start.history calls ∧
        ((start.history calls).count (.ended i) = (start.history calls).count (.drained i) →
          .ended i ∈ start.history calls)) ∧
    ((start.after calls).isDone = true → ∀ more, (start.after (calls ++ more)).isDone = true) := by
  intro start
  have hr : Roll ids (start.history calls) (start.after calls) :=
    roll_enrolled settings file before ids calls
  refine ⟨?_, ?_, ?_, ?_, ?_, ?_⟩
  · rintro past ⟨rest, hpast⟩ i
    have hdue' : Milestone.due [] past = true := by
      rw [← hpast, Milestone.due_append, Bool.and_eq_true] at hdue
      exact hdue.1
    refine ⟨Milestone.count_ended_le hdue' i, ?_, hr.entered_first past ⟨rest, hpast⟩ i⟩
    calc past.count (.drained i)
        ≤ (start.history calls).count (.drained i) := by
          rw [← hpast, List.count_append]
          exact Nat.le_add_right _ _
      _ = (isMarked (start.after calls).drained i).toNat := hr.count_drained i
      _ ≤ 1 := Bool.toNat_le _
  · rintro earlier later - h i
    have hexact : h.tracker.Exact h.nextOperation := exact_enrolled settings file before ids earlier
    rw [(roll_enrolled settings file before ids earlier).mem_pollDrained, hexact.isDrained_iff]
  · exact start.toldBy_aboutCell calls
  · exact isDone_enrolled settings file before ids calls
  · intro hdone i hi
    have hdrained := ((isDone_enrolled settings file before ids calls).1 hdone).2 i hi
    refine ⟨hr.entered_first _ (List.prefix_refl _) i hdrained, ?_⟩
    intro hall
    rw [← List.count_pos_iff, hall, List.count_pos_iff]
    exact hdrained
  · intro hdone more
    exact isDone_append settings file before ids calls more hdone

/-- A run of one cell that starts a timer: it has not drained before the timer has fired. -/
def timedRun : List Call :=
  [.begin, .enterCell 0, .beginOperation "Timeout", .leaveCell 2, .endText, .pollDrained,
    .endOperation 3, .pollDrained, .cellEnded 0]

/-- Its cell is entered, drains and ends, and then the notebook is done. -/
theorem lifecycle_timedRun :
    let start := enrolled Settings.default "notebook" [] ["cell"]
    start.history timedRun = [.entered 0, .drained 0, .ended 0] ∧
      0 ∉ (start.after (timedRun.take 5)).pollDrained.1 ∧
      (start.after timedRun).isDone = true := by
  intro start
  have hhistory : start.history timedRun = [.entered 0, .drained 0, .ended 0] := by decide +kernel
  have hdue : Milestone.due [] (start.history timedRun) = true := by
    rw [hhistory]
    rfl
  obtain ⟨-, hpoll, -, hdone, -, -⟩ :=
    cell_lifecycle Settings.default "notebook" [] ["cell"] timedRun hdue
  refine ⟨hhistory, ?_, hdone.2 ⟨Or.inr ?_, ?_⟩⟩
  · rw [hpoll (timedRun.take 5) (timedRun.drop 6) rfl]
    rintro ⟨-, -, hnone⟩
    -- The timer is in flight.
    exact hnone 3 ⟨3, "Timeout", 2, .inFlight, 0, []⟩ rfl rfl rfl
  · simp [timedRun]
  · intro i hi
    have hzero : i = 0 := by
      simp at hi
      omega
    rw [hzero, hhistory]
    simp

end Host

end NotebookEngine
