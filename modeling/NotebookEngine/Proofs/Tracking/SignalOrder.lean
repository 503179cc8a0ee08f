/-
**The order in which operations end does not matter.**

The tracker hears of operations by two signals: one was created while another was running, and one has
come to its end.  A creation looks up the cell of its trigger and notes a child of it; an end takes an
operation from those in flight, marks it in the history and counts its cell down, after it has looked the
cell up anew.  An end reads nothing that another end changes, and it leaves alone all that a creation
reads.  So ends can be put off until every operation has been created, and may then come in any order and
as often as one likes.

What is left of a list of signals is therefore the list of its creations and the set of the operations
that have ended after they were created.

Main definitions:

* `Signal`, `Tracker.heedAll` — the signals, and the tracker after a list of them;
* `Signal.creations`, `Signal.Ends` — what is left of a list of signals;
* `Tracker.withScopes` — a tracker that heeds signals, some scopes being bound to cells;
* `Tracker.Accounted` — operations in flight are bound to a cell that has a counter.

Main results:

* `Tracker.Accounted.completed_comm`, `Tracker.Accounted.completed_completed` — two ends, and an end that
  is heard of twice;
* `Tracker.Accounted.created_completed` — a creation and the end of another operation;
* `Tracker.Accounted.exists_ends_last` — the ends of a list of signals put off;
* `Tracker.heedAll_determined` — **the tracker depends on the creations and on which operations have
  ended alone**.
-/

import NotebookEngine.Proofs.Tracking.Ancestry

set_option autoImplicit false

namespace NotebookEngine

/-! ### Tables -/

namespace Table

variable {α : Type}

theorem erase_comm (t : Table α) (a b : Nat) : (t.erase a).erase b = (t.erase b).erase a :=
  ext fun k => by
    simp only [get?_erase]
    split
    · split <;> rfl
    · rfl

theorem erase_put_of_ne (t : Table α) {a b : Nat} (value : α) (h : a ≠ b) :
    (t.put b value).erase a = (t.erase a).put b value :=
  ext fun k => by
    simp only [get?_erase, get?_put]
    by_cases ha : a = k
    · have hb : b ≠ k := fun hb => h (ha.trans hb.symm)
      rw [if_pos ha, if_neg hb, if_pos ha]
    · rw [if_neg ha, if_neg ha]

theorem modify_comm (t : Table α) (a b : Nat) (f : α → α) :
    (t.modify a f).modify b f = (t.modify b f).modify a f :=
  ext fun k => by
    simp only [get?_modify]
    split
    · split <;> rfl
    · rfl

theorem contains_modify (t : Table α) (key other : Nat) (f : α → α) :
    (t.modify key f).contains other = t.contains other := by
  rw [contains, contains, get?_modify]
  split
  · exact Option.isSome_map
  · rfl

end Table

/-! ### Signals -/

/-- What a tracker is told. -/
inductive Signal where
  | created (id : Nat) (kind : String) (trigger : Nat)
  | completed (id : Nat)
  deriving DecidableEq

namespace Signal

/-- The operation that a signal says was created. -/
def createdId? : Signal → Option Nat
  | created id _ _ => some id
  | completed _ => none

/-- The signals that say that an operation was created. -/
def creations (ss : List Signal) : List Signal := ss.filter fun s => s.createdId?.isSome

/-- The operations that were created, in order. -/
def createdIds (ss : List Signal) : List Nat := ss.filterMap createdId?

/-- The operation was created, and has ended at some time after that. -/
def Ends (ss : List Signal) (id : Nat) : Prop :=
  ∃ kind trigger, List.Sublist [created id kind trigger, completed id] ss

theorem mem_createdIds {ss : List Signal} {id : Nat} :
    id ∈ createdIds ss ↔ ∃ kind trigger, created id kind trigger ∈ ss := by
  rw [createdIds, List.mem_filterMap]
  constructor
  · rintro ⟨s, hs, hid⟩
    cases s with
    | created id' kind trigger =>
        cases hid
        exact ⟨kind, trigger, hs⟩
    | completed id' => cases hid
  · rintro ⟨kind, trigger, hs⟩
    exact ⟨_, hs, rfl⟩

theorem createdIds_concat_created (ss : List Signal) (id : Nat) (kind : String) (trigger : Nat) :
    createdIds (ss ++ [created id kind trigger]) = createdIds ss ++ [id] := List.filterMap_append

theorem createdIds_concat_completed (ss : List Signal) (id : Nat) :
    createdIds (ss ++ [completed id]) = createdIds ss :=
  List.filterMap_append.trans (List.append_nil _)

theorem creations_concat_created (ss : List Signal) (id : Nat) (kind : String) (trigger : Nat) :
    creations (ss ++ [created id kind trigger]) = creations ss ++ [created id kind trigger] :=
  List.filter_append ..

theorem creations_concat_completed (ss : List Signal) (id : Nat) :
    creations (ss ++ [completed id]) = creations ss :=
  (List.filter_append ..).trans (List.append_nil _)

theorem createdIds_creations (ss : List Signal) : createdIds (creations ss) = createdIds ss := by
  rw [createdIds, creations, List.filterMap_filter]
  refine List.filterMap_congr fun s _ => ?_
  cases s <;> rfl

theorem Ends.mem_createdIds {ss : List Signal} {id : Nat} (h : Ends ss id) : id ∈ createdIds ss := by
  obtain ⟨kind, trigger, hsub⟩ := h
  exact Signal.mem_createdIds.2 ⟨kind, trigger, hsub.subset List.mem_cons_self⟩

/-- What ends in a list of signals with one more has ended before, or ends with the last signal. -/
theorem ends_concat {ss : List Signal} {s : Signal} {id : Nat} :
    Ends (ss ++ [s]) id ↔ Ends ss id ∨ (id ∈ createdIds ss ∧ s = completed id) := by
  constructor
  · rintro ⟨kind, trigger, hsub⟩
    obtain ⟨front, back, hparts, hfront, hback⟩ := List.sublist_append_iff.1 hsub
    -- Of the two signals both come before the last, or the second is the last one.
    match back, hback with
    | [], _ =>
        rw [List.append_nil] at hparts
        exact Or.inl ⟨kind, trigger, hparts ▸ hfront⟩
    | b :: more, hback =>
        have hlast : b = s ∧ more = [] := by
          have hlength := hback.length_le
          have hmore : more = [] := List.length_eq_zero_iff.1 (by simpa using hlength)
          subst hmore
          exact ⟨List.mem_singleton.1 (List.singleton_sublist.1 hback), rfl⟩
        obtain ⟨rfl, rfl⟩ := hlast
        have hsplit : [created id kind trigger] ++ [completed id] = front ++ [b] := hparts
        obtain ⟨rfl, hlast⟩ := List.append_inj' hsplit rfl
        refine Or.inr ⟨mem_createdIds.2 ⟨kind, trigger, List.singleton_sublist.1 hfront⟩, ?_⟩
        exact (List.cons.inj hlast).1.symm
  · rintro (⟨kind, trigger, hsub⟩ | ⟨hid, rfl⟩)
    · exact ⟨kind, trigger, hsub.trans (List.sublist_append_left ss [s])⟩
    · obtain ⟨kind, trigger, hs⟩ := mem_createdIds.1 hid
      exact ⟨kind, trigger, (List.singleton_sublist.2 hs).append (List.Sublist.refl _)⟩

theorem ends_cons_completed {ss : List Signal} {done id : Nat} :
    Ends (completed done :: ss) id ↔ Ends ss id := by
  refine exists₂_congr fun kind trigger => ⟨?_, List.Sublist.cons _⟩
  intro hsub
  cases hsub with
  | cons _ hrest => exact hrest

theorem ends_cons_created {ss : List Signal} {new id trigger : Nat} {kind : String} :
    Ends (created new kind trigger :: ss) id ↔ (new = id ∧ completed id ∈ ss) ∨ Ends ss id := by
  constructor
  · rintro ⟨kind', trigger', hsub⟩
    cases hsub with
    | cons _ hrest => exact Or.inr ⟨kind', trigger', hrest⟩
    | cons_cons _ hrest => exact Or.inl ⟨rfl, List.singleton_sublist.1 hrest⟩
  · rintro (⟨rfl, hmem⟩ | ⟨kind', trigger', hsub⟩)
    · exact ⟨kind, trigger, (List.singleton_sublist.2 hmem).cons_cons _⟩
    · exact ⟨kind', trigger', hsub.cons _⟩

theorem not_ends_nil {id : Nat} : ¬Ends [] id := by
  rintro ⟨kind, trigger, hsub⟩
  cases hsub

end Signal

namespace Tracker

attribute [ext] Tracker

/-- The tracker after a signal. -/
def heed (t : Tracker) : Signal → Tracker
  | .created id kind trigger => t.created id kind trigger
  | .completed id => t.completed id

/-- The tracker after a list of signals. -/
def heedAll (t : Tracker) (ss : List Signal) : Tracker := ss.foldl heed t

/-- The tracker after some operations have ended. -/
def completeAll (t : Tracker) (ids : List Nat) : Tracker := ids.foldl completed t

/-- A tracker that heeds signals, some scopes being bound to cells. -/
def withScopes (scopes : List (Nat × Nat)) : Tracker :=
  scopes.foldl (fun t s => t.bind s.1 s.2) new.start

theorem heedAll_concat (t : Tracker) (ss : List Signal) (s : Signal) :
    t.heedAll (ss ++ [s]) = (t.heedAll ss).heed s := List.foldl_concat ..

/-! ### What signals leave alone -/

theorem roots_record (t : Tracker) (id : Nat) (kind : String) (trigger cell : Nat) :
    (t.record id kind trigger cell).roots = if t.knows trigger then t.roots else t.roots ++ [id] := by
  rw [knows, Table.contains]
  unfold record
  cases t.operations.get? trigger <;> rfl

theorem tracking_record (t : Tracker) (id : Nat) (kind : String) (trigger cell : Nat) :
    (t.record id kind trigger cell).tracking = t.tracking := by
  unfold record
  split <;> rfl

/-- A lookup reads bindings and triggers, and ends change neither. -/
theorem findCellFrom_completed (t : Tracker) (done n id : Nat) :
    (t.completed done).findCellFrom n id = t.findCellFrom n id := by
  induction n generalizing id with
  | zero => rfl
  | succ n ih =>
      have horigin := t.originOf_completed done id
      rw [findCellFrom, findCellFrom, bindings_completed]
      cases t.bindings.get? id with
      | some cell => rfl
      | none =>
          rw [originOf, originOf] at horigin
          cases hop : t.operations.get? id with
          | none =>
              rw [hop, Option.map_none, Option.map_eq_none_iff] at horigin
              rw [horigin]
          | some op =>
              rw [hop, Option.map_some] at horigin
              obtain ⟨op', hop', hsame⟩ := Option.map_eq_some_iff.1 horigin
              have htrigger : op'.trigger = op.trigger := congrArg Prod.fst hsame
              simp only [hop', htrigger, ih]

theorem findCell_completed (t : Tracker) (done id : Nat) :
    (t.completed done).findCell id = t.findCell id := by
  have hsize : (t.completed done).operations.size = t.operations.size :=
    Table.size_eq_of_contains (t.knows_completed done)
  rw [findCell, findCell, findCellFrom_completed, hsize]

/-- Creating an operation records it for the cell of its trigger, whatever has ended. -/
theorem created_eq_completed (t : Tracker) (done id : Nat) (kind : String) (trigger : Nat) :
    ((t.completed done).created id kind trigger = t.completed done ∧
        t.created id kind trigger = t) ∨
      ∃ cell, (t.completed done).created id kind trigger =
          (t.completed done).record id kind trigger cell ∧
        t.created id kind trigger = t.record id kind trigger cell := by
  have hfind := t.findCell_completed done trigger
  have htracking := t.tracking_completed done
  unfold created
  rw [htracking]
  split
  · exact Or.inl ⟨rfl, rfl⟩
  · cases hcell : t.findCell trigger with
    | none =>
        rw [hcell] at hfind
        exact Or.inl ⟨by rw [hfind], rfl⟩
    | some cell =>
        rw [hcell] at hfind
        exact Or.inr ⟨cell, by rw [hfind], rfl⟩

/-! ### Accounts -/

/-- Signals are heeded, and an operation in flight is bound to a cell that has a counter. -/
structure Accounted (t : Tracker) : Prop where
  tracking : t.tracking = true
  counted : ∀ id, t.current.contains id = true →
    ∃ cell, t.bindings.get? id = some cell ∧ t.counts.contains cell = true

/-- Before the first signal no operation is in flight. -/
theorem withScopes_spec (scopes : List (Nat × Nat)) :
    (withScopes scopes).tracking = true ∧ (withScopes scopes).current = .empty := by
  unfold withScopes
  generalize hstart : new.start = t
  have ht : t.tracking = true ∧ t.current = .empty := by rw [← hstart]; exact ⟨rfl, rfl⟩
  clear hstart
  induction scopes generalizing t with
  | nil => exact ht
  | cons s scopes ih => exact ih (t.bind s.1 s.2) ht

theorem accounted_withScopes (scopes : List (Nat × Nat)) : (withScopes scopes).Accounted where
  tracking := (withScopes_spec scopes).1
  counted := by
    intro id hid
    rw [(withScopes_spec scopes).2] at hid
    cases hid

namespace Accounted

variable {t : Tracker}

/-- An end, in an account, as a change of three tables. -/
theorem completed_eq (h : t.Accounted) {id : Nat} (hid : t.current.contains id = true) :
    ∃ cell, t.bindings.get? id = some cell ∧ t.counts.contains cell = true ∧
      t.completed id =
        { t with
          current := t.current.erase id
          operations := t.operations.modify id fun op => { op with status := .completed }
          counts := t.counts.modify cell (· - 1) } := by
  obtain ⟨cell, hcell, hcounter⟩ := h.counted id hid
  exact ⟨cell, hcell, hcounter, Tracker.completed_eq h.tracking hid hcell⟩

/-- What is not in flight cannot end. -/
theorem completed_of_not_current {id : Nat} (hid : t.current.contains id = false) :
    t.completed id = t :=
  completed_eq_self fun hboth => Bool.false_ne_true (hid.symm.trans hboth.2)

theorem contains_completed (h : t.Accounted) (id other : Nat) :
    (t.completed id).current.contains other = (!decide (id = other) && t.current.contains other) :=
  contains_current_completed h.tracking id other

theorem completed (h : t.Accounted) (id : Nat) : (t.completed id).Accounted := by
  cases hid : t.current.contains id with
  | false => rwa [completed_of_not_current hid]
  | true =>
      obtain ⟨cell, -, -, heq⟩ := h.completed_eq hid
      refine ⟨(t.tracking_completed id).trans h.tracking, ?_⟩
      intro other hother
      rw [h.contains_completed, Bool.and_eq_true] at hother
      obtain ⟨cell', hcell', hcounter⟩ := h.counted other hother.2
      refine ⟨cell', by rwa [bindings_completed], ?_⟩
      rw [heq, Table.contains_modify]
      exact hcounter

theorem record (h : t.Accounted) (id : Nat) (kind : String) (trigger cell : Nat) :
    (t.record id kind trigger cell).Accounted where
  tracking := (t.tracking_record id kind trigger cell).trans h.tracking
  counted := by
    intro other hother
    rw [current_record, Table.contains_put] at hother
    rw [bindings_record, counts_record, Table.get?_put]
    by_cases heq : id = other
    · exact ⟨cell, if_pos heq, by rw [Table.contains_put, decide_eq_true rfl]; rfl⟩
    · rw [decide_eq_false heq, Bool.false_or] at hother
      obtain ⟨cell', hcell', hcounter⟩ := h.counted other hother
      exact ⟨cell', by rwa [if_neg heq], by rw [Table.contains_put, hcounter, Bool.or_true]⟩

theorem created (h : t.Accounted) (id : Nat) (kind : String) (trigger : Nat) :
    (t.created id kind trigger).Accounted := by
  rcases t.created_cases id kind trigger with heq | ⟨cell, heq⟩
  · rwa [heq]
  · rw [heq]
    exact h.record id kind trigger cell

theorem heedAll (h : t.Accounted) (ss : List Signal) : (t.heedAll ss).Accounted := by
  induction ss generalizing t with
  | nil => exact h
  | cons s ss ih =>
      cases s with
      | created id kind trigger => exact ih (h.created id kind trigger)
      | completed id => exact ih (h.completed id)

/-! ### Two signals -/

/-- **An end that is heard of twice.** -/
theorem completed_completed (h : t.Accounted) (id : Nat) :
    (t.completed id).completed id = t.completed id :=
  completed_of_not_current (by rw [h.contains_completed, decide_eq_true rfl]; rfl)

/-- **Two ends may be heard of in either order.** -/
theorem completed_comm (h : t.Accounted) (a b : Nat) :
    (t.completed a).completed b = (t.completed b).completed a := by
  by_cases hab : a = b
  · rw [hab]
  · have hother : ∀ {c d : Nat}, c ≠ d →
        (t.completed c).current.contains d = t.current.contains d := by
      intro c d hcd
      rw [h.contains_completed, decide_eq_false hcd]
      rfl
    cases ha : t.current.contains a with
    | false =>
        rw [completed_of_not_current ha,
          completed_of_not_current ((hother (Ne.symm hab)).trans ha)]
    | true =>
        cases hb : t.current.contains b with
        | false => rw [completed_of_not_current hb, completed_of_not_current ((hother hab).trans hb)]
        | true =>
            obtain ⟨cellA, hcellA, -, hendA⟩ := h.completed_eq ha
            obtain ⟨cellB, hcellB, -, hendB⟩ := h.completed_eq hb
            -- Each of the two finds its cell after the other as it would have found it before.
            have hthenB := Tracker.completed_eq ((h.completed a).tracking) ((hother hab).trans hb)
              ((congrArg (Table.get? · b) (t.bindings_completed a)).trans hcellB)
            have hthenA := Tracker.completed_eq ((h.completed b).tracking)
              ((hother (Ne.symm hab)).trans ha)
              ((congrArg (Table.get? · a) (t.bindings_completed b)).trans hcellA)
            rw [hthenB, hthenA, hendA, hendB]
            ext1
            · exact t.current.erase_comm a b
            · exact t.operations.modify_comm a b _
            · rfl
            · rfl
            · exact t.counts.modify_comm cellA cellB _
            · rfl

/-- A recording and the end of another operation. -/
theorem record_completed (h : t.Accounted) {done id : Nat} (hne : done ≠ id) (kind : String)
    (trigger cell : Nat) :
    (t.completed done).record id kind trigger cell = (t.record id kind trigger cell).completed done := by
  have hsame : (t.record id kind trigger cell).current.contains done = t.current.contains done := by
    rw [current_record, Table.contains_put, decide_eq_false (Ne.symm hne), Bool.false_or]
  cases hdone : t.current.contains done with
  | false => rw [completed_of_not_current hdone, completed_of_not_current (hsame.trans hdone)]
  | true =>
      obtain ⟨own, hown, hcounter, hend⟩ := h.completed_eq hdone
      have hbound : (t.record id kind trigger cell).bindings.get? done = some own := by
        rw [bindings_record, Table.get?_put, if_neg (Ne.symm hne)]
        exact hown
      have hlater := Tracker.completed_eq (h.record id kind trigger cell).tracking
        (hsame.trans hdone) hbound
      have hknows := t.knows_completed done trigger
      rw [hlater]
      ext1
      · rw [current_record, hend]
        dsimp only
        rw [current_record]
        exact (Table.erase_put_of_ne _ _ hne).symm
      · refine Table.ext fun other => ?_
        rw [get?_operations_record, hend]
        simp only [Table.get?_modify, get?_operations_record]
        -- The new operation is not the one that ends; its trigger may be.
        by_cases hid : id = other
        · rw [if_pos hid, if_pos hid, if_neg (fun hd => hne (hd.trans hid.symm))]
        · rw [if_neg hid, if_neg hid]
          cases t.operations.get? other <;> (split <;> split <;> rfl)
      · rw [roots_record, hknows, hend]
        dsimp only
        rw [roots_record]
      · rw [bindings_record, bindings_completed]
        dsimp only
        rw [bindings_record]
      · rw [counts_record, hend]
        dsimp only
        rw [counts_record]
        refine Table.ext fun other => ?_
        obtain ⟨n, hn⟩ := (Table.contains_iff _ _).1 hcounter
        simp only [count, Table.get?_modify, Table.get?_put]
        -- The two cells may be the same one: it is counted up and down, and it has a counter before.
        by_cases hcell : cell = other
        · subst hcell
          by_cases hsame : own = cell
          · subst hsame
            simp [hn]
          · simp [hsame]
        · simp [hcell]
      · rw [tracking_record, tracking_completed]
        dsimp only
        rw [tracking_record]

/-- **A creation and the end of another operation.** -/
theorem created_completed (h : t.Accounted) {done id : Nat} (hne : done ≠ id) (kind : String)
    (trigger : Nat) :
    (t.completed done).created id kind trigger = (t.created id kind trigger).completed done := by
  rcases t.created_eq_completed done id kind trigger with ⟨hthen, hbefore⟩ | ⟨cell, hthen, hbefore⟩
  · rw [hthen, hbefore]
  · rw [hthen, hbefore, h.record_completed hne]

/-! ### Ends put off -/

/-- An operation that ends among others may as well have ended before them. -/
theorem completeAll_completed (h : t.Accounted) {id : Nat} {ids : List Nat} (hid : id ∈ ids) :
    (t.completed id).completeAll ids = t.completeAll ids := by
  induction ids generalizing t with
  | nil => cases hid
  | cons other ids ih =>
      change ((t.completed id).completed other).completeAll ids = (t.completed other).completeAll ids
      rcases List.mem_cons.1 hid with rfl | hid
      · rw [h.completed_completed]
      · rw [h.completed_comm, ih (h.completed other) hid]

/-- Operations that have ended more than once have ended. -/
theorem completeAll_dedup (h : t.Accounted) (ids : List Nat) :
    t.completeAll ids.dedup = t.completeAll ids := by
  induction ids generalizing t with
  | nil => rfl
  | cons id ids ih =>
      by_cases hid : id ∈ ids
      · rw [List.dedup_cons_of_mem hid, ih h]
        exact (h.completeAll_completed hid).symm
      · rw [List.dedup_cons_of_notMem hid]
        exact ih (h.completed id)

theorem completeAll_perm (h : t.Accounted) {ids ids' : List Nat} (hperm : ids.Perm ids') :
    t.completeAll ids = t.completeAll ids' := by
  induction hperm generalizing t with
  | nil => rfl
  | cons id _ ih => exact ih (h.completed id)
  | swap a b ids => exact congrArg (Tracker.completeAll · ids) (h.completed_comm b a)
  | trans _ _ ih ih' => exact (ih h).trans (ih' h)

/-- Only which operations have ended matters. -/
theorem completeAll_congr (h : t.Accounted) {ids ids' : List Nat} (hsame : ∀ id, id ∈ ids ↔ id ∈ ids') :
    t.completeAll ids = t.completeAll ids' := by
  have hperm : ids.dedup.Perm ids'.dedup :=
    (List.perm_ext_iff_of_nodup ids.nodup_dedup ids'.nodup_dedup).2 fun id => by
      rw [List.mem_dedup, List.mem_dedup, hsame]
  rw [← h.completeAll_dedup ids, ← h.completeAll_dedup ids', h.completeAll_perm hperm]

/-- A creation may come before the ends of other operations. -/
theorem created_completeAll (h : t.Accounted) {ids : List Nat} {id : Nat} (hid : id ∉ ids)
    (kind : String) (trigger : Nat) :
    (t.completeAll ids).created id kind trigger = (t.created id kind trigger).completeAll ids := by
  induction ids generalizing t with
  | nil => rfl
  | cons other ids ih =>
      rw [List.mem_cons, not_or] at hid
      change ((t.completed other).completeAll ids).created id kind trigger =
        ((t.created id kind trigger).completed other).completeAll ids
      rw [ih (h.completed other) hid.2, h.created_completed (Ne.symm hid.1)]

/-- What is in flight has been created. -/
theorem mem_createdIds_of_current (h : t.Accounted) (hnone : t.current = .empty) {ss : List Signal}
    {id : Nat} (hid : (t.heedAll ss).current.contains id = true) : id ∈ Signal.createdIds ss := by
  induction ss using List.reverseRecOn with
  | nil =>
      change t.current.contains id = true at hid
      rw [hnone] at hid
      cases hid
  | append_singleton ss s ih =>
      rw [heedAll_concat] at hid
      cases s with
      | created new kind trigger =>
          rw [Signal.createdIds_concat_created, List.mem_append, List.mem_singleton]
          by_cases hnew : id = new
          · exact Or.inr hnew
          · have hother := ((t.heedAll ss).created_other kind trigger (Ne.symm hnew)).2
            exact Or.inl (ih (hother.symm.trans hid))
      | completed done =>
          rw [Signal.createdIds_concat_completed]
          have hafter := (h.heedAll ss).contains_completed done id
          rw [show (t.heedAll ss).heed (.completed done) = (t.heedAll ss).completed done from rfl,
            hafter, Bool.and_eq_true] at hid
          exact ih hid.2

/-- **The ends of a list of signals put off**: first all creations, then the ends of the operations that
have ended after they were created. -/
theorem exists_ends_last (h : t.Accounted) (hnone : t.current = .empty) {ss : List Signal}
    (hnodup : (Signal.createdIds ss).Nodup) :
    ∃ ids, (∀ id, id ∈ ids ↔ Signal.Ends ss id) ∧
      t.heedAll ss = (t.heedAll (Signal.creations ss)).completeAll ids := by
  -- By induction from the last signal: a creation moves before the ends, an end joins them.
  induction ss using List.reverseRecOn with
  | nil =>
      refine ⟨[], fun id => ⟨nofun, ?_⟩, rfl⟩
      intro hends
      exact absurd hends.mem_createdIds List.not_mem_nil
  | append_singleton ss s ih =>
      have haccount := h.heedAll (Signal.creations ss)
      cases s with
      | created new kind trigger =>
          rw [Signal.createdIds_concat_created] at hnodup
          obtain ⟨hbefore, -, hfresh⟩ := List.nodup_append.1 hnodup
          obtain ⟨ids, hmem, heq⟩ := ih hbefore
          have hnew : new ∉ ids := fun hin =>
            hfresh new ((hmem new).1 hin).mem_createdIds new List.mem_cons_self rfl
          refine ⟨ids, ?_, ?_⟩
          · intro id
            rw [hmem, Signal.ends_concat]
            simp
          · rw [heedAll_concat, heq, Signal.creations_concat_created, heedAll_concat]
            exact haccount.created_completeAll hnew kind trigger
      | completed done =>
          rw [Signal.createdIds_concat_completed] at hnodup
          obtain ⟨ids, hmem, heq⟩ := ih hnodup
          rw [heedAll_concat, Signal.creations_concat_completed]
          by_cases hdone : done ∈ Signal.createdIds ss
          · refine ⟨ids ++ [done], ?_, ?_⟩
            · intro id
              rw [List.mem_append, hmem, Signal.ends_concat, List.mem_singleton]
              refine or_congr_right ⟨?_, ?_⟩
              · rintro rfl
                exact ⟨hdone, rfl⟩
              · rintro ⟨-, hlast⟩
                exact (Signal.completed.inj hlast).symm
            · rw [heq, Tracker.completeAll, Tracker.completeAll, List.foldl_concat]
              rfl
          · -- What was not created is not in flight, and its end is not heeded.
            have hidle : (t.heedAll ss).current.contains done = false := by
              rw [← Bool.not_eq_true]
              exact fun hin => hdone (h.mem_createdIds_of_current hnone hin)
            refine ⟨ids, ?_, (completed_of_not_current hidle).trans heq⟩
            intro id
            rw [hmem, Signal.ends_concat]
            refine ⟨Or.inl, ?_⟩
            rintro (hends | ⟨hid, hlast⟩)
            · exact hends
            · rw [Signal.completed.inj hlast] at hdone
              exact absurd hid hdone

end Accounted

/-! ### What is left of the signals -/

/-- What an operation adds that is created under a trigger that may have ended. -/
theorem created_counts (t : Tracker) (done id : Nat) (kind : String) (trigger cell : Nat) :
    ((t.completed done).created id kind trigger).count cell - (t.completed done).count cell =
      (t.created id kind trigger).count cell - t.count cell := by
  rcases t.created_eq_completed done id kind trigger with ⟨hthen, hbefore⟩ | ⟨own, hthen, hbefore⟩
  · rw [hthen, hbefore, Int.sub_self, Int.sub_self]
  · rw [hthen, hbefore, count_record, count_record]
    omega

/-- **The tracker depends on the creations and on which operations have ended alone.**  Two lists of
signals with the same creations, each operation being created at most once, lead to the same tracker if
the same operations have ended after they were created: it does not matter when an operation has ended
after its creation, in which order operations have ended, or how often a signal says so.  In particular,
an operation that is created after its trigger has ended gets the owner, and counts for its cell as much,
as if the trigger were in flight. -/
theorem heedAll_determined (scopes : List (Nat × Nat)) (ss ss' : List Signal)
    (hnodup : (Signal.createdIds ss).Nodup) (hcreations : Signal.creations ss = Signal.creations ss')
    (hends : ∀ id, Signal.Ends ss id ↔ Signal.Ends ss' id) :
    (withScopes scopes).heedAll ss = (withScopes scopes).heedAll ss' ∧
      ∀ before after id kind trigger, ss = before ++ .created id kind trigger :: after →
        trigger ∈ Signal.createdIds before →
        let t := (withScopes scopes).heedAll before
        let ended := t.completed trigger
        (ended.created id kind trigger).ownerOf id = (t.created id kind trigger).ownerOf id ∧
          (ended.created id kind trigger).current.contains id =
            (t.created id kind trigger).current.contains id ∧
          ∀ cell, (ended.created id kind trigger).count cell - ended.count cell =
            (t.created id kind trigger).count cell - t.count cell := by
  have haccount := accounted_withScopes scopes
  have hnone := (withScopes_spec scopes).2
  constructor
  · have hnodup' : (Signal.createdIds ss').Nodup := by
      rwa [← Signal.createdIds_creations, ← hcreations, Signal.createdIds_creations]
    obtain ⟨ids, hmem, heq⟩ := haccount.exists_ends_last hnone hnodup
    obtain ⟨ids', hmem', heq'⟩ := haccount.exists_ends_last hnone hnodup'
    rw [heq, heq', hcreations]
    refine (haccount.heedAll _).completeAll_congr fun id => ?_
    rw [hmem, hmem', hends]
  · intro before after id kind trigger hparts htrigger t ended
    have hne : trigger ≠ id := by
      rintro rfl
      rw [hparts, Signal.createdIds, List.filterMap_append, List.nodup_append] at hnodup
      exact hnodup.2.2 trigger htrigger trigger List.mem_cons_self rfl
    have ht : t.Accounted := haccount.heedAll before
    refine ⟨?_, ?_, fun cell => t.created_counts trigger id kind trigger cell⟩
    · rw [ht.created_completed hne, ownerOf_completed]
    · rw [ht.created_completed hne, (ht.created id kind trigger).contains_completed,
        decide_eq_false hne]
      rfl

/-- Two cells and three operations: the second operation is created under the first one. -/
def earlyEnds : List Signal :=
  [.completed 12, .created 11 "Timeout" 10, .completed 11, .created 12 "PROMISE" 11, .completed 12,
    .created 13 "Immediate" 20]

/-- The same with the ends put off, one of them heard of twice. -/
def lateEnds : List Signal :=
  [.created 11 "Timeout" 10, .created 12 "PROMISE" 11, .created 13 "Immediate" 20, .completed 12,
    .completed 11, .completed 12]

/-- Both lists lead to the same tracker. -/
theorem heedAll_earlyEnds :
    (Signal.createdIds earlyEnds).Nodup ∧ Signal.creations earlyEnds = Signal.creations lateEnds ∧
      (withScopes [(10, 0), (20, 1)]).heedAll earlyEnds =
        (withScopes [(10, 0), (20, 1)]).heedAll lateEnds ∧
      ((withScopes [(10, 0), (20, 1)]).heedAll earlyEnds).ownerOf 12 = some 0 ∧
      ((withScopes [(10, 0), (20, 1)]).heedAll earlyEnds).current.keys = [13] := by
  have hnodup : (Signal.createdIds earlyEnds).Nodup := by decide
  have hcreations : Signal.creations earlyEnds = Signal.creations lateEnds := by decide
  have hends : ∀ id, Signal.Ends earlyEnds id ↔ Signal.Ends lateEnds id := by
    intro id
    simp [earlyEnds, lateEnds, Signal.ends_cons_created, Signal.ends_cons_completed,
      Signal.not_ends_nil]
    omega
  exact ⟨hnodup, hcreations,
    (heedAll_determined [(10, 0), (20, 1)] earlyEnds lateEnds hnodup hcreations hends).1, by decide,
    by decide⟩

end Tracker

end NotebookEngine
