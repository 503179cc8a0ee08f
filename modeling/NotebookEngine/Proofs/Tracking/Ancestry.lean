/-
**The cell of an operation is the cell of its ancestry.**

An operation belongs to the cell whose scope its triggers lead back to.  The tracker does not walk that
way when it is asked: it binds every operation that it records to the cell that it has found, and the
scopes and the recorded operations share one table of bindings.  The answers are the same.  Every bound
number is a scope or a recorded operation and never both, an operation is recorded after its trigger, and
it is recorded for the cell of its trigger; so the walk from trigger to trigger goes down through recorded
operations and ends at the scope that the binding speaks of.

What was bound or recorded once is never changed, because every number is handed out once.

Main definitions:

* `Tracker.walk` — the walk from trigger to trigger, which looks at no binding;
* `Host.scopes` — the scopes that were handed out when cells were entered, with their cells;
* `Tracker.originOf` — the trigger and the cell that an operation was recorded with;
* `Tracker.Rooted` — what scopes, bindings and recorded triggers have to do with each other.

Main results:

* `Tracker.Exact.findCellFrom_eq` — a lookup ends at its first step;
* `Tracker.Rooted.walk_eq` — the walk finds what the lookup finds, and visits no more operations than
  there are;
* `Host.rooted_follow`, `Host.stays_follow` — what every run keeps;
* `Host.cell_is_ancestry` — **in every run the cell of an operation is that of its ancestry, and stays
  so**.
-/

import NotebookEngine.Proofs.Run.Barrier
import NotebookEngine.Proofs.Tracking.Counters

set_option autoImplicit false

namespace NotebookEngine

namespace Tracker

/-! ### The walk -/

/-- The walk from an operation over its trigger, the trigger of that one, and so on, up to the first
scope: the cell of the scope, or no cell if the walk leaves the recorded operations before.  It is cut
short, without an answer, after `n` numbers. -/
def walk (t : Tracker) (scopes : List (Nat × Nat)) : Nat → Nat → Option (Option Nat)
  | 0, _ => none
  | n + 1, id =>
    match scopes.lookup id with
    | some cell => some (some cell)
    | none =>
      match t.operations.get? id with
      | none => some none
      | some op => t.walk scopes n op.trigger

/-! ### The lookup -/

namespace Exact

variable {t : Tracker} {next : Nat}

/-- A lookup ends at its first step, whatever its bound: what is recorded is bound as well. -/
theorem findCellFrom_eq (h : t.Exact next) (n id : Nat) :
    t.findCellFrom (n + 1) id = t.bindings.get? id := by
  rw [findCellFrom]
  cases hbound : t.bindings.get? id with
  | some cell => rfl
  | none =>
      cases hop : t.operations.get? id with
      | none => rfl
      | some op =>
          have hcell := h.bound_cell id op hop
          rw [hbound] at hcell
          cases hcell

theorem findCell_eq (h : t.Exact next) (id : Nat) : t.findCell id = t.bindings.get? id :=
  h.findCellFrom_eq t.operations.size id

theorem fresh_binding (h : t.Exact next) : t.bindings.get? next = none := by
  cases hcell : t.bindings.get? next with
  | none => rfl
  | some cell => exact absurd (h.bound_lt next cell hcell) (Nat.lt_irrefl next)

/-- Creating an operation of a kind that counts, while signals are heeded, records it exactly if its
trigger is bound. -/
theorem created_eq (h : t.Exact next) {kind : String} (ht : t.tracking = true)
    (hkind : isUncounted kind = false) (id trigger : Nat) :
    t.created id kind trigger =
      match t.bindings.get? trigger with
      | none => t
      | some cell => t.record id kind trigger cell := by
  have hheeded : ¬(!t.tracking || isUncounted kind) = true := by simp [ht, hkind]
  have hfind := h.findCell_eq trigger
  unfold created
  rw [if_neg hheeded]
  cases hbound : t.bindings.get? trigger with
  | none => simp only [hfind, hbound]
  | some cell => simp only [hfind, hbound]

end Exact

/-! ### Origins -/

/-- The trigger and the cell that an operation was recorded with. -/
def originOf (t : Tracker) (id : Nat) : Option (Nat × Nat) :=
  (t.operations.get? id).map fun op => (op.trigger, op.cell)

theorem isSome_originOf (t : Tracker) (id : Nat) : (t.originOf id).isSome = t.knows id :=
  Option.isSome_map

theorem originOf_eq_some {t : Tracker} {id : Nat} {op : Operation}
    (h : t.operations.get? id = some op) : t.originOf id = some (op.trigger, op.cell) := by
  rw [originOf, h, Option.map_some]

/-- A recording gives the new operation its origin and changes no other. -/
theorem originOf_record (t : Tracker) (id : Nat) (kind : String) (trigger cell other : Nat) :
    (t.record id kind trigger cell).originOf other =
      if id = other then some (trigger, cell) else t.originOf other := by
  rw [originOf, get?_operations_record]
  split
  next => rfl
  next =>
    split
    next => rw [Option.map_map]; rfl
    next => rfl

/-- Completing an operation changes the origin of none. -/
theorem originOf_completed (t : Tracker) (id other : Nat) :
    (t.completed id).originOf other = t.originOf other :=
  t.map_operations_completed id other fun _ _ => rfl

@[simp] theorem bindings_completed (t : Tracker) (id : Nat) :
    (t.completed id).bindings = t.bindings := by
  unfold completed
  split
  · rfl
  · dsimp only
    split <;> rfl

/-! ### Scopes, bindings and triggers -/

/-- The scopes are what is bound without being recorded; an operation was recorded after its trigger, and
for the cell that its trigger is bound to. -/
structure Rooted (scopes : List (Nat × Nat)) (t : Tracker) : Prop where
  lookup_eq : ∀ id, scopes.lookup id = if t.knows id then none else t.bindings.get? id
  trigger_lt : ∀ id trigger cell, t.originOf id = some (trigger, cell) → trigger < id
  trigger_cell : ∀ id trigger cell, t.originOf id = some (trigger, cell) →
    t.bindings.get? trigger = some cell

theorem rooted_new : Rooted [] new where
  lookup_eq := by intro id; rfl
  trigger_lt := by intro id trigger cell h; cases h
  trigger_cell := by intro id trigger cell h; cases h

namespace Rooted

variable {scopes : List (Nat × Nat)} {t : Tracker} {next : Nat}

/-- Another tracker with the same bindings and origins. -/
theorem transfer (hr : Rooted scopes t) {t' : Tracker} (hbindings : t'.bindings = t.bindings)
    (horigin : ∀ id, t'.originOf id = t.originOf id) : Rooted scopes t' where
  lookup_eq := by
    intro id
    rw [← isSome_originOf, horigin, isSome_originOf, hbindings]
    exact hr.lookup_eq id
  trigger_lt := by
    intro id trigger cell hid
    rw [horigin] at hid
    exact hr.trigger_lt id trigger cell hid
  trigger_cell := by
    intro id trigger cell hid
    rw [horigin] at hid
    rw [hbindings]
    exact hr.trigger_cell id trigger cell hid

/-- A fresh scope is bound to its cell. -/
theorem bind (hr : Rooted scopes t) (h : t.Exact next) (cell : Nat) :
    Rooted (scopes ++ [(next, cell)]) (t.bind next cell) where
  lookup_eq := by
    intro id
    have hknows : (t.bind next cell).knows id = t.knows id := rfl
    rw [List.lookup_append, hr.lookup_eq, hknows, Tracker.bind, Table.get?_put]
    by_cases hid : next = id
    · subst hid
      have hfresh : t.knows next = false := by rw [knows, Table.contains, h.fresh_operation]; rfl
      simp [hfresh, h.fresh_binding]
    · have hne : (id == next) = false := beq_false_of_ne (Ne.symm hid)
      have hother : List.lookup id [(next, cell)] = none := by
        rw [List.lookup_singleton, hne, if_neg Bool.false_ne_true]
      rw [hother, Option.or_none, if_neg hid]
  trigger_lt := hr.trigger_lt
  trigger_cell := by
    intro id trigger c hid
    -- The trigger is bound already, so it is not the fresh number.
    have hbound := hr.trigger_cell id trigger c hid
    have hlt := h.bound_lt trigger c hbound
    rw [Tracker.bind, Table.get?_put, if_neg (by omega)]
    exact hbound

/-- A fresh operation is recorded for the cell that its trigger is bound to. -/
theorem record (hr : Rooted scopes t) (h : t.Exact next) (kind : String) {trigger cell : Nat}
    (hcell : t.bindings.get? trigger = some cell) :
    Rooted scopes (t.record next kind trigger cell) := by
  have hlt := h.bound_lt trigger cell hcell
  refine ⟨?_, ?_, ?_⟩
  · intro id
    rw [hr.lookup_eq, knows_record, bindings_record, Table.get?_put]
    by_cases hid : next = id
    · subst hid
      simp [h.fresh_binding]
    · simp [hid]
  · intro id trigger' cell' hid
    rw [originOf_record] at hid
    split at hid
    next heq =>
      cases hid
      omega
    next => exact hr.trigger_lt id trigger' cell' hid
  · intro id trigger' cell' hid
    rw [originOf_record] at hid
    rw [bindings_record, Table.get?_put]
    split at hid
    next =>
      cases hid
      rw [if_neg (by omega)]
      exact hcell
    next =>
      have hbound := hr.trigger_cell id trigger' cell' hid
      have hlt' := h.bound_lt trigger' cell' hbound
      rw [if_neg (by omega)]
      exact hbound

theorem created (hr : Rooted scopes t) (h : t.Exact next) (kind : String) (trigger : Nat) :
    Rooted scopes (t.created next kind trigger) := by
  unfold Tracker.created
  split
  · exact hr
  · cases hfind : t.findCell trigger with
    | none => exact hr
    | some cell =>
        rw [h.findCell_eq] at hfind
        exact hr.record h kind hfind

theorem completed (hr : Rooted scopes t) (id : Nat) : Rooted scopes (t.completed id) :=
  hr.transfer (t.bindings_completed id) (t.originOf_completed id)

/-! ### The walk and the lookup -/

/-- What is bound is a scope or recorded, and the other way round. -/
theorem isSome_binding (hr : Rooted scopes t) (h : t.Exact next) (id : Nat) :
    (∃ cell, t.bindings.get? id = some cell) ↔
      (∃ cell, scopes.lookup id = some cell) ∨ t.knows id = true := by
  rw [hr.lookup_eq]
  cases hknown : t.knows id with
  | false => simp
  | true =>
      obtain ⟨op, hop⟩ := (t.operations.contains_iff id).1 hknown
      simp [h.bound_cell id op hop]

end Rooted

/-- The recorded operations up to a number. -/
def recordedUpTo (t : Tracker) (id : Nat) : Finset Nat :=
  t.operations.keys.toFinset.filter (· ≤ id)

theorem card_recordedUpTo_le (t : Tracker) (id : Nat) :
    (t.recordedUpTo id).card ≤ t.operations.size := by
  calc (t.recordedUpTo id).card
      ≤ t.operations.keys.toFinset.card := Finset.card_filter_le _ _
    _ ≤ t.operations.keys.length := t.operations.keys.toFinset_card_le
    _ = t.operations.size := t.operations.length_keys

/-- There are fewer of them up to a number below one that is recorded. -/
theorem card_recordedUpTo_lt {t : Tracker} {id trigger : Nat} (hknown : t.knows id = true)
    (hlt : trigger < id) : (t.recordedUpTo trigger).card < (t.recordedUpTo id).card := by
  refine Finset.card_lt_card (Finset.ssubset_iff_of_subset ?_ |>.2 ⟨id, ?_, ?_⟩)
  · intro k hk
    obtain ⟨hmem, hle⟩ := Finset.mem_filter.1 hk
    exact Finset.mem_filter.2 ⟨hmem, by omega⟩
  · have hmem : id ∈ t.operations.keys := (t.operations.mem_keys id).2 hknown
    exact Finset.mem_filter.2 ⟨List.mem_toFinset.2 hmem, Nat.le_refl id⟩
  · intro hid
    have hle := (Finset.mem_filter.1 hid).2
    omega

namespace Rooted

variable {scopes : List (Nat × Nat)} {t : Tracker} {next : Nat}

theorem walk_of_card_lt (hr : Rooted scopes t) (h : t.Exact next) {n id : Nat}
    (hn : (t.recordedUpTo id).card < n) : t.walk scopes n id = some (t.findCell id) := by
  -- The walk goes down, and each recorded operation that it leaves behind is one less below it.
  induction n generalizing id with
  | zero => omega
  | succ n ih =>
      rw [walk, hr.lookup_eq, h.findCell_eq]
      cases hop : t.operations.get? id with
      | none =>
          have hunknown : t.knows id = false := by rw [knows, Table.contains, hop]; rfl
          rw [if_neg (by simp [hunknown])]
          cases t.bindings.get? id with
          | none => rfl
          | some cell => rfl
      | some op =>
          have hknown : t.knows id = true := by rw [knows, Table.contains, hop]; rfl
          have horigin := originOf_eq_some hop
          have hless := card_recordedUpTo_lt hknown (hr.trigger_lt id op.trigger op.cell horigin)
          have hrest : t.walk scopes n op.trigger = some (t.findCell op.trigger) := ih (by omega)
          rw [if_pos hknown, h.bound_cell id op hop]
          dsimp only
          rw [hrest, h.findCell_eq, hr.trigger_cell id op.trigger op.cell horigin]

/-- **The walk finds what the lookup finds**, and it needs no more steps than the lookup is allowed. -/
theorem walk_eq (hr : Rooted scopes t) (h : t.Exact next) {n : Nat} (hn : t.operations.size < n)
    (id : Nat) : t.walk scopes n id = some (t.findCell id) :=
  hr.walk_of_card_lt h (Nat.lt_of_le_of_lt (t.card_recordedUpTo_le id) hn)

end Rooted

/-! ### What stays -/

/-- A later tracker: what was bound is bound as before, and what was recorded has the same origin. -/
structure Stays (t t' : Tracker) : Prop where
  bound : ∀ id cell, t.bindings.get? id = some cell → t'.bindings.get? id = some cell
  origin : ∀ id o, t.originOf id = some o → t'.originOf id = some o

theorem Stays.refl (t : Tracker) : Stays t t := ⟨fun _ _ h => h, fun _ _ h => h⟩

theorem Stays.trans {t t' t'' : Tracker} (s : Stays t t') (s' : Stays t' t'') : Stays t t'' :=
  ⟨fun id cell h => s'.bound id cell (s.bound id cell h),
    fun id o h => s'.origin id o (s.origin id o h)⟩

/-- What a call does to the tracker changes neither what is bound nor what is recorded, since what it
binds or records has a fresh number. -/
theorem stays_change {t t' : Tracker} {next next' : Nat} (h : t.Exact next)
    (c : Change t next t' next') : Stays t t' := by
  have hfresh : ∀ id cell, t.bindings.get? id = some cell → next ≠ id := by
    intro id cell hid
    exact Nat.ne_of_gt (h.bound_lt id cell hid)
  cases c with
  | same => exact .refl t
  | start => exact ⟨fun _ _ h => h, fun _ _ h => h⟩
  | stop => exact ⟨fun _ _ h => h, fun _ _ h => h⟩
  | scope cell =>
      refine ⟨?_, fun _ _ h => h⟩
      intro id c hid
      rw [bind, Table.get?_put, if_neg (hfresh id c hid)]
      exact hid
  | created kind trigger =>
      rcases t.created_cases next kind trigger with heq | ⟨cell, heq⟩
      · rw [heq]
        exact .refl t
      · rw [heq]
        refine ⟨?_, ?_⟩
        · intro id c hid
          rw [bindings_record, Table.get?_put, if_neg (hfresh id c hid)]
          exact hid
        · intro id o hid
          obtain ⟨op, hop, -⟩ := Option.map_eq_some_iff.1 hid
          rw [originOf_record, if_neg (Nat.ne_of_gt (h.operation_lt hop))]
          exact hid
  | completed id =>
      refine ⟨?_, ?_⟩
      · intro other cell hother
        rw [bindings_completed]
        exact hother
      · intro other o hother
        rw [originOf_completed]
        exact hother

end Tracker

/-! ### Every run -/

namespace Host

/-- The scope that an order hands out, with its cell, if it enters one. -/
def scopesOf (h : Host) : Order → List (Nat × Nat)
  | .call (.enterCell index) => ((h.enterCell index).1.map fun scope => (scope, index)).toList
  | _ => []

/-- The scopes that are handed out while a list of orders is followed, with their cells. -/
def scopes : Host → List Order → List (Nat × Nat)
  | _, [] => []
  | h, o :: orders => h.scopesOf o ++ scopes (h.obey o) orders

/-- Every order does one of the known things to the tracker. -/
theorem change_obey (h : Host) (o : Order) :
    Tracker.Change h.tracker h.nextOperation (h.obey o).tracker (h.obey o).nextOperation := by
  cases o with
  | nameCells ids => exact .same
  | call c => exact h.change_perform c

/-- The agreement of set, history, bindings and counters holds after every list of orders. -/
theorem exact_follow {h : Host} (hexact : h.tracker.Exact h.nextOperation) (orders : List Order) :
    (h.follow orders).tracker.Exact (h.follow orders).nextOperation := by
  induction orders generalizing h with
  | nil => exact hexact
  | cons o orders ih => exact ih (Tracker.exact_change (h.change_obey o) hexact)

theorem exact_new_follow (settings : Settings) (file : String) (orders : List Order) :
    ((new settings file).follow orders).tracker.Exact
      ((new settings file).follow orders).nextOperation :=
  exact_follow (Tracker.exact_new _) orders

/-- What is bound or recorded stays so, whatever is asked. -/
theorem stays_follow {h : Host} (hexact : h.tracker.Exact h.nextOperation) (orders : List Order) :
    Tracker.Stays h.tracker (h.follow orders).tracker := by
  induction orders generalizing h with
  | nil => exact .refl _
  | cons o orders ih =>
      have hstep := Tracker.stays_change hexact (h.change_obey o)
      exact hstep.trans (ih (Tracker.exact_change (h.change_obey o) hexact))

/-- A cell that is entered gets the next number for its scope; otherwise nothing happens. -/
theorem enterCell_cases (h : Host) (index : Nat) :
    h.enterCell index = (none, h) ∨
      ((h.enterCell index).1 = some h.nextOperation ∧
        (h.enterCell index).2.tracker = h.tracker.bind h.nextOperation index) := by
  unfold enterCell
  split
  · exact Or.inl rfl
  · cases h.cells[index]? with
    | none => exact Or.inl rfl
    | some cell =>
        refine Or.inr ⟨rfl, ?_⟩
        dsimp only
        rw [Tracker.created_scopeKind]

/-- An order keeps scopes, bindings and triggers in agreement. -/
theorem rooted_obey {scopes : List (Nat × Nat)} {h : Host} (hr : h.tracker.Rooted scopes)
    (hexact : h.tracker.Exact h.nextOperation) (o : Order) :
    (h.obey o).tracker.Rooted (scopes ++ h.scopesOf o) := by
  -- Only entering a cell hands out a scope.
  have hplain : ∀ o : Order, h.scopesOf o = [] → (h.obey o).tracker.Rooted scopes →
      (h.obey o).tracker.Rooted (scopes ++ h.scopesOf o) := by
    intro o hnone hrooted
    rw [hnone, List.append_nil]
    exact hrooted
  have hswitched : ∀ h' : Host, h'.tracker = h.tracker ∨ h'.tracker = h.tracker.stop →
      h'.tracker.Rooted scopes := by
    rintro h' (heq | heq)
    · rw [heq]
      exact hr
    · rw [heq]
      exact hr.transfer rfl fun _ => rfl
  cases o with
  | nameCells ids => exact hplain _ rfl hr
  | call c =>
      cases c with
      | begin => exact hplain _ rfl (hr.transfer rfl fun _ => rfl)
      | enterCell index =>
          rcases h.enterCell_cases index with heq | ⟨hscope, htracker⟩
          · rw [scopesOf, obey, perform, heq]
            exact (List.append_nil scopes).symm ▸ hr
          · rw [scopesOf, obey, perform, hscope, htracker]
            exact hr.bind hexact index
      | beginOperation kind => exact hplain _ rfl (hr.created hexact kind h.current)
      | endOperation id => exact hplain _ rfl (hr.completed id)
      | cancel id => exact hplain _ rfl (hr.completed id)
      | schedule now id delay repeats =>
          refine hplain _ rfl ?_
          simp only [obey, perform, schedule]
          split <;> exact hr
      | popReady now => exact hplain _ rfl hr
      | reschedule now id => exact hplain _ rfl hr
      | fail cell? message stack =>
          have hreport := (h.sameWork_report cell?
            ⟨CellPlaces.nonempty (some message), none, CellPlaces.nonempty (some stack)⟩).tracker
          refine hplain _ rfl (hswitched _ ?_)
          rw [← hreport]
          simp only [obey, perform, fail, finish]
          split
          · exact Or.inl rfl
          · exact Or.inr rfl
      | finish =>
          refine hplain _ rfl (hswitched _ ?_)
          simp only [obey, perform, finish]
          split
          · exact Or.inl rfl
          · exact Or.inr rfl
      | _ => exact hplain _ rfl (hswitched _ (Or.inl (h.sameWork_perform rfl).tracker))

/-- So does every list of orders. -/
theorem rooted_follow {scopes : List (Nat × Nat)} {h : Host} (hr : h.tracker.Rooted scopes)
    (hexact : h.tracker.Exact h.nextOperation) (orders : List Order) :
    (h.follow orders).tracker.Rooted (scopes ++ h.scopes orders) := by
  induction orders generalizing h scopes with
  | nil => exact (List.append_nil scopes).symm ▸ hr
  | cons o orders ih =>
      have hnext := ih (rooted_obey hr hexact o) (Tracker.exact_change (h.change_obey o) hexact)
      rw [List.append_assoc] at hnext
      exact hnext

theorem rooted_new_follow (settings : Settings) (file : String) (orders : List Order) :
    ((new settings file).follow orders).tracker.Rooted ((new settings file).scopes orders) := by
  have hr : (new settings file).tracker.Rooted [] := Tracker.rooted_new
  exact rooted_follow hr (Tracker.exact_new _) orders

/-- **In every run the cell of an operation is that of its ancestry, and stays so.**  The lookup finds
what the walk from trigger to trigger finds, which knows nothing of the bindings of operations, and
neither is cut short by its bound.  An operation that is no native socket and no scope of a cell, begun
while signals are heeded, is recorded exactly if its trigger is a scope or was recorded.  Whatever is asked later, the cell that
was found is found again, and a recorded operation keeps the cell that it was recorded for, which is the
one that is found. -/
theorem cell_is_ancestry (settings : Settings) (file : String) (orders : List Order) :
    let start := new settings file
    let h := start.follow orders
    (∀ id n, h.tracker.operations.size < n →
      h.tracker.walk (start.scopes orders) n id = some (h.tracker.findCell id)) ∧
    (∀ id n, h.tracker.findCellFrom (n + 1) id = h.tracker.findCell id) ∧
    (∀ kind, h.tracker.tracking = true → kind ≠ "TLSWRAP" → kind ≠ "__async_context" →
      ((h.beginOperation kind).2.tracker.knows (h.beginOperation kind).1 = true ↔
        (∃ cell, (start.scopes orders).lookup h.current = some cell) ∨
          h.tracker.knows h.current = true)) ∧
    (∀ id cell, h.tracker.findCell id = some cell →
      ∀ more, (h.follow more).tracker.findCell id = some cell) ∧
    ∀ id op, h.tracker.operations.get? id = some op →
      h.tracker.findCell id = some op.cell ∧
        ∀ more, ∃ op', (h.follow more).tracker.operations.get? id = some op' ∧
          op'.trigger = op.trigger ∧ op'.cell = op.cell := by
  intro start h
  have hexact : h.tracker.Exact h.nextOperation := exact_new_follow settings file orders
  have hrooted : h.tracker.Rooted (start.scopes orders) := rooted_new_follow settings file orders
  refine ⟨?_, ?_, ?_, ?_, ?_⟩
  · intro id n hn
    exact hrooted.walk_eq hexact hn id
  · intro id n
    rw [hexact.findCellFrom_eq, hexact.findCell_eq]
  · intro kind htracking hsocket hscope
    have hkind : isUncounted kind = false := by simp [isUncounted, socketKind, scopeKind, hsocket, hscope]
    rw [← hrooted.isSome_binding hexact]
    simp only [beginOperation]
    rw [hexact.created_eq htracking hkind]
    cases hbound : h.tracker.bindings.get? h.current with
    | none =>
        dsimp only
        rw [Tracker.knows, Table.contains, hexact.fresh_operation]
        simp
    | some cell =>
        dsimp only
        rw [Tracker.knows_record]
        simp
  · intro id cell hfind more
    rw [hexact.findCell_eq] at hfind
    rw [(exact_follow hexact more).findCell_eq]
    exact (stays_follow hexact more).bound id cell hfind
  · intro id op hop
    refine ⟨?_, ?_⟩
    · rw [hexact.findCell_eq]
      exact hexact.bound_cell id op hop
    · intro more
      have hlater := (stays_follow hexact more).origin id _ (Tracker.originOf_eq_some hop)
      obtain ⟨op', hop', horigin⟩ := Option.map_eq_some_iff.1 hlater
      exact ⟨op', hop', (Prod.mk.inj horigin).1, (Prod.mk.inj horigin).2⟩

end Host

end NotebookEngine
