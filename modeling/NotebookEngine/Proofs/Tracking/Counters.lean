/-
**The counts of the tracker are exact.**

The tracker keeps the operations in flight as a set, the operations ever seen as a history, and the
number of operations in flight of each cell as a counter; a completed operation finds its counter through
the cell that it is bound to.  Nothing in the tracker compares the three.  They agree all the same, as
long as every operation is created under a fresh number, which the host sees to.

Main definitions:

* `Tracker.ownerOf`, `Tracker.owned` — the cell of a recorded operation, and the operations of a cell
  that are in flight;
* `Tracker.Exact` — the agreement of set, history, bindings and counters;
* `Tracker.Marked` — the agreement of set and history alone, which needs no fresh numbers.

Main results:

* `Tracker.exact_record`, `Tracker.exact_completed` — recording and completing keep the agreement;
* `Tracker.marked_record`, `Tracker.marked_completed` — and that of set and history under any number;
* `Tracker.exact_change`, `Host.exact_after` — so does every call, hence every run;
* `Host.counts_exact` — **in every run the counter of a cell is the number of its operations in flight**.
-/

import Mathlib.Algebra.BigOperators.Ring.Finset
import NotebookEngine.Proofs.Data.TableKeys
import NotebookEngine.Proofs.Run.HostCalls

set_option autoImplicit false

namespace NotebookEngine

namespace Tracker

/-! ### Operations of a cell -/

/-- The cell that an operation was recorded for. -/
def ownerOf (t : Tracker) (id : Nat) : Option Nat := (t.operations.get? id).map Operation.cell

/-- The operations in flight that were recorded for a cell. -/
def owned (t : Tracker) (cell : Nat) : List Nat :=
  t.current.keys.filter fun id => t.ownerOf id = some cell

theorem mem_owned (t : Tracker) (cell id : Nat) :
    id ∈ t.owned cell ↔ t.current.contains id = true ∧ t.ownerOf id = some cell := by
  rw [owned, List.mem_filter, Table.mem_keys, decide_eq_true_eq]

theorem ownerOf_eq_some_iff (t : Tracker) (id cell : Nat) :
    t.ownerOf id = some cell ↔ ∃ op, t.operations.get? id = some op ∧ op.cell = cell :=
  Option.map_eq_some_iff

/-- Set, history, bindings and counters agree; numbers from `next` on were not handed out. -/
structure Exact (t : Tracker) (next : Nat) : Prop where
  /-- What is bound to a cell has been handed out. -/
  bound_lt : ∀ id cell, t.bindings.get? id = some cell → id < next
  /-- A recorded operation is bound to the cell that it was recorded for. -/
  bound_cell : ∀ id op, t.operations.get? id = some op → t.bindings.get? id = some op.cell
  /-- The operations in flight are those whose status says so. -/
  current_iff : ∀ id, t.current.contains id = true ↔
    ∃ op, t.operations.get? id = some op ∧ op.status = .inFlight
  /-- The counter of a cell is the number of its operations in flight. -/
  count_eq : ∀ cell, t.count cell = (t.owned cell).length

/-- The operations in flight are those whose status says so. -/
def Marked (t : Tracker) : Prop :=
  ∀ id, t.current.contains id = true ↔
    ∃ op, t.operations.get? id = some op ∧ op.status = .inFlight

theorem exact_new (next : Nat) : Exact new next where
  bound_lt := by intro id cell h; cases h
  bound_cell := by intro id op h; cases h
  current_iff := by
    intro id
    constructor
    · intro h; cases h
    · rintro ⟨op, h, -⟩; cases h
  count_eq := by intro cell; rfl

namespace Exact

variable {t : Tracker} {next : Nat}

theorem operation_lt (h : t.Exact next) {id : Nat} {op : Operation}
    (hop : t.operations.get? id = some op) : id < next :=
  h.bound_lt id op.cell (h.bound_cell id op hop)

/-- An operation in flight was recorded for some cell. -/
theorem owner_of_current (h : t.Exact next) {id : Nat} (hid : t.current.contains id = true) :
    ∃ cell, t.ownerOf id = some cell := by
  obtain ⟨op, hop, -⟩ := (h.current_iff id).1 hid
  exact ⟨op.cell, (t.ownerOf_eq_some_iff id op.cell).2 ⟨op, hop, rfl⟩⟩

/-- The cell of an operation in flight has a counter. -/
theorem contains_counts (h : t.Exact next) {id cell : Nat} (hid : t.current.contains id = true)
    (howner : t.ownerOf id = some cell) : t.counts.contains cell = true := by
  have hcount := h.count_eq cell
  have hpos : 0 < (t.owned cell).length :=
    List.length_pos_of_mem ((t.mem_owned cell id).2 ⟨hid, howner⟩)
  rw [Table.contains]
  cases hget : t.counts.get? cell with
  | none => rw [count, hget, Option.getD_none] at hcount; omega
  | some n => rfl

theorem fresh_operation (h : t.Exact next) : t.operations.get? next = none := by
  cases hop : t.operations.get? next with
  | none => rfl
  | some op => exact absurd (h.operation_lt hop) (Nat.lt_irrefl next)

theorem fresh_current (h : t.Exact next) : t.current.contains next = false := by
  cases hc : t.current.contains next with
  | false => rfl
  | true =>
      obtain ⟨op, hop, -⟩ := (h.current_iff next).1 hc
      rw [h.fresh_operation] at hop
      cases hop

end Exact

/-! ### Recording -/

/-- What the history says after a recording: the new operation is there, its trigger has one child
more, and nothing else changes. -/
theorem get?_operations_record (t : Tracker) (id : Nat) (kind : String) (trigger cell other : Nat) :
    (t.record id kind trigger cell).operations.get? other =
      if id = other then some ⟨id, kind, trigger, .inFlight, cell, []⟩
      else if trigger = other then
        (t.operations.get? other).map fun op => { op with children := op.children ++ [id] }
      else t.operations.get? other := by
  unfold record
  cases hp : t.operations.get? trigger with
  | none =>
      simp only [Table.get?_put]
      split
      next => rfl
      next =>
        split
        next h => subst h; rw [hp, Option.map_none]
        next => rfl
  | some parent =>
      simp only [Table.get?_put]
      split
      next => rfl
      next =>
        split
        next h => subst h; rw [hp, Option.map_some]
        next => rfl

@[simp] theorem current_record (t : Tracker) (id : Nat) (kind : String) (trigger cell : Nat) :
    (t.record id kind trigger cell).current = t.current.put id () := by
  unfold record
  split <;> rfl

@[simp] theorem bindings_record (t : Tracker) (id : Nat) (kind : String) (trigger cell : Nat) :
    (t.record id kind trigger cell).bindings = t.bindings.put id cell := by
  unfold record
  split <;> rfl

@[simp] theorem counts_record (t : Tracker) (id : Nat) (kind : String) (trigger cell : Nat) :
    (t.record id kind trigger cell).counts = t.counts.put cell (t.count cell + 1) := by
  unfold record
  split <;> rfl

/-- A recording gives the new operation its owner and changes no other. -/
theorem ownerOf_record (t : Tracker) (id : Nat) (kind : String) (trigger cell other : Nat) :
    (t.record id kind trigger cell).ownerOf other =
      if id = other then some cell else t.ownerOf other := by
  rw [ownerOf, get?_operations_record]
  split
  next => rfl
  next =>
    split
    next => rw [Option.map_map]; rfl
    next => rfl

theorem knows_record (t : Tracker) (id : Nat) (kind : String) (trigger cell other : Nat) :
    (t.record id kind trigger cell).knows other = (decide (id = other) || t.knows other) := by
  rw [knows, knows, Table.contains, Table.contains, get?_operations_record]
  by_cases h : id = other
  · simp [h]
  · rw [if_neg h, decide_eq_false h, Bool.false_or]
    split
    next => rw [Option.isSome_map]
    next => rfl

/-- Creating an operation records it for a cell or does nothing. -/
theorem created_cases (t : Tracker) (id : Nat) (kind : String) (trigger : Nat) :
    t.created id kind trigger = t ∨ ∃ cell, t.created id kind trigger = t.record id kind trigger cell := by
  unfold created
  split
  · exact Or.inl rfl
  · cases t.findCell trigger with
    | none => exact Or.inl rfl
    | some cell => exact Or.inr ⟨cell, rfl⟩

theorem tracking_created (t : Tracker) (id : Nat) (kind : String) (trigger : Nat) :
    (t.created id kind trigger).tracking = t.tracking := by
  rcases t.created_cases id kind trigger with h | ⟨cell, h⟩
  · rw [h]
  · rw [h]
    unfold record
    split <;> rfl

/-- Creating an operation changes no other. -/
theorem created_other (t : Tracker) {id other : Nat} (kind : String) (trigger : Nat)
    (h : id ≠ other) :
    (t.created id kind trigger).knows other = t.knows other ∧
      (t.created id kind trigger).current.contains other = t.current.contains other := by
  rcases t.created_cases id kind trigger with heq | ⟨cell, heq⟩
  · rw [heq]
    exact ⟨rfl, rfl⟩
  · rw [heq, knows_record, current_record, Table.contains_put, decide_eq_false h]
    exact ⟨rfl, rfl⟩

/-- A fresh operation that has been created is in flight exactly if it was recorded. -/
theorem Exact.knows_created {t : Tracker} {next : Nat} (h : t.Exact next) (kind : String)
    (trigger : Nat) :
    (t.created next kind trigger).current.contains next
      = (t.created next kind trigger).knows next := by
  rcases t.created_cases next kind trigger with heq | ⟨cell, heq⟩
  · rw [heq, h.fresh_current, knows, Table.contains, h.fresh_operation]
    rfl
  · rw [heq, knows_record, current_record, Table.contains_put, decide_eq_true rfl]
    rfl

theorem count_record (t : Tracker) (id : Nat) (kind : String) (trigger cell other : Nat) :
    (t.record id kind trigger cell).count other =
      t.count other + if cell = other then 1 else 0 := by
  rw [count, counts_record, Table.get?_put]
  split
  next h => subst h; rfl
  next => rw [Int.add_zero]; rfl

/-- A recording adds the new operation to those of its cell that are in flight. -/
theorem length_owned_record (t : Tracker) {id : Nat} (kind : String) (trigger cell other : Nat)
    (hid : t.current.contains id = false) :
    ((t.record id kind trigger cell).owned other).length =
      (t.owned other).length + if cell = other then 1 else 0 := by
  have hkeys : ∀ k ∈ t.current.keys, id ≠ k := by
    rintro k hk rfl
    rw [Table.mem_keys, hid] at hk
    cases hk
  have hperm := ((t.current.keys_put_perm () hid).filter fun k =>
    (t.record id kind trigger cell).ownerOf k = some other).length_eq
  -- The other operations in flight keep their owners, so only the new one makes a difference.
  have hrest : (t.current.keys.filter fun k =>
      (t.record id kind trigger cell).ownerOf k = some other) = t.owned other := by
    refine List.filter_congr ?_
    intro k hk
    rw [ownerOf_record, if_neg (hkeys k hk)]
  rw [owned, current_record, hperm, List.filter_cons, hrest, ownerOf_record, if_pos rfl]
  by_cases h : cell = other
  · subst h; simp
  · simp [h]

/-- Whatever number it gets, an operation that is recorded is in flight, and its status says so. -/
theorem marked_record {t : Tracker} (h : t.Marked) (id : Nat) (kind : String) (trigger cell : Nat) :
    (t.record id kind trigger cell).Marked := by
  intro other
  rw [current_record, Table.contains_put, get?_operations_record]
  by_cases heq : id = other
  · simp [heq]
  · rw [if_neg heq, decide_eq_false heq, Bool.false_or, h]
    split
    next => simp
    next => rfl

/-- Recording an operation under a fresh number keeps the agreement. -/
theorem exact_record {t : Tracker} {next : Nat} (h : t.Exact next) (kind : String)
    (trigger cell : Nat) : (t.record next kind trigger cell).Exact (next + 1) where
  bound_lt := by
    intro id c hid
    rw [bindings_record, Table.get?_put] at hid
    split at hid
    next heq => omega
    next => exact Nat.lt_succ_of_lt (h.bound_lt id c hid)
  bound_cell := by
    intro id op hop
    rw [get?_operations_record] at hop
    rw [bindings_record, Table.get?_put]
    split at hop
    next heq =>
      rw [if_pos heq]
      cases hop
      rfl
    next hne =>
      rw [if_neg hne]
      split at hop
      next =>
        obtain ⟨op', hop', rfl⟩ := Option.map_eq_some_iff.1 hop
        exact h.bound_cell id op' hop'
      next => exact h.bound_cell id op hop
  current_iff := marked_record h.current_iff next kind trigger cell
  count_eq := by
    intro other
    rw [count_record, length_owned_record t kind trigger cell other h.fresh_current,
      h.count_eq other]
    split <;> simp

/-! ### Completing -/

/-- The cell of a bound operation is the one that it is bound to. -/
theorem findCell_of_bound {t : Tracker} {id cell : Nat} (h : t.bindings.get? id = some cell) :
    t.findCell id = some cell := by
  rw [findCell, findCellFrom, h]

/-- Completing an operation in flight takes it from the set, marks it in the history, and counts its
cell down. -/
theorem completed_eq {t : Tracker} {id cell : Nat} (ht : t.tracking = true)
    (hid : t.current.contains id = true) (hcell : t.bindings.get? id = some cell) :
    t.completed id =
      { t with
        current := t.current.erase id
        operations := t.operations.modify id fun op => { op with status := .completed }
        counts := t.counts.modify cell (· - 1) } := by
  let u : Tracker :=
    { t with
      current := t.current.erase id
      operations := t.operations.modify id fun op => { op with status := .completed } }
  have hfind : u.findCell id = some cell := findCell_of_bound hcell
  unfold completed
  rw [if_neg (by simp [ht, hid])]
  dsimp only
  rw [hfind]

/-- Completing what is not in flight, or while signals are not heeded, changes nothing. -/
theorem completed_eq_self {t : Tracker} {id : Nat}
    (h : ¬(t.tracking = true ∧ t.current.contains id = true)) : t.completed id = t := by
  unfold completed
  by_cases ht : t.tracking = true
  · have hid : t.current.contains id = false := by simpa [ht] using h
    simp [hid]
  · simp [ht]

/-- Completing an operation changes nothing in the history but a status. -/
theorem map_operations_completed {β : Type} (t : Tracker) (id other : Nat) {f : Operation → β}
    (hf : ∀ (op : Operation) (status : OperationStatus), f { op with status } = f op) :
    ((t.completed id).operations.get? other).map f = (t.operations.get? other).map f := by
  have hmark : ((t.operations.modify id fun op => { op with status := .completed }).get? other).map f =
      (t.operations.get? other).map f := by
    rw [Table.get?_modify]
    split
    next =>
      rw [Option.map_map]
      exact congrArg (fun g => Option.map g _) (funext fun op => hf op .completed)
    next => rfl
  unfold completed
  split
  · rfl
  · dsimp only
    split <;> exact hmark

/-- Completing an operation changes the owner of none. -/
theorem ownerOf_completed (t : Tracker) (id other : Nat) :
    (t.completed id).ownerOf other = t.ownerOf other :=
  t.map_operations_completed id other fun _ _ => rfl

/-- Completing an operation makes it and no other leave the set of those in flight. -/
theorem contains_current_completed {t : Tracker} (ht : t.tracking = true) (id other : Nat) :
    (t.completed id).current.contains other
      = (!decide (id = other) && t.current.contains other) := by
  unfold completed
  split
  next h =>
    by_cases heq : id = other
    · subst heq
      simpa [ht] using h
    · simp [heq]
  next =>
    dsimp only
    split <;> exact t.current.contains_erase id other

/-- Completing an operation in flight marks it in the history, and nothing else changes there. -/
theorem get?_operations_completed {t : Tracker} (ht : t.tracking = true) (id other : Nat) :
    (t.completed id).operations.get? other =
      if t.current.contains id = true ∧ id = other then
        (t.operations.get? other).map fun op => { op with status := .completed }
      else t.operations.get? other := by
  by_cases hid : t.current.contains id = true
  · have hmark : (t.completed id).operations =
        t.operations.modify id fun op => { op with status := .completed } := by
      unfold completed
      rw [if_neg (by simp [ht, hid])]
      dsimp only
      split <;> rfl
    rw [hmark, Table.get?_modify]
    simp only [hid, true_and]
  · rw [completed_eq_self fun hboth => hid hboth.2, if_neg fun hboth => hid hboth.1]

/-- The end of an operation is seen in the set as in the history. -/
theorem marked_completed {t : Tracker} (h : t.Marked) (id : Nat) : (t.completed id).Marked := by
  by_cases ht : t.tracking = true
  · intro other
    rw [contains_current_completed ht, get?_operations_completed ht]
    by_cases heq : id = other
    · subst heq
      by_cases hid : t.current.contains id = true
      · simp [hid]
      · rw [if_neg fun hboth => hid hboth.1, ← h id]
        simp [hid]
    · rw [if_neg fun hboth => heq hboth.2, decide_eq_false heq, Bool.not_false, Bool.true_and]
      exact h other
  · rw [completed_eq_self fun hboth => ht hboth.1]
    exact h

/-- What has been recorded stays known. -/
theorem knows_completed (t : Tracker) (id other : Nat) :
    (t.completed id).knows other = t.knows other := by
  have howner := t.ownerOf_completed id other
  rw [ownerOf, ownerOf] at howner
  have hsome := congrArg Option.isSome howner
  rwa [Option.isSome_map, Option.isSome_map] at hsome

theorem tracking_completed (t : Tracker) (id : Nat) : (t.completed id).tracking = t.tracking := by
  unfold completed
  split
  · rfl
  · dsimp only
    split <;> rfl

/-- Completing an operation takes it from those of its cell that are in flight. -/
theorem length_owned_completed {t : Tracker} {id cell : Nat} (ht : t.tracking = true)
    (hid : t.current.contains id = true) (hcell : t.bindings.get? id = some cell)
    (howner : t.ownerOf id = some cell) (other : Nat) :
    (t.owned other).length =
      ((t.completed id).owned other).length + if cell = other then 1 else 0 := by
  have hcurrent : (t.completed id).current = t.current.erase id := by
    rw [completed_eq ht hid hcell]
  have hperm := ((t.current.keys_erase_perm hid).filter fun k => t.ownerOf k = some other).length_eq
  simp only [owned, ownerOf_completed, hcurrent]
  rw [hperm, List.filter_cons, howner]
  by_cases h : cell = other <;> simp [h]

/-- Completing an operation counts its cell down and no other. -/
theorem count_completed {t : Tracker} {id cell : Nat} (ht : t.tracking = true)
    (hid : t.current.contains id = true) (hcell : t.bindings.get? id = some cell)
    (hcounter : t.counts.contains cell = true) (other : Nat) :
    t.count other = (t.completed id).count other + if cell = other then 1 else 0 := by
  obtain ⟨n, hn⟩ := (t.counts.contains_iff cell).1 hcounter
  rw [completed_eq ht hid hcell, count, count]
  simp only [Table.get?_modify]
  by_cases h : cell = other
  · subst h
    rw [if_pos rfl, if_pos rfl, hn, Option.map_some, Option.getD_some, Option.getD_some]
    omega
  · rw [if_neg h, if_neg h, Int.add_zero]

/-- Completing an operation keeps the agreement. -/
theorem exact_completed {t : Tracker} {next : Nat} (h : t.Exact next) (id : Nat) :
    (t.completed id).Exact next := by
  by_cases hactive : t.tracking = true ∧ t.current.contains id = true
  · obtain ⟨ht, hid⟩ := hactive
    obtain ⟨op, hop, hstatus⟩ := (h.current_iff id).1 hid
    have hcell : t.bindings.get? id = some op.cell := h.bound_cell id op hop
    have howner : t.ownerOf id = some op.cell :=
      (t.ownerOf_eq_some_iff id op.cell).2 ⟨op, hop, rfl⟩
    have hcounter := h.contains_counts hid howner
    refine ⟨?_, ?_, ?_, ?_⟩
    · rw [completed_eq ht hid hcell]
      exact h.bound_lt
    · rw [completed_eq ht hid hcell]
      intro other op' hop'
      simp only [Table.get?_modify] at hop'
      split at hop'
      next =>
        obtain ⟨op₀, hop₀, rfl⟩ := Option.map_eq_some_iff.1 hop'
        exact h.bound_cell other op₀ hop₀
      next => exact h.bound_cell other op' hop'
    · exact marked_completed h.current_iff id
    · -- Counter and set lose the same one, and `hcounter` says that there was a counter to lose it.
      intro cell
      have hcount := count_completed ht hid hcell hcounter cell
      have hlength := length_owned_completed ht hid hcell howner cell
      have hexact := h.count_eq cell
      split at hcount <;> split at hlength <;> omega
  · rw [completed_eq_self hactive]
    exact h

/-! ### Every change -/

theorem exact_bind {t : Tracker} {next : Nat} (h : t.Exact next) (cell : Nat) :
    (t.bind next cell).Exact (next + 1) where
  bound_lt := by
    intro id c hid
    rw [bind, Table.get?_put] at hid
    split at hid
    next heq => omega
    next => exact Nat.lt_succ_of_lt (h.bound_lt id c hid)
  bound_cell := by
    intro id op hop
    rw [bind, Table.get?_put, if_neg (Nat.ne_of_gt (h.operation_lt hop))]
    exact h.bound_cell id op hop
  current_iff := h.current_iff
  count_eq := h.count_eq

theorem Exact.mono {t : Tracker} {next next' : Nat} (h : t.Exact next) (hle : next ≤ next') :
    t.Exact next' :=
  ⟨fun id cell hid => Nat.lt_of_lt_of_le (h.bound_lt id cell hid) hle, h.bound_cell, h.current_iff,
    h.count_eq⟩

theorem exact_created {t : Tracker} {next : Nat} (h : t.Exact next) (kind : String)
    (trigger : Nat) : (t.created next kind trigger).Exact (next + 1) := by
  unfold created
  split
  · exact h.mono (Nat.le_succ next)
  · cases hcell : t.findCell trigger with
    | none => exact h.mono (Nat.le_succ next)
    | some cell => exact exact_record h kind trigger cell

/-- Whatever a call does to the tracker keeps the agreement. -/
theorem exact_change {t t' : Tracker} {next next' : Nat} (c : Change t next t' next')
    (h : t.Exact next) : t'.Exact next' := by
  cases c with
  | same => exact h
  | start => exact ⟨h.bound_lt, h.bound_cell, h.current_iff, h.count_eq⟩
  | stop => exact ⟨h.bound_lt, h.bound_cell, h.current_iff, h.count_eq⟩
  | scope cell => exact exact_bind h cell
  | created kind trigger => exact exact_created h kind trigger
  | completed id => exact exact_completed h id

/-! ### What the agreement says -/

/-- Items sorted into boxes: the boxes together hold as many as there are. -/
theorem sum_length_filter (f : Nat → Option Nat) (boxes : Finset Nat) (items : List Nat)
    (h : ∀ k ∈ items, ∃ box ∈ boxes, f k = some box) :
    ∑ box ∈ boxes, (items.filter fun k => f k = some box).length = items.length := by
  induction items with
  | nil => simp
  | cons k items ih =>
      obtain ⟨box, hbox, hk⟩ := h k (by simp)
      have hstep : ∀ b, ((k :: items).filter fun k => f k = some b).length =
          (items.filter fun k => f k = some b).length + if box = b then 1 else 0 := by
        intro b
        rw [List.filter_cons, hk]
        by_cases hb : box = b <;> simp [hb]
      simp only [hstep]
      rw [Finset.sum_add_distrib, ih fun j hj => h j (by simp [hj]), Finset.sum_ite_eq,
        if_pos hbox, List.length_cons]

namespace Exact

variable {t : Tracker} {next : Nat}

theorem count_nonneg (h : t.Exact next) (cell : Nat) : 0 ≤ t.count cell := by
  rw [h.count_eq cell]
  exact Int.natCast_nonneg _

/-- The counters sum to the number of operations in flight. -/
theorem sum_counts (h : t.Exact next) : t.counts.values.sum = t.inFlight := by
  have hboxes : ∀ id ∈ t.current.keys, ∃ cell ∈ t.counts.keys.toFinset, t.ownerOf id = some cell := by
    intro id hid
    rw [Table.mem_keys] at hid
    obtain ⟨cell, hcell⟩ := h.owner_of_current hid
    exact ⟨cell, by rw [List.mem_toFinset, Table.mem_keys]; exact h.contains_counts hid hcell, hcell⟩
  rw [Table.sum_values, inFlight, ← Table.length_keys,
    ← sum_length_filter t.ownerOf t.counts.keys.toFinset t.current.keys hboxes, Nat.cast_sum]
  exact Finset.sum_congr rfl fun cell _ => h.count_eq cell

/-- A cell has drained exactly if no operation in flight was recorded for it. -/
theorem isDrained_iff (h : t.Exact next) (cell : Nat) :
    t.isDrained cell = true ↔
      ∀ id op, t.operations.get? id = some op → op.status = .inFlight → op.cell ≠ cell := by
  rw [isDrained, decide_eq_true_eq, h.count_eq cell]
  constructor
  · intro hle id op hop hstatus hcell
    have hmem : id ∈ t.owned cell := (t.mem_owned cell id).2
      ⟨(h.current_iff id).2 ⟨op, hop, hstatus⟩, (t.ownerOf_eq_some_iff id cell).2 ⟨op, hop, hcell⟩⟩
    have := List.length_pos_of_mem hmem
    omega
  · intro hnone
    have hnil : t.owned cell = [] := by
      refine List.eq_nil_iff_forall_not_mem.2 ?_
      intro id hid
      obtain ⟨hcurrent, howner⟩ := (t.mem_owned cell id).1 hid
      obtain ⟨op, hop, hstatus⟩ := (h.current_iff id).1 hcurrent
      obtain ⟨op', hop', hcell⟩ := (t.ownerOf_eq_some_iff id cell).1 howner
      rw [hop] at hop'
      cases hop'
      exact hnone id op hop hstatus hcell
    rw [hnil]
    simp

end Exact

end Tracker

/-! ### Every run -/

namespace Host

/-- The host of a run whose cells are named. -/
def opened (settings : Settings) (file : String) (cells : List String) : Host :=
  (new settings file).setCells cells

/-- The agreement holds after every list of calls. -/
theorem exact_after (settings : Settings) (file : String) (cells : List String)
    (calls : List Call) :
    let h := (opened settings file cells).after calls
    h.tracker.Exact h.nextOperation :=
  after_induction calls (Tracker.exact_new _) fun h c hexact =>
    Tracker.exact_change (h.change_perform c) hexact

/-- **In every run the counter of a cell is the number of its operations in flight.**  So no counter is
negative, the counters sum to the number of operations in flight, an operation is in the set of those in
flight exactly if its status says so, and a cell has drained exactly if it owns none of them. -/
theorem counts_exact (settings : Settings) (file : String) (cells : List String)
    (calls : List Call) :
    let t := ((opened settings file cells).after calls).tracker
    (∀ cell, t.count cell = (t.owned cell).length) ∧
      (∀ cell, 0 ≤ t.count cell) ∧
      t.counts.values.sum = t.inFlight ∧
      (∀ id, t.current.contains id = true ↔
        ∃ op, t.operations.get? id = some op ∧ op.status = .inFlight) ∧
      ∀ cell, t.isDrained cell = true ↔
        ∀ id op, t.operations.get? id = some op → op.status = .inFlight → op.cell ≠ cell := by
  have hexact := exact_after settings file cells calls
  exact ⟨hexact.count_eq, hexact.count_nonneg, hexact.sum_counts, hexact.current_iff,
    hexact.isDrained_iff⟩

end Host

end NotebookEngine
