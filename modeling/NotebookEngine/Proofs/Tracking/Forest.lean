/-
**The picture of the operations is a forest.**

The picture shows each operation above those that it triggered, and these above theirs.  Whoever draws it
follows the lists of children as far as they go; nothing looks out for a circle.  There is none, whatever
numbers the operations are created under: an operation that is created anew has no children, so every
operation was created, for the last time, before all of its children were.  The drawing therefore ends by
itself, and the bound that it is given never cuts it short.

An operation whose number comes up again may be drawn in several places.  If no number does, the picture
is what one would draw from a log of the creations: each operation once, under its trigger or side by side
with the other roots, in the order of their creation.

Main definitions:

* `Tracker.Call`, `Tracker.after` — what a tracker can be asked to do, and the tracker after that;
* `OperationTree` — operations above those that they triggered, and how they are drawn;
* `Tracker.Unfolds` — the tree that an operation unfolds to, however deep it is;
* `Creation`, `Tracker.creations` — the log of the operations that were recorded;
* `Tracker.Dated`, `Tracker.Logged` — what dates of creation and the log say of a tracker.

Main results:

* `Tracker.dated_perform`, `Tracker.Dated.acyclic` — every call keeps operations older than their
  children, so no operation is below itself;
* `Tracker.Dated.exists_unfolds` — drawing an operation comes to an end;
* `OperationTree.allNodes_perm`, `Tracker.Logged.nodes_perm` — in a picture that agrees with the log
  each operation is drawn once;
* `Tracker.dump_draws_forest` — **the picture of every tracker**.
-/

import Mathlib.Algebra.BigOperators.Group.List.Basic
import Mathlib.Logic.Relation
import NotebookEngine.Proofs.Tracking.SignalOrder
import NotebookEngine.Tracking.Snapshot

set_option autoImplicit false

namespace NotebookEngine

/-! ### Trees of operations -/

/-- An operation above the trees of those that it triggered. -/
inductive OperationTree where
  | node (op : Operation) (branches : List OperationTree)

namespace OperationTree

/-- The operation at the top. -/
def root : OperationTree → Operation
  | .node op _ => op

/-- The trees right below it. -/
def branches : OperationTree → List OperationTree
  | .node _ branches => branches

/-- The number of the operation at the top. -/
def id (s : OperationTree) : Nat := s.root.id

mutual

/-- A tree as it is drawn: what is known of the operation at its top, with the trees below it. -/
def json : OperationTree → Json
  | .node op branches =>
    .obj [("asyncId", .int op.id), ("cellIndex", .int op.cell), ("children", .arr (jsons branches)),
      ("status", .str (if op.status = .inFlight then "in-flight" else "completed")),
      ("triggerAsyncId", .int op.trigger), ("type", .str op.kind)]

/-- Trees side by side as they are drawn. -/
def jsons : List OperationTree → List Json
  | [] => []
  | s :: ss => s.json :: jsons ss

end

theorem json_node (op : Operation) (branches : List OperationTree) :
    (node op branches).json = Tracker.operationJson op (jsons branches) := by
  rw [json, Tracker.operationJson]
  cases op.status <;> rfl

mutual

/-- A tree and all trees within it, each before those below it. -/
def nodes : OperationTree → List OperationTree
  | .node op branches => .node op branches :: allNodes branches

/-- The trees of a forest and all trees within them. -/
def allNodes : List OperationTree → List OperationTree
  | [] => []
  | s :: ss => s.nodes ++ allNodes ss

end

mutual

theorem nodes_perm : ∀ s : OperationTree, s.nodes.Perm (s :: s.nodes.flatMap branches)
  | .node op ss => by
      have hbelow := allNodes_perm ss
      rw [nodes, List.flatMap_cons]
      exact hbelow.cons _

/-- **Every tree of a forest is one of its own or right below exactly one other.** -/
theorem allNodes_perm : ∀ ss : List OperationTree,
    (allNodes ss).Perm (ss ++ (allNodes ss).flatMap branches)
  | [] => .nil
  | s :: ss => by
      have hfirst := nodes_perm s
      have hrest := allNodes_perm ss
      rw [allNodes, List.flatMap_append]
      refine (hfirst.append hrest).trans ?_
      rw [List.cons_append, List.cons_append]
      refine List.Perm.cons s ?_
      -- The trees below the first one change places with the rest of the forest.
      rw [← List.append_assoc, ← List.append_assoc]
      exact List.perm_append_comm.append_right _

end

end OperationTree

namespace Tracker

/-! ### Calls -/

/-- What a tracker can be asked to do. -/
inductive Call where
  | start
  | stop
  | bind (id cell : Nat)
  | signal (s : Signal)

/-- The operation that a call says was created. -/
def Call.createdId? : Call → Option Nat
  | .signal s => s.createdId?
  | _ => none

/-- The operations that are created by a list of calls, in order. -/
def Call.createdIds (calls : List Call) : List Nat := calls.filterMap createdId?

/-- The tracker after a call. -/
def perform (t : Tracker) : Call → Tracker
  | .start => t.start
  | .stop => t.stop
  | .bind id cell => t.bind id cell
  | .signal s => t.heed s

/-- The tracker after a list of calls. -/
def after (t : Tracker) (calls : List Call) : Tracker := calls.foldl perform t

theorem after_concat (t : Tracker) (calls : List Call) (c : Call) :
    t.after (calls ++ [c]) = (t.after calls).perform c := List.foldl_concat ..

/-! ### Children -/

/-- The children of an operation, if it is tracked. -/
def children? (t : Tracker) (id : Nat) : Option (List Nat) :=
  (t.operations.get? id).map Operation.children

/-- The tracker lists one operation among the children of another. -/
def IsChild (t : Tracker) (parent child : Nat) : Prop :=
  ∃ op, t.operations.get? parent = some op ∧ child ∈ op.children

theorem isChild_iff (t : Tracker) (parent child : Nat) :
    t.IsChild parent child ↔ ∃ ids, t.children? parent = some ids ∧ child ∈ ids := by
  constructor
  · rintro ⟨op, hop, hchild⟩
    exact ⟨op.children, by rw [children?, hop, Option.map_some], hchild⟩
  · rintro ⟨ids, hids, hchild⟩
    obtain ⟨op, hop, rfl⟩ := Option.map_eq_some_iff.1 hids
    exact ⟨op, hop, hchild⟩

/-- A new operation has no children, and its trigger has it as one child more. -/
theorem children?_record (t : Tracker) (id : Nat) (kind : String) (trigger cell other : Nat) :
    (t.record id kind trigger cell).children? other =
      if id = other then some []
      else if trigger = other then (t.children? other).map (· ++ [id])
      else t.children? other := by
  rw [children?, get?_operations_record]
  split
  next => rfl
  next =>
    split
    next => rw [children?, Option.map_map, Option.map_map]; rfl
    next => rfl

theorem children?_completed (t : Tracker) (id other : Nat) :
    (t.completed id).children? other = t.children? other :=
  t.map_operations_completed id other fun _ _ => rfl

/-! ### Dates of creation -/

/-- Dates at which the operations were created for the last time: each is tracked under its own number,
and was created before its children. -/
structure Dated (t : Tracker) (birth : Nat → Nat) (now : Nat) : Prop where
  named : ∀ id op, t.operations.get? id = some op → op.id = id
  past : ∀ id, t.knows id = true → birth id < now
  younger : ∀ parent child, t.IsChild parent child → birth parent < birth child

theorem dated_new : new.Dated (fun _ => 0) 0 where
  named := by intro id op h; cases h
  past := by intro id h; cases h
  younger := by
    rintro parent child ⟨op, hop, -⟩
    cases hop

/-- A tracker that knows the same operations with the same children. -/
theorem Dated.transfer {t t' : Tracker} {birth : Nat → Nat} {now : Nat} (h : t.Dated birth now)
    (hids : ∀ id, (t'.operations.get? id).map Operation.id = (t.operations.get? id).map Operation.id)
    (hchildren : ∀ id, t'.children? id = t.children? id) : t'.Dated birth now where
  named := by
    intro id op hop
    have hid := hids id
    rw [hop, Option.map_some] at hid
    obtain ⟨op', hop', hsame⟩ := Option.map_eq_some_iff.1 hid.symm
    rw [← hsame]
    exact h.named id op' hop'
  past := by
    intro id hid
    have hsome := congrArg Option.isSome (hids id)
    rw [Option.isSome_map, Option.isSome_map] at hsome
    exact h.past id (hsome.symm.trans hid)
  younger := by
    intro parent child hchild
    rw [isChild_iff, hchildren, ← isChild_iff] at hchild
    exact h.younger parent child hchild

/-- An operation that is recorded is the youngest from then on, also if its number was in use. -/
theorem dated_record {t : Tracker} {birth : Nat → Nat} {now : Nat} (h : t.Dated birth now) (id : Nat)
    (kind : String) (trigger cell : Nat) :
    (t.record id kind trigger cell).Dated (Function.update birth id now) (now + 1) where
  named := by
    intro other op hop
    rw [get?_operations_record] at hop
    split at hop
    next heq =>
      cases hop
      exact heq
    next =>
      split at hop
      next =>
        obtain ⟨op', hop', rfl⟩ := Option.map_eq_some_iff.1 hop
        exact h.named other op' hop'
      next => exact h.named other op hop
  past := by
    intro other hother
    rw [Function.update_apply]
    split
    next => exact Nat.lt_succ_self now
    next hne =>
      rw [knows_record, decide_eq_false (Ne.symm hne), Bool.false_or] at hother
      exact Nat.lt_succ_of_lt (h.past other hother)
  younger := by
    intro parent child hchild
    rw [isChild_iff] at hchild
    obtain ⟨ids, hids, hmem⟩ := hchild
    rw [children?_record] at hids
    split at hids
    next =>
      cases hids
      cases hmem
    next hparent =>
      rw [Function.update_of_ne (Ne.symm hparent), Function.update_apply]
      -- The parent was tracked before, so it is older than the new operation and than its old children.
      have hold : ∀ ids, t.children? parent = some ids → birth parent < now ∧
          ∀ c ∈ ids, birth parent < birth c := by
        intro ids hids
        obtain ⟨op, hop, -⟩ := Option.map_eq_some_iff.1 hids
        exact ⟨h.past parent ((t.operations.contains_iff parent).2 ⟨op, hop⟩),
          fun c hc => h.younger parent c ((t.isChild_iff parent c).2 ⟨ids, hids, hc⟩)⟩
      split at hids
      next =>
        obtain ⟨olds, holds, rfl⟩ := Option.map_eq_some_iff.1 hids
        obtain ⟨hnow, holder⟩ := hold olds holds
        split
        next => exact hnow
        next hne =>
          rcases List.mem_append.1 hmem with hmem | hmem
          · exact holder child hmem
          · exact absurd (List.mem_singleton.1 hmem) hne
      next =>
        obtain ⟨hnow, holder⟩ := hold ids hids
        split
        next => exact hnow
        next => exact holder child hmem

/-- **Every call keeps operations older than their children.** -/
theorem dated_perform {t : Tracker} {birth : Nat → Nat} {now : Nat} (h : t.Dated birth now) (c : Call) :
    ∃ birth' now', (t.perform c).Dated birth' now' := by
  cases c with
  | start => exact ⟨birth, now, h.transfer (fun _ => rfl) fun _ => rfl⟩
  | stop => exact ⟨birth, now, h.transfer (fun _ => rfl) fun _ => rfl⟩
  | bind id cell => exact ⟨birth, now, h.transfer (fun _ => rfl) fun _ => rfl⟩
  | signal s =>
      cases s with
      | created id kind trigger =>
          rw [perform, heed]
          rcases t.created_cases id kind trigger with heq | ⟨cell, heq⟩
          · rw [heq]
            exact ⟨birth, now, h⟩
          · rw [heq]
            exact ⟨_, _, dated_record h id kind trigger cell⟩
      | completed id =>
          exact ⟨birth, now, h.transfer
            (fun other => t.map_operations_completed id other fun _ _ => rfl)
            (t.children?_completed id)⟩

theorem exists_dated_after (calls : List Call) :
    ∃ birth now, (new.after calls).Dated birth now := by
  induction calls using List.reverseRecOn with
  | nil => exact ⟨_, _, dated_new⟩
  | append_singleton calls c ih =>
      obtain ⟨birth, now, h⟩ := ih
      rw [after_concat]
      exact dated_perform h c

namespace Dated

variable {t : Tracker} {birth : Nat → Nat} {now : Nat}

theorem lt_of_transGen (h : t.Dated birth now) {a b : Nat} (hab : Relation.TransGen t.IsChild a b) :
    birth a < birth b := by
  induction hab with
  | single hchild => exact h.younger _ _ hchild
  | tail _ hchild ih => exact ih.trans (h.younger _ _ hchild)

/-- **No operation is below itself.** -/
theorem acyclic (h : t.Dated birth now) (id : Nat) : ¬Relation.TransGen t.IsChild id id :=
  fun hcircle => Nat.lt_irrefl _ (h.lt_of_transGen hcircle)

end Dated

/-! ### Unfolding -/

/-- The operations with some numbers, as far as they are tracked. -/
def tracked (t : Tracker) (ids : List Nat) : List Operation := ids.filterMap t.operations.get?

theorem mem_tracked (t : Tracker) (ids : List Nat) (op : Operation) :
    op ∈ t.tracked ids ↔ ∃ id ∈ ids, t.operations.get? id = some op := List.mem_filterMap

mutual

/-- The tree that an operation unfolds to: below it are the trees of its children. -/
inductive Unfolds (t : Tracker) : Operation → OperationTree → Prop
  | node {op : Operation} {branches : List OperationTree}
      (hall : UnfoldsAll t (t.tracked op.children) branches) : Unfolds t op (.node op branches)

/-- The trees that operations unfold to, side by side. -/
inductive UnfoldsAll (t : Tracker) : List Operation → List OperationTree → Prop
  | nil : UnfoldsAll t [] []
  | cons {op : Operation} {ops : List Operation} {s : OperationTree} {ss : List OperationTree}
      (hop : Unfolds t op s) (hops : UnfoldsAll t ops ss) : UnfoldsAll t (op :: ops) (s :: ss)

end

/-- The tree of an operation, whatever depth from some on is allowed for drawing it. -/
def DrawnFrom (t : Tracker) (depth : Nat) (op : Operation) (s : OperationTree) : Prop :=
  t.Unfolds op s ∧ ∀ n, depth ≤ n → t.operationTree n op = s.json

/-- Operations that can be drawn one by one can be drawn side by side. -/
theorem exists_unfoldsAll {t : Tracker} {depth : Nat} (ops : List Operation)
    (hops : ∀ op ∈ ops, ∃ s, t.DrawnFrom depth op s) :
    ∃ ss, t.UnfoldsAll ops ss ∧
      ∀ n, depth ≤ n → ops.map (t.operationTree n) = OperationTree.jsons ss := by
  induction ops with
  | nil => exact ⟨[], .nil, fun _ _ => rfl⟩
  | cons op ops ih =>
      rw [List.forall_mem_cons] at hops
      obtain ⟨⟨s, hs, hdrawn⟩, hrest⟩ := hops
      obtain ⟨ss, hss, hall⟩ := ih hrest
      refine ⟨s :: ss, .cons hs hss, ?_⟩
      intro n hn
      rw [List.map_cons, OperationTree.jsons, hdrawn n hn, hall n hn]

/-- The tracked operations that are no older than one. -/
def noOlder (t : Tracker) (birth : Nat → Nat) (id : Nat) : Finset Nat :=
  t.operations.keys.toFinset.filter (birth id ≤ birth ·)

theorem card_noOlder_le (t : Tracker) (birth : Nat → Nat) (id : Nat) :
    (t.noOlder birth id).card ≤ t.operations.size := by
  calc (t.noOlder birth id).card
      ≤ t.operations.keys.toFinset.card := Finset.card_filter_le _ _
    _ ≤ t.operations.keys.length := t.operations.keys.toFinset_card_le
    _ = t.operations.size := t.operations.length_keys

/-- There are fewer of them for a younger operation. -/
theorem card_noOlder_lt {t : Tracker} {birth : Nat → Nat} {a b : Nat} (hknown : t.knows a = true)
    (hlt : birth a < birth b) : (t.noOlder birth b).card < (t.noOlder birth a).card := by
  refine Finset.card_lt_card (Finset.ssubset_iff_of_subset ?_ |>.2 ⟨a, ?_, ?_⟩)
  · intro k hk
    obtain ⟨hmem, hle⟩ := Finset.mem_filter.1 hk
    exact Finset.mem_filter.2 ⟨hmem, by omega⟩
  · exact Finset.mem_filter.2
      ⟨List.mem_toFinset.2 ((t.operations.mem_keys a).2 hknown), Nat.le_refl _⟩
  · intro ha
    have hle := (Finset.mem_filter.1 ha).2
    omega

namespace Dated

variable {t : Tracker} {birth : Nat → Nat} {now : Nat}

/-- **Drawing a tracked operation comes to an end**, and needs no more depth than there are operations
that are not older. -/
theorem exists_unfolds (h : t.Dated birth now) {id : Nat} {op : Operation}
    (hop : t.operations.get? id = some op) :
    ∃ s, t.DrawnFrom (t.noOlder birth id).card op s := by
  -- The children are younger, so fewer operations are no older than they are.
  induction hcard : (t.noOlder birth id).card using Nat.strong_induction_on generalizing id op with
  | _ depth ih =>
      have hknown : t.knows id = true := (t.operations.contains_iff id).2 ⟨op, hop⟩
      have hchildren : ∀ child ∈ t.tracked op.children, ∃ s, t.DrawnFrom (depth - 1) child s := by
        intro child hchild
        obtain ⟨k, hk, hget⟩ := (t.mem_tracked op.children child).1 hchild
        have hless := card_noOlder_lt hknown (h.younger id k ⟨op, hop, hk⟩)
        obtain ⟨s, hs, hdrawn⟩ := ih _ (hcard ▸ hless) hget rfl
        exact ⟨s, hs, fun n hn => hdrawn n (by omega)⟩
      obtain ⟨branches, hbranches, hall⟩ := Tracker.exists_unfoldsAll _ hchildren
      refine ⟨.node op branches, .node hbranches, ?_⟩
      intro n hn
      have hpos : 0 < depth := by
        rw [← hcard]
        exact Finset.card_pos.2 ⟨id, Finset.mem_filter.2
          ⟨List.mem_toFinset.2 ((t.operations.mem_keys id).2 hknown), Nat.le_refl _⟩⟩
      obtain ⟨m, rfl⟩ : ∃ m, n = m + 1 := ⟨n - 1, by omega⟩
      have hdrawn := hall m (by omega)
      rw [operationTree, OperationTree.json_node, ← hdrawn]
      rfl

/-- So does drawing several, each with as much depth as there are operations. -/
theorem exists_unfoldsAll (h : t.Dated birth now) (ids : List Nat) :
    ∃ ss, t.UnfoldsAll (t.tracked ids) ss ∧
      (t.tracked ids).map (t.operationTree t.operations.size) = OperationTree.jsons ss := by
  have hops : ∀ op ∈ t.tracked ids, ∃ s, t.DrawnFrom t.operations.size op s := by
    intro op hop
    obtain ⟨id, -, hget⟩ := (t.mem_tracked ids op).1 hop
    obtain ⟨s, hs, hdrawn⟩ := h.exists_unfolds hget
    exact ⟨s, hs, fun n hn => hdrawn n ((t.card_noOlder_le birth id).trans hn)⟩
  obtain ⟨ss, hss, hall⟩ := Tracker.exists_unfoldsAll _ hops
  exact ⟨ss, hss, hall _ (Nat.le_refl _)⟩

/-- Operations that are all tracked have the numbers under which they were looked up. -/
theorem map_id_tracked (h : t.Dated birth now) {ids : List Nat} (hids : ∀ id ∈ ids, t.knows id = true) :
    (t.tracked ids).map Operation.id = ids := by
  induction ids with
  | nil => rfl
  | cons id ids ih =>
      rw [List.forall_mem_cons] at hids
      obtain ⟨op, hop⟩ := (t.operations.contains_iff id).1 hids.1
      have hrest := ih hids.2
      rw [tracked] at hrest ⊢
      rw [List.filterMap_cons_some hop, List.map_cons, hrest, h.named id op hop]

end Dated

theorem Unfolds.root_eq {t : Tracker} {op : Operation} {s : OperationTree} (h : t.Unfolds op s) :
    s.root = op := by
  cases h with
  | node => rfl

theorem UnfoldsAll.roots_eq {t : Tracker} : ∀ {ops : List Operation} {ss : List OperationTree},
    t.UnfoldsAll ops ss → ss.map OperationTree.root = ops
  | _, _, .nil => rfl
  | _, _, .cons hop hops => by rw [List.map_cons, hop.root_eq, hops.roots_eq]

/-- A tree that shows what is tracked of the operation at its top, above its children. -/
def Shows (t : Tracker) (s : OperationTree) : Prop :=
  t.operations.get? s.id = some s.root ∧ s.branches.map OperationTree.root = t.tracked s.root.children

mutual

theorem Unfolds.shows {t : Tracker} {birth : Nat → Nat} {now : Nat} (hd : t.Dated birth now) :
    ∀ {op : Operation} {s : OperationTree}, t.Unfolds op s → t.operations.get? op.id = some op →
      ∀ u ∈ s.nodes, t.Shows u
  | op, .node _ _, .node hall, hop, u, hu => by
      rw [OperationTree.nodes, List.mem_cons] at hu
      rcases hu with rfl | hu
      · exact ⟨hop, hall.roots_eq⟩
      · refine UnfoldsAll.shows hd hall ?_ u hu
        intro child hchild
        obtain ⟨k, -, hk⟩ := (t.mem_tracked op.children child).1 hchild
        rw [hd.named k child hk]
        exact hk

/-- What tracked operations unfold to shows them and all operations below them. -/
theorem UnfoldsAll.shows {t : Tracker} {birth : Nat → Nat} {now : Nat} (hd : t.Dated birth now) :
    ∀ {ops : List Operation} {ss : List OperationTree}, t.UnfoldsAll ops ss →
      (∀ op ∈ ops, t.operations.get? op.id = some op) → ∀ u ∈ OperationTree.allNodes ss, t.Shows u
  | _, _, .nil, _, u, hu => by cases hu
  | _, _, .cons hop hops, hget, u, hu => by
      rw [List.forall_mem_cons] at hget
      rw [OperationTree.allNodes, List.mem_append] at hu
      rcases hu with hu | hu
      · exact Unfolds.shows hd hop hget.1 u hu
      · exact UnfoldsAll.shows hd hops hget.2 u hu

end

/-! ### The log of creations -/

end Tracker

/-- A creation that was recorded. -/
structure Creation where
  id : Nat
  trigger : Nat
  /-- Whether the trigger was tracked by then. -/
  isBelow : Bool
  deriving DecidableEq

namespace Creation

/-- The operation under which the new one is drawn. -/
def parent? (c : Creation) : Option Nat := if c.isBelow then some c.trigger else none

/-- The operations that were created under a trigger, or without a tracked one, in order. -/
def under (log : List Creation) (parent? : Option Nat) : List Nat :=
  (log.filter fun c => c.parent? = parent?).map id

theorem mem_of_mem_under {log : List Creation} {parent? : Option Nat} {n : Nat}
    (h : n ∈ under log parent?) : n ∈ log.map id :=
  (List.filter_sublist.map id).subset h

theorem under_concat (log : List Creation) (c : Creation) (parent? : Option Nat) :
    under (log ++ [c]) parent? =
      under log parent? ++ if c.parent? = parent? then [c.id] else [] := by
  rw [under, under, List.filter_append, List.map_append, List.filter_singleton]
  by_cases h : c.parent? = parent? <;> simp [h]

/-- The occurrences of a number, summed up. -/
theorem sum_indicator (ids : List Nat) (p : Nat) :
    (ids.map fun q => if p = q then 1 else 0).sum = ids.count p := by
  rw [List.sum_map_ite, List.count_eq_length_filter]
  simp [BEq.comm, beq_eq_decide]

/-- No number comes up twice, and triggers were created before what they triggered. -/
structure Orderly (log : List Creation) : Prop where
  nodup : (log.map id).Nodup
  parent_first : ∀ front c, front ++ [c] <+: log → ∀ p, c.parent? = some p → p ∈ front.map id

namespace Orderly

variable {log : List Creation}

theorem parent_mem (h : Orderly log) {c : Creation} (hc : c ∈ log) {p : Nat}
    (hp : c.parent? = some p) : p ∈ log.map id := by
  obtain ⟨front, later, rfl⟩ := List.append_of_mem hc
  have hfront : front ++ [c] <+: front ++ c :: later := ⟨later, by simp⟩
  have hmem := h.parent_first front c hfront p hp
  rw [List.map_append]
  exact List.mem_append_left _ hmem

/-- An operation stands under its own trigger, once, and under no other. -/
theorem count_under (h : Orderly log) {c : Creation} (hc : c ∈ log) (parent? : Option Nat) :
    (under log parent?).count c.id = if c.parent? = parent? then 1 else 0 := by
  have hsub : (under log parent?).Nodup := h.nodup.sublist (List.filter_sublist.map id)
  split
  next hp =>
    refine List.count_eq_one_of_mem hsub (List.mem_map_of_mem ?_)
    exact List.mem_filter.2 ⟨hc, decide_eq_true hp⟩
  next hp =>
    refine List.count_eq_zero.2 fun hmem => hp ?_
    obtain ⟨c', hc', hid⟩ := List.mem_map.1 hmem
    obtain ⟨hlog, hp'⟩ := List.mem_filter.1 hc'
    -- There is only one creation of that number.
    rw [← List.inj_on_of_nodup_map h.nodup hlog hc hid]
    exact of_decide_eq_true hp'

/-- **Numbers that are those without a trigger together with all that stand under one of them are the
numbers of the log, each once.** -/
theorem perm_ids (h : Orderly log) {ids : List Nat}
    (hids : ids.Perm (under log none ++ ids.flatMap fun p => under log (some p))) :
    ids.Perm (log.map id) := by
  have hcount : ∀ n, ids.count n = (under log none).count n +
      (ids.map fun p => (under log (some p)).count n).sum := by
    intro n
    rw [hids.count_eq, List.count_append, List.count_flatMap]
    rfl
  -- By induction along the log: what an operation stands under has been counted before.
  have hone : ∀ front, front <+: log → ∀ c ∈ front, ids.count c.id = 1 := by
    intro front
    induction front using List.reverseRecOn with
    | nil => intro _ c hc; cases hc
    | append_singleton front last ih =>
        intro hfront c hc
        have hlog : c ∈ log := hfront.subset hc
        rcases List.mem_append.1 hc with hc | hc
        · exact ih ((List.prefix_append front [last]).trans hfront) c hc
        · obtain rfl := List.mem_singleton.1 hc
          rw [hcount]
          simp only [h.count_under hlog]
          cases hp : c.parent? with
          | none => simp
          | some p =>
              obtain ⟨c', hc', rfl⟩ := List.mem_map.1 (h.parent_first front c hfront p hp)
              have hparent := ih ((List.prefix_append front [c]).trans hfront) c' hc'
              simp only [reduceCtorEq, if_false, Nat.zero_add, Option.some.injEq]
              rw [sum_indicator, hparent]
  refine List.perm_iff_count.2 fun n => ?_
  by_cases hn : n ∈ log.map id
  · obtain ⟨c, hc, rfl⟩ := List.mem_map.1 hn
    rw [hone log (List.prefix_refl log) c hc, List.count_eq_one_of_mem h.nodup hn]
  · rw [List.count_eq_zero.2 hn, List.count_eq_zero]
    intro hmem
    rcases List.mem_append.1 (hids.subset hmem) with hroot | hbelow
    · exact hn (mem_of_mem_under hroot)
    · obtain ⟨p, -, hp⟩ := List.mem_flatMap.1 hbelow
      exact hn (mem_of_mem_under hp)

end Orderly

end Creation

namespace Tracker

/-- What a call adds to the log: a creation, if it is recorded. -/
def logged (t : Tracker) : Call → List Creation
  | .signal (.created id kind trigger) =>
    if t.tracking && !isUncounted kind && (t.findCell trigger).isSome then
      [⟨id, trigger, t.knows trigger⟩]
    else []
  | _ => []

/-- The log of a list of calls. -/
def creations : Tracker → List Call → List Creation
  | _, [] => []
  | t, c :: calls => t.logged c ++ creations (t.perform c) calls

theorem creations_concat (t : Tracker) (calls : List Call) (c : Call) :
    t.creations (calls ++ [c]) = t.creations calls ++ (t.after calls).logged c := by
  induction calls generalizing t with
  | nil => exact List.append_nil _
  | cons d calls ih =>
      rw [List.cons_append, creations, ih, creations, List.append_assoc]
      rfl

/-- An operation is created and logged, or neither. -/
theorem logged_created_cases (t : Tracker) (id : Nat) (kind : String) (trigger : Nat) :
    (t.logged (.signal (.created id kind trigger)) = [] ∧ t.created id kind trigger = t) ∨
      ∃ cell, t.logged (.signal (.created id kind trigger)) =
          [⟨id, trigger, t.knows trigger⟩] ∧
        t.created id kind trigger = t.record id kind trigger cell := by
  rw [logged, created]
  cases t.tracking with
  | false => exact Or.inl ⟨rfl, rfl⟩
  | true =>
      cases isUncounted kind with
      | true => exact Or.inl ⟨rfl, rfl⟩
      | false =>
          cases t.findCell trigger with
          | none => exact Or.inl ⟨rfl, rfl⟩
          | some cell => exact Or.inr ⟨cell, rfl, rfl⟩

@[simp] theorem roots_completed (t : Tracker) (id : Nat) : (t.completed id).roots = t.roots := by
  unfold completed
  split
  · rfl
  · dsimp only
    split <;> rfl

/-- A log says which operations are tracked and what has triggered them, which of them are roots, and which
are the children of the others. -/
structure Logged (t : Tracker) (log : List Creation) : Prop where
  orderly : Creation.Orderly log
  knows_iff : ∀ id, t.knows id = true ↔ id ∈ log.map Creation.id
  trigger_eq : ∀ c ∈ log, ∃ cell, t.originOf c.id = some (c.trigger, cell)
  roots_eq : t.roots = Creation.under log none
  children_eq : ∀ id ids, t.children? id = some ids → ids = Creation.under log (some id)

theorem logged_new : new.Logged [] where
  orderly := ⟨List.nodup_nil, by
    intro front c hfront
    simp at hfront⟩
  knows_iff := by intro id; simp [knows, new]; rfl
  trigger_eq := by intro c hc; cases hc
  roots_eq := rfl
  children_eq := by intro id ids h; cases h

namespace Logged

variable {t : Tracker} {log : List Creation}

/-- A tracker that knows the same operations with the same triggers and children. -/
theorem transfer (h : t.Logged log) {t' : Tracker} (hroots : t'.roots = t.roots)
    (horigins : ∀ id, t'.originOf id = t.originOf id)
    (hchildren : ∀ id, t'.children? id = t.children? id) : t'.Logged log where
  orderly := h.orderly
  knows_iff := by
    intro id
    rw [← h.knows_iff, ← isSome_originOf, horigins, isSome_originOf]
  trigger_eq := by
    intro c hc
    rw [horigins]
    exact h.trigger_eq c hc
  roots_eq := hroots.trans h.roots_eq
  children_eq := by
    intro id ids hids
    exact h.children_eq id ids ((hchildren id).symm.trans hids)

/-- An operation is recorded under a number that no other had. -/
theorem record (h : t.Logged log) {id : Nat} (hid : id ∉ log.map Creation.id) (kind : String)
    (trigger cell : Nat) :
    (t.record id kind trigger cell).Logged (log ++ [⟨id, trigger, t.knows trigger⟩]) := by
  have hunknown : ¬t.knows id = true := fun hknown => hid ((h.knows_iff id).1 hknown)
  refine ⟨⟨?_, ?_⟩, ?_, ?_, ?_, ?_⟩
  · rw [List.map_append, List.nodup_append]
    refine ⟨h.orderly.nodup, List.nodup_singleton _, ?_⟩
    rintro a ha b hb rfl
    rw [List.mem_singleton.1 hb] at ha
    exact hid ha
  · intro front c hfront p hp
    rcases List.prefix_concat_iff.1 hfront with hlast | hfront
    · -- The new operation itself: its parent was known by then.
      obtain ⟨rfl, hc⟩ := List.append_inj' hlast rfl
      rw [List.singleton_inj.1 hc, Creation.parent?] at hp
      split at hp
      next hknown =>
        cases hp
        exact (h.knows_iff trigger).1 hknown
      next => cases hp
    · exact h.orderly.parent_first front c hfront p hp
  · intro other
    rw [knows_record, Bool.or_eq_true, decide_eq_true_eq, h.knows_iff, List.map_append,
      List.mem_append, or_comm, List.map_singleton, List.mem_singleton, eq_comm]
  · intro c hc
    rw [originOf_record]
    rcases List.mem_append.1 hc with hc | hc
    · rw [if_neg fun heq : id = c.id => hid (heq ▸ List.mem_map_of_mem hc)]
      exact h.trigger_eq c hc
    · rw [List.mem_singleton.1 hc, if_pos rfl]
      exact ⟨cell, rfl⟩
  · rw [roots_record, Creation.under_concat, Creation.parent?, h.roots_eq]
    cases t.knows trigger <;> simp
  · intro other ids hids
    rw [children?_record] at hids
    rw [Creation.under_concat, Creation.parent?]
    split at hids
    next heq =>
      -- Nothing was created under the number before.
      cases hids
      subst heq
      have hnone : Creation.under log (some id) = [] := by
        refine List.map_eq_nil_iff.2 (List.filter_eq_nil_iff.2 fun c hc hp => hid ?_)
        exact h.orderly.parent_mem hc (of_decide_eq_true hp)
      rw [hnone, List.nil_append, if_neg]
      split
      next hknown =>
        intro hsame
        obtain rfl : trigger = id := Option.some.inj hsame
        exact hunknown hknown
      next => simp
    next hne =>
      split at hids
      next heq =>
        subst heq
        obtain ⟨olds, holds, rfl⟩ := Option.map_eq_some_iff.1 hids
        have hknown : t.knows trigger = true := by
          have hsome := congrArg Option.isSome holds
          rwa [children?, Option.isSome_map] at hsome
        rw [if_pos hknown, if_pos rfl, h.children_eq trigger olds holds]
      next hother =>
        rw [h.children_eq other ids hids, if_neg, List.append_nil]
        split
        next => simp [hother]
        next => simp

end Logged

/-- **If no operation is created twice, the log tells what is tracked.** -/
theorem logged_after {calls : List Call} (hnodup : (Call.createdIds calls).Nodup) :
    (new.after calls).Logged (new.creations calls) ∧
      ∀ id ∈ (new.creations calls).map Creation.id, id ∈ Call.createdIds calls := by
  induction calls using List.reverseRecOn with
  | nil => exact ⟨logged_new, by simp [creations]⟩
  | append_singleton calls c ih =>
      have hids : Call.createdIds (calls ++ [c]) = Call.createdIds calls ++ Call.createdIds [c] :=
        List.filterMap_append
      rw [hids] at hnodup ⊢
      obtain ⟨hlog, hsub⟩ := ih (List.nodup_append.1 hnodup).1
      rw [after_concat, creations_concat]
      have hsame : (new.after calls).logged c = [] →
          ((new.after calls).perform c).Logged (new.creations calls) →
          ((new.after calls).perform c).Logged (new.creations calls ++ (new.after calls).logged c) ∧
            ∀ id ∈ (new.creations calls ++ (new.after calls).logged c).map Creation.id,
              id ∈ Call.createdIds calls ++ Call.createdIds [c] := by
        intro hnone hlogged
        rw [hnone, List.append_nil]
        exact ⟨hlogged, fun id hid => List.mem_append_left _ (hsub id hid)⟩
      cases c with
      | start => exact hsame rfl (hlog.transfer rfl (fun _ => rfl) fun _ => rfl)
      | stop => exact hsame rfl (hlog.transfer rfl (fun _ => rfl) fun _ => rfl)
      | bind id cell => exact hsame rfl (hlog.transfer rfl (fun _ => rfl) fun _ => rfl)
      | signal s =>
          cases s with
          | completed id =>
              exact hsame rfl
                (hlog.transfer (roots_completed _ id) (originOf_completed _ id) (children?_completed _ id))
          | created id kind trigger =>
              rcases (new.after calls).logged_created_cases id kind trigger with
                ⟨hnone, heq⟩ | ⟨cell, hone, heq⟩
              · refine hsame hnone ?_
                rw [perform, heed, heq]
                exact hlog
              · have hfresh : id ∉ (new.creations calls).map Creation.id := by
                  intro hid
                  exact (List.nodup_append.1 hnodup).2.2 id (hsub id hid) id (by simp [Call.createdIds,
                    Call.createdId?, Signal.createdId?]) rfl
                rw [perform, heed, heq, hone]
                refine ⟨hlog.record hfresh kind trigger cell, ?_⟩
                intro other hother
                rw [List.map_append, List.mem_append] at hother
                rcases hother with hother | hother
                · exact List.mem_append_left _ (hsub other hother)
                · refine List.mem_append_right _ ?_
                  rw [List.mem_singleton.1 hother]
                  simp [Call.createdIds, Call.createdId?, Signal.createdId?]

/-! ### The operations in flight -/

theorem marked_new : new.Marked := by
  intro id
  constructor
  · intro h; cases h
  · rintro ⟨op, h, -⟩; cases h

/-- **After any calls the operations in flight are those whose status says so.** -/
theorem marked_after (calls : List Call) : (new.after calls).Marked := by
  induction calls using List.reverseRecOn with
  | nil => exact marked_new
  | append_singleton calls c ih =>
      rw [after_concat]
      cases c with
      | start => exact ih
      | stop => exact ih
      | bind id cell => exact ih
      | signal s =>
          cases s with
          | created id kind trigger =>
              rw [perform, heed]
              rcases (new.after calls).created_cases id kind trigger with heq | ⟨cell, heq⟩
              · rw [heq]
                exact ih
              · rw [heq]
                exact marked_record ih id kind trigger cell
          | completed id => exact marked_completed ih id

/-- They are listed by increasing number. -/
theorem tracked_current {t : Tracker} {birth : Nat → Nat} {now : Nat} (hd : t.Dated birth now)
    (hm : t.Marked) :
    ((t.tracked t.current.keys.reverse).map Operation.id = t.current.keys.reverse) ∧
      ∀ op, op ∈ t.tracked t.current.keys.reverse ↔
        t.operations.get? op.id = some op ∧ op.status = .inFlight := by
  refine ⟨hd.map_id_tracked ?_, ?_⟩
  · intro id hid
    rw [List.mem_reverse, Table.mem_keys] at hid
    obtain ⟨op, hop, -⟩ := (hm id).1 hid
    exact (t.operations.contains_iff id).2 ⟨op, hop⟩
  · intro op
    rw [mem_tracked]
    constructor
    · rintro ⟨id, hid, hop⟩
      rw [List.mem_reverse, Table.mem_keys] at hid
      obtain ⟨op', hop', hstatus⟩ := (hm id).1 hid
      obtain rfl : op' = op := Option.some.inj (hop'.symm.trans hop)
      rw [hd.named id op' hop]
      exact ⟨hop, hstatus⟩
    · rintro ⟨hop, hstatus⟩
      refine ⟨op.id, ?_, hop⟩
      rw [List.mem_reverse, Table.mem_keys]
      exact (hm op.id).2 ⟨op, hop, hstatus⟩

/-! ### The picture -/

namespace Logged

variable {t : Tracker} {log : List Creation} {birth : Nat → Nat} {now : Nat}

/-- In a tree that shows what is tracked, the operations right below another are those that were created
under it. -/
theorem branches_eq (h : t.Logged log) (hd : t.Dated birth now) {s : OperationTree} (hs : t.Shows s) :
    s.branches.map OperationTree.id = Creation.under log (some s.id) := by
  obtain ⟨hget, hbranches⟩ := hs
  have hchildren : s.root.children = Creation.under log (some s.id) :=
    h.children_eq s.id s.root.children (by rw [children?, hget, Option.map_some])
  have hknown : ∀ id ∈ s.root.children, t.knows id = true := by
    intro id hid
    rw [hchildren] at hid
    exact (h.knows_iff id).2 (Creation.mem_of_mem_under hid)
  calc s.branches.map OperationTree.id
      = (s.branches.map OperationTree.root).map Operation.id := by rw [List.map_map]; rfl
    _ = s.root.children := by rw [hbranches, hd.map_id_tracked hknown]
    _ = Creation.under log (some s.id) := hchildren

theorem map_id_roots (h : t.Logged log) (hd : t.Dated birth now) {forest : List OperationTree}
    (hu : t.UnfoldsAll (t.tracked t.roots) forest) :
    forest.map OperationTree.id = Creation.under log none := by
  have hknown : ∀ id ∈ t.roots, t.knows id = true := by
    intro id hid
    rw [h.roots_eq] at hid
    exact (h.knows_iff id).2 (Creation.mem_of_mem_under hid)
  calc forest.map OperationTree.id
      = (forest.map OperationTree.root).map Operation.id := by rw [List.map_map]; rfl
    _ = t.roots := by rw [hu.roots_eq, hd.map_id_tracked hknown]
    _ = Creation.under log none := h.roots_eq

/-- **Each operation of the log is drawn once.** -/
theorem nodes_perm (h : t.Logged log) (hd : t.Dated birth now) {forest : List OperationTree}
    (hu : t.UnfoldsAll (t.tracked t.roots) forest)
    (hshows : ∀ s ∈ OperationTree.allNodes forest, t.Shows s) :
    ((OperationTree.allNodes forest).map OperationTree.id).Perm (log.map Creation.id) := by
  refine h.orderly.perm_ids ?_
  have hbelow : ((OperationTree.allNodes forest).flatMap OperationTree.branches).map OperationTree.id =
      ((OperationTree.allNodes forest).map OperationTree.id).flatMap
        fun p => Creation.under log (some p) := by
    rw [List.map_flatMap, List.flatMap_map]
    exact List.flatMap_congr fun s hs => h.branches_eq hd (hshows s hs)
  have hnodes := (OperationTree.allNodes_perm forest).map OperationTree.id
  rwa [List.map_append, h.map_id_roots hd hu, hbelow] at hnodes

end Logged

/-- **The picture of every tracker.**  Whatever a tracker is asked, under whatever numbers, no operation is
below itself, and drawing one comes to an end, before the depth that is allowed for it is used up.  The
picture lists the operations in flight by increasing number, and then the trees that the roots unfold to.

If no operation is created twice, take the log of the creations that were recorded.  It tells which
operations are tracked, and what has triggered them.  Each of them is drawn exactly once: as a root if its
trigger was not tracked when it was created, and otherwise right below its trigger, in the order of their
creation; and it is drawn as it is tracked. -/
theorem dump_draws_forest (calls : List Call) :
    let t := new.after calls
    (∀ id, ¬Relation.TransGen t.IsChild id id) ∧
    (∀ id op, t.operations.get? id = some op → ∃ s, t.DrawnFrom t.operations.size op s) ∧
    ∃ (shown : List Operation) (forest : List OperationTree),
      t.dump = (Json.obj [("curOps", .arr (shown.map fun op => (OperationTree.node op []).json)),
        ("isTracking", .bool t.tracking), ("numCellOps", .obj t.countFields),
        ("ops", .arr (OperationTree.jsons forest)), ("remainingOps", .int shown.length)]).pretty ∧
      (shown.map Operation.id).Pairwise (· < ·) ∧
      (∀ op, op ∈ shown ↔ t.operations.get? op.id = some op ∧ op.status = .inFlight) ∧
      t.UnfoldsAll (t.tracked t.roots) forest ∧
      ((Call.createdIds calls).Nodup →
        let log := new.creations calls
        (log.map Creation.id).Nodup ∧
        (∀ id, t.knows id = true ↔ id ∈ log.map Creation.id) ∧
        (∀ c ∈ log, ∃ op, t.operations.get? c.id = some op ∧ op.trigger = c.trigger) ∧
        ((OperationTree.allNodes forest).map OperationTree.id).Perm (log.map Creation.id) ∧
        forest.map OperationTree.id = Creation.under log none ∧
        ∀ s ∈ OperationTree.allNodes forest, t.operations.get? s.id = some s.root ∧
          s.branches.map OperationTree.id = Creation.under log (some s.id)) := by
  intro t
  obtain ⟨birth, now, hd⟩ := exists_dated_after calls
  have hm : t.Marked := marked_after calls
  obtain ⟨hids, hshown⟩ := tracked_current hd hm
  obtain ⟨forest, hu, hdrawn⟩ := hd.exists_unfoldsAll t.roots
  refine ⟨hd.acyclic, ?_, t.tracked t.current.keys.reverse, forest, ?_, ?_, hshown, hu, ?_⟩
  · intro id op hop
    obtain ⟨s, hs, hall⟩ := hd.exists_unfolds hop
    exact ⟨s, hs, fun n hn => hall n ((t.card_noOlder_le birth id).trans hn)⟩
  · have hkeys : t.current.toList.map (·.1) = t.current.keys.reverse := by
      rw [Table.toList, Table.keys, List.map_reverse]
    have hlength : (t.tracked t.current.keys.reverse).length = t.inFlight := by
      rw [← List.length_map Operation.id, hids, List.length_reverse, Table.length_keys, inFlight]
    simp only [OperationTree.json_node]
    rw [dump, snapshot, hkeys, hlength, ← hdrawn]
    rfl
  · rw [hids, List.pairwise_reverse]
    exact t.current.pairwise_keys
  · intro hnodup log
    have hlog : t.Logged log := (logged_after hnodup).1
    have hroots : ∀ op ∈ t.tracked t.roots, t.operations.get? op.id = some op := by
      intro op hop
      obtain ⟨id, -, hget⟩ := (t.mem_tracked t.roots op).1 hop
      rw [hd.named id op hget]
      exact hget
    have hshows := hu.shows hd hroots
    refine ⟨hlog.orderly.nodup, hlog.knows_iff, ?_, hlog.nodes_perm hd hu hshows,
      hlog.map_id_roots hd hu, fun s hs => ⟨(hshows s hs).1, hlog.branches_eq hd (hshows s hs)⟩⟩
    intro c hc
    obtain ⟨cell, horigin⟩ := hlog.trigger_eq c hc
    obtain ⟨op, hop, hsame⟩ := Option.map_eq_some_iff.1 horigin
    exact ⟨op, hop, congrArg Prod.fst hsame⟩

/-- A timer that has started two more operations, one of which has ended, and an operation beside it. -/
def forkedCalls : List Call :=
  [.start, .bind 10 0, .signal (.created 11 "Timeout" 10), .signal (.created 12 "PROMISE" 11),
    .signal (.created 13 "Immediate" 10), .signal (.completed 12),
    .signal (.created 14 "PROMISE" 11)]

/-- The two operations are drawn right below the timer, in order, and nowhere else. -/
theorem forest_forkedCalls :
    (Call.createdIds forkedCalls).Nodup ∧
      ∃ forest, (new.after forkedCalls).UnfoldsAll
          ((new.after forkedCalls).tracked (new.after forkedCalls).roots) forest ∧
        forest.map OperationTree.id = [11, 13] ∧
        ((OperationTree.allNodes forest).map OperationTree.id).Perm [11, 12, 13, 14] ∧
        ∀ s ∈ OperationTree.allNodes forest, s.id = 11 → s.branches.map OperationTree.id = [12, 14] := by
  have hnodup : (Call.createdIds forkedCalls).Nodup := by decide
  have hlog : new.creations forkedCalls =
      [⟨11, 10, false⟩, ⟨12, 11, true⟩, ⟨13, 10, false⟩, ⟨14, 11, true⟩] := by decide +kernel
  obtain ⟨-, -, shown, forest, -, -, -, hu, hforest⟩ := dump_draws_forest forkedCalls
  obtain ⟨-, -, -, hperm, hroots, hbelow⟩ := hforest hnodup
  rw [hlog] at hperm hroots hbelow
  refine ⟨hnodup, forest, hu, hroots, hperm, ?_⟩
  intro s hs hid
  have hbranches := (hbelow s hs).2
  rw [hid] at hbranches
  exact hbranches

end Tracker

end NotebookEngine
