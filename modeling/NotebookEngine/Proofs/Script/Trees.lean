/-
**Trees and the nodes within them.**

A pass goes through a tree from the leaves up, so what it does to a whole tree is told by what its step does
to one node whose parts are done.  If the step gives every node a property and keeps it at the parts, the
property holds throughout the tree that comes out; and a tree whose nodes are all left alone by the step is
left alone by the pass.  Together the two make a pass settle after one run.

Main definitions:

* `Script.Node.Everywhere` — a property of all nodes of a tree.

Main results:

* `Script.Node.induct` — induction on trees, with all parts of a node at once;
* `Script.Node.rebuild_mk` — a pass at a node;
* `Script.Node.everywhere_rebuild` — what the step gives every node holds throughout the tree;
* `Script.Node.rebuild_eq_self` — a tree that the step leaves alone.
-/

import NotebookEngine.Script.Syntax

set_option autoImplicit false

namespace NotebookEngine

namespace Script

namespace Node

variable {P : Node → Prop} {step : Node → Node}

/-- Induction on trees, with all parts of a node at once. -/
@[elab_as_elim]
theorem induct {motive : Node → Prop}
    (mk : ∀ (form : Form) (span : Span) (parts : List Node), (∀ p ∈ parts, motive p) →
      motive (.mk form span parts)) (n : Node) : motive n := by
  refine @Node.rec motive (fun parts => ∀ p ∈ parts, motive p) mk ?nil ?cons n
  case nil =>
    intro p hp
    cases hp
  case cons =>
    intro n ns hn hns p hp
    rcases List.mem_cons.1 hp with rfl | hp
    · exact hn
    · exact hns p hp

/-! ### Properties of all nodes -/

/-- Whether all nodes of a tree have a property. -/
inductive Everywhere (P : Node → Prop) : Node → Prop
  | mk {form : Form} {span : Span} {parts : List Node} :
      P (.mk form span parts) → (∀ p ∈ parts, Everywhere P p) → Everywhere P (.mk form span parts)

theorem everywhere_mk {form : Form} {span : Span} {parts : List Node} :
    Everywhere P (.mk form span parts) ↔ P (.mk form span parts) ∧ ∀ p ∈ parts, Everywhere P p := by
  constructor
  · rintro (⟨hroot, hparts⟩)
    exact ⟨hroot, hparts⟩
  · rintro ⟨hroot, hparts⟩
    exact .mk hroot hparts

theorem Everywhere.root {n : Node} (h : Everywhere P n) : P n := by
  cases h with
  | mk hroot _ => exact hroot

theorem Everywhere.imp {Q : Node → Prop} (hPQ : ∀ n, P n → Q n) {n : Node} (h : Everywhere P n) :
    Everywhere Q n := by
  induction n using induct with
  | mk form span parts ih =>
      obtain ⟨hroot, hparts⟩ := everywhere_mk.1 h
      exact .mk (hPQ _ hroot) fun p hp => ih p hp (hparts p hp)

/-! ### Passes -/

theorem rebuild_mk (step : Node → Node) (form : Form) (span : Span) (parts : List Node) :
    (Node.mk form span parts).rebuild step = step (.mk form span (parts.map (rebuild step))) := by
  rw [rebuild, rebuildAll_eq_map]

/-- What the step gives every node whose parts have it holds throughout the tree. -/
theorem everywhere_rebuild
    (hstep : ∀ form span parts, (∀ p ∈ parts, Everywhere P p) →
      Everywhere P (step (.mk form span parts))) (n : Node) :
    Everywhere P (n.rebuild step) := by
  induction n using induct with
  | mk form span parts ih =>
      rw [rebuild_mk]
      refine hstep form span _ fun p hp => ?_
      obtain ⟨q, hq, rfl⟩ := List.mem_map.1 hp
      exact ih q hq

/-- A tree is left alone by a pass if its nodes are left alone by the step. -/
theorem rebuild_eq_self {n : Node} (h : Everywhere (fun m => step m = m) n) : n.rebuild step = n := by
  induction n using induct with
  | mk form span parts ih =>
      obtain ⟨hroot, hparts⟩ := everywhere_mk.1 h
      have hsame : parts.map (rebuild step) = parts :=
        (List.map_congr_left fun p hp => ih p hp (hparts p hp)).trans (List.map_id _)
      rw [rebuild_mk, hsame, hroot]

end Node

end Script

end NotebookEngine
