/-
**Every awaited value is tracked, once.**

What a program awaits goes through a call that keeps track of it.  The pass looks at one await at a time,
after the trees within what is awaited are done, and leaves the await alone if such a call is what it awaits
already.  So awaits may stand within awaits, within calls, or in what a parameter has by default: each of
them gets its own call, and a second run finds nothing to do.

Taking one call away from each await is the way back.  It does not tell a call that was added from one that
the program had, so it gives the program back that had none, and of any other program the one that it gives
without the pass.

Main definitions:

* `Script.AwaitsTracked` — what holds of a node that awaits nothing but a call that keeps track;
* `Script.untrackAwaits` — a program with one such call taken away from each await.

Main results:

* `Script.everywhere_trackAwaits` — all awaits are tracked;
* `Script.untrackAwaits_trackAwaits` — the way back;
* `Script.trackAwaits_once` — **every await is tracked exactly once**.
-/

import NotebookEngine.Proofs.Script.Captures
import NotebookEngine.Proofs.Script.Trees

set_option autoImplicit false

namespace NotebookEngine

namespace Script

open Node (Everywhere)

/-! ### Tracked awaits -/

/-- Whether a node, if it awaits a value, awaits a call that keeps track. -/
def AwaitsTracked (n : Node) : Prop :=
  ∀ span e, n = .mk .await span [e] → isCallOf "__track_await" e = true

/-- Whether a node is no call that keeps track. -/
def IsUntracked (n : Node) : Prop := isCallOf "__track_await" n = false

/-- The step at an await. -/
theorem trackStep_await (span : Span) (e : Node) :
    trackStep (.mk .await span [e]) =
      if isCallOf "__track_await" e then .mk .await span [e]
      else .mk .await span [callOf "__track_await" [e]] := rfl

/-- The step leaves every other node alone. -/
theorem trackStep_of_not {n : Node} (h : ∀ span e, n ≠ .mk .await span [e]) : trackStep n = n := by
  obtain ⟨form, span, parts⟩ := n
  rw [trackStep]
  split
  next e hform hparts =>
    cases hform
    cases hparts
    exact absurd rfl (h span e)
  next => rfl

theorem awaitsTracked_of_ne {form : Form} {span : Span} {parts : List Node} (h : form ≠ .await) :
    AwaitsTracked (.mk form span parts) := by
  intro _ _ heq
  injection heq with hform
  exact absurd hform h

/-- The step leaves a node alone exactly if it awaits nothing untracked. -/
theorem trackStep_eq_self_iff {n : Node} : trackStep n = n ↔ AwaitsTracked n := by
  constructor
  · rintro h span e rfl
    rw [trackStep_await] at h
    split at h
    next htracked => exact htracked
    next hnot =>
      -- The call would be what it is wrapped in.
      injection h with _ _ hparts
      injection hparts with he
      rw [← he, isCallOf_callOf] at hnot
      exact absurd rfl hnot
  · intro h
    by_cases hawait : ∃ span e, n = .mk .await span [e]
    · obtain ⟨span, e, rfl⟩ := hawait
      rw [trackStep_await, if_pos (h span e rfl)]
    · exact trackStep_of_not fun span e heq => hawait ⟨span, e, heq⟩

/-- One step tracks what a node awaits. -/
theorem everywhere_trackStep (form : Form) (span : Span) (parts : List Node)
    (hparts : ∀ p ∈ parts, Everywhere AwaitsTracked p) :
    Everywhere AwaitsTracked (trackStep (.mk form span parts)) := by
  by_cases hself : AwaitsTracked (.mk form span parts)
  · rw [trackStep_eq_self_iff.2 hself]
    exact .mk hself hparts
  · -- What is left is an await, whose value is wrapped.
    rw [AwaitsTracked] at hself
    push Not at hself
    obtain ⟨span', e, heq, huntracked⟩ := hself
    cases heq
    rw [trackStep_await, if_neg huntracked]
    refine .mk ?_ (List.forall_mem_singleton.2 (.mk (awaitsTracked_of_ne (by simp)) ?_))
    · intro _ e' heq
      cases heq
      exact isCallOf_callOf _ _
    · rw [List.forall_mem_cons]
      exact ⟨.mk (awaitsTracked_of_ne (by simp)) nofun, hparts⟩

/-- All awaits of a program are tracked. -/
theorem everywhere_trackAwaits (n : Node) : Everywhere AwaitsTracked (trackAwaits n) :=
  Node.everywhere_rebuild everywhere_trackStep n

/-- A program whose awaits are tracked stays as it is. -/
theorem trackAwaits_of_everywhere {n : Node} (h : Everywhere AwaitsTracked n) : trackAwaits n = n :=
  Node.rebuild_eq_self (h.imp fun _ => trackStep_eq_self_iff.2)

/-! ### The way back -/

/-- A node without the call that keeps track of what it awaits. -/
def untrackStep (n : Node) : Node :=
  match n.form, n.parts with
  | .await, [call] =>
    match call.parts with
    | [_, e] => if isCallOf "__track_await" call then .mk .await n.span [e] else n
    | _ => n
  | _, _ => n

/-- A program with one call that keeps track taken away from each await. -/
def untrackAwaits (program : Node) : Node := program.rebuild untrackStep

theorem form_untrackStep (n : Node) : (untrackStep n).form = n.form := by
  rw [untrackStep]
  split
  next hform _ =>
    split
    · split
      · exact hform.symm
      · rfl
    · rfl
  next => rfl

/-- The step at an await that was tracked. -/
theorem untrackStep_tracked (span : Span) (e : Node) :
    untrackStep (.mk .await span [callOf "__track_await" [e]]) = .mk .await span [e] := by
  rw [untrackStep]
  exact if_pos (isCallOf_callOf "__track_await" [e])

/-- The step leaves alone what awaits no call that keeps track. -/
theorem untrackStep_of_untracked {n : Node} (h : ∀ span e, n = .mk .await span [e] → IsUntracked e) :
    untrackStep n = n := by
  obtain ⟨form, span, parts⟩ := n
  rw [untrackStep]
  split
  next call hform hparts =>
    cases hform
    cases hparts
    have hcall : isCallOf "__track_await" call = false := h span call rfl
    split
    · rw [hcall]
      rfl
    · rfl
  next => rfl

/-- The way back leaves calls what they are. -/
theorem isCallOf_untrackAwaits (name : String) (n : Node) :
    isCallOf name (untrackAwaits n) = isCallOf name n := by
  obtain ⟨form, span, parts⟩ := n
  have hform : (untrackAwaits (.mk form span parts)).form = form :=
    form_rebuild form_untrackStep (.mk form span parts)
  by_cases hcall : form = .call false
  · subst hcall
    have hrebuilt : untrackAwaits (.mk (.call false) span parts) =
        .mk (.call false) span (parts.map untrackAwaits) := Node.rebuild_mk untrackStep _ span parts
    rw [hrebuilt]
    cases parts with
    | nil => rfl
    | cons f args =>
        have hname : (untrackAwaits f).form = f.form := form_rebuild form_untrackStep f
        change decide ((untrackAwaits f).form = _) = decide (f.form = _)
        rw [hname]
  · have hnot : ∀ m : Node, m.form = form → isCallOf name m = false := by
      intro m hm
      rw [Bool.eq_false_iff]
      intro htrue
      exact hcall (hm.symm.trans (form_of_isCallOf htrue))
    rw [hnot _ hform, hnot _ rfl]

/-- The call that an await is given is taken away again. -/
theorem untrackAwaits_trackStep (n : Node) : untrackAwaits (trackStep n) = untrackAwaits n := by
  by_cases hself : AwaitsTracked n
  · rw [trackStep_eq_self_iff.2 hself]
  · rw [AwaitsTracked] at hself
    push Not at hself
    obtain ⟨span, e, rfl, huntracked⟩ := hself
    have hwrapped : untrackAwaits (callOf "__track_await" [e]) =
        callOf "__track_await" [untrackAwaits e] := Node.rebuild_mk untrackStep _ _ _
    have hkept : ∀ span' e', Node.mk .await span [untrackAwaits e] = .mk .await span' [e'] →
        IsUntracked e' := by
      intro span' e' heq
      cases heq
      rw [IsUntracked, isCallOf_untrackAwaits]
      exact Bool.eq_false_iff.2 huntracked
    calc untrackAwaits (trackStep (.mk .await span [e]))
        = untrackAwaits (.mk .await span [callOf "__track_await" [e]]) := by
          rw [trackStep_await, if_neg huntracked]
      _ = untrackStep (.mk .await span [callOf "__track_await" [untrackAwaits e]]) := by
          rw [← hwrapped]
          exact Node.rebuild_mk untrackStep .await span [callOf "__track_await" [e]]
      _ = .mk .await span [untrackAwaits e] := untrackStep_tracked span _
      _ = untrackStep (.mk .await span [untrackAwaits e]) := (untrackStep_of_untracked hkept).symm
      _ = untrackAwaits (.mk .await span [e]) := (Node.rebuild_mk untrackStep .await span [e]).symm

/-- What is taken away from a program is the same before and after the pass. -/
theorem untrackAwaits_trackAwaits (n : Node) : untrackAwaits (trackAwaits n) = untrackAwaits n := by
  induction n using Node.induct with
  | mk form span parts ih =>
      have hparts : (parts.map trackAwaits).map untrackAwaits = parts.map untrackAwaits := by
        rw [List.map_map]
        exact List.map_congr_left ih
      calc untrackAwaits (trackAwaits (.mk form span parts))
          = untrackAwaits (trackStep (.mk form span (parts.map trackAwaits))) :=
            congrArg untrackAwaits (Node.rebuild_mk trackStep form span parts)
        _ = untrackAwaits (.mk form span (parts.map trackAwaits)) := untrackAwaits_trackStep _
        _ = untrackStep (.mk form span ((parts.map trackAwaits).map untrackAwaits)) :=
            Node.rebuild_mk untrackStep form span _
        _ = untrackStep (.mk form span (parts.map untrackAwaits)) := by rw [hparts]
        _ = untrackAwaits (.mk form span parts) := (Node.rebuild_mk untrackStep form span parts).symm

/-- A program without a call that keeps track has none to lose. -/
theorem untrackAwaits_of_everywhere {n : Node} (h : Everywhere IsUntracked n) : untrackAwaits n = n := by
  refine Node.rebuild_eq_self ?_
  induction n using Node.induct with
  | mk form span parts ih =>
      obtain ⟨-, hparts⟩ := Node.everywhere_mk.1 h
      refine .mk (untrackStep_of_untracked fun span' e heq => ?_) fun p hp => ih p hp (hparts p hp)
      cases heq
      exact (hparts e List.mem_cons_self).root

/-! ### Programs -/

/-- **Every await is tracked exactly once.**  In any program that went through the pass, whatever is awaited,
and wherever, is a call that keeps track.  Taking one such call away from each await undoes the pass, and
gives back every program that had no such call.  A second run changes nothing. -/
theorem trackAwaits_once (n : Node) :
    Everywhere AwaitsTracked (trackAwaits n) ∧
    untrackAwaits (trackAwaits n) = untrackAwaits n ∧
    (Everywhere IsUntracked n → untrackAwaits (trackAwaits n) = n) ∧
    trackAwaits (trackAwaits n) = trackAwaits n := by
  refine ⟨everywhere_trackAwaits n, untrackAwaits_trackAwaits n, ?_, ?_⟩
  · intro h
    rw [untrackAwaits_trackAwaits, untrackAwaits_of_everywhere h]
  · exact trackAwaits_of_everywhere (everywhere_trackAwaits n)

/-- An arrow function that awaits the answer of a call, one of whose arguments is awaited, and whose parameter
awaits what it has by default. -/
def nestedAwaits : Node :=
  .made (.arrow true) [.made .await [.made (.call false) [.named "f", .made .await [.named "x"]]],
    .made .defaulted [.named "p", .made .await [.named "y"]]]

theorem trackAwaits_nestedAwaits :
    Everywhere IsUntracked nestedAwaits ∧
    trackAwaits nestedAwaits =
      .made (.arrow true) [.made .await [callOf "__track_await" [.made (.call false) [.named "f",
          .made .await [callOf "__track_await" [.named "x"]]]]],
        .made .defaulted [.named "p", .made .await [callOf "__track_await" [.named "y"]]]] ∧
    untrackAwaits (trackAwaits nestedAwaits) = nestedAwaits := by
  have huntracked : Everywhere IsUntracked nestedAwaits := by
    simp [nestedAwaits, Node.made, Node.named, Node.everywhere_mk, IsUntracked, isCallOf, Node.part,
      Node.form, Node.parts]
  exact ⟨huntracked, rfl, (trackAwaits_once nestedAwaits).2.2.1 huntracked⟩

end Script

end NotebookEngine
