/-
**The directories above a path.**

The parent of a path has all parts of the path but the last.  So the paths above a path are its parent and
the paths above that one, and going up ends after as many steps as there are parts.

Main results:

* `Path.components_of_parent?` — the parent of a path has all parts but the last;
* `Path.ancestors_eq` — **a path and those above it**, the nearest first.
-/

import NotebookEngine.Files.Path
import NotebookEngine.Proofs.Stack.Frames

set_option autoImplicit false

namespace NotebookEngine

namespace Path

/-! ### Where parts end -/

/-- Where the part after some others begins. -/
def startAfter : List (List Char) → Nat
  | [] => 0
  | p :: ps => p.length + 1 + startAfter ps

theorem partEnds_append (i : Nat) (ps qs : List (List Char)) :
    partEnds i (ps ++ qs) = partEnds i ps ++ partEnds (i + startAfter ps) qs := by
  induction ps generalizing i with
  | nil => rfl
  | cons p ps ih =>
      rw [List.cons_append, partEnds, partEnds, ih, startAfter]
      have hplace : i + p.length + 1 + startAfter ps = i + (p.length + 1 + startAfter ps) := by omega
      rw [hplace, List.cons_append]

/-- A part among others, and where it ends. -/
theorem exists_of_partEnds_eq {i stop : Nat} {ps : List (List Char)} {part : List Char}
    {before after : List (List Char × Nat)} (h : partEnds i ps = before ++ (part, stop) :: after) :
    ∃ as bs, ps = as ++ part :: bs ∧ before = partEnds i as ∧ stop = i + startAfter as + part.length := by
  induction ps generalizing i before with
  | nil => simp [partEnds] at h
  | cons p ps ih =>
      rw [partEnds] at h
      cases before with
      | nil =>
          cases h
          exact ⟨[], ps, rfl, rfl, rfl⟩
      | cons b before =>
          obtain ⟨rfl, hrest⟩ := List.cons.inj h
          obtain ⟨as, bs, rfl, rfl, rfl⟩ := ih hrest
          refine ⟨p :: as, bs, rfl, rfl, ?_⟩
          rw [startAfter]
          omega

/-- The text up to the end of a part has the parts up to that one. -/
theorem take_intercalate (sep : Char) (as bs : List (List Char)) (part : List Char) :
    ([sep].intercalate (as ++ part :: bs)).take (startAfter as + part.length) =
      [sep].intercalate (as ++ [part]) := by
  induction as with
  | nil =>
      cases bs with
      | nil => simp [startAfter]
      | cons b bs => simp [startAfter, List.intercalate_cons_cons]
  | cons a as ih =>
      have hcons : ∀ more, [sep].intercalate (a :: (as ++ part :: more)) =
          a ++ sep :: [sep].intercalate (as ++ part :: more) := by
        intro more
        rw [List.intercalate_cons_of_ne_nil (by simp), List.append_assoc, List.singleton_append]
      have hlength : startAfter (a :: as) + part.length = a.length + (startAfter as + part.length + 1) := by
        rw [startAfter]
        omega
      rw [List.cons_append, List.cons_append, hcons, hcons, hlength, List.take_length_add_append,
        List.take_succ_cons, ih]

/-- The parts, and where they end, of the text up to the end of one of them. -/
theorem partEnds_take {cs part : List Char} {stop : Nat} {before after : List (List Char × Nat)}
    (h : partEnds 0 (Text.pieces '/' cs) = before ++ (part, stop) :: after) :
    partEnds 0 (Text.pieces '/' (cs.take stop)) = before ++ [(part, stop)] := by
  obtain ⟨as, bs, hparts, rfl, rfl⟩ := exists_of_partEnds_eq h
  -- The text that is taken is that of the parts up to this one, so these are its parts.
  have hnot : ∀ p ∈ as ++ [part], '/' ∉ p := by
    intro p hp
    have hmem : p ∈ Text.pieces '/' cs := by
      rw [hparts]
      rcases List.mem_append.1 hp with hp | hp
      · exact List.mem_append_left _ hp
      · rw [List.mem_singleton.1 hp]
        simp
    exact Text.not_mem_pieces hmem
  have hwhole := Text.intercalate_pieces '/' cs
  rw [hparts] at hwhole
  rw [← hwhole, Nat.zero_add, take_intercalate, Text.pieces_intercalate (by simp) hnot, partEnds_append,
    Nat.zero_add]
  simp [partEnds]

/-! ### Going up -/

/-- The parts that matter among the parts of a path: an empty one does not, and neither does a `.` but at
the start. -/
def kept : List (List Char × Nat) → List (List Char × Nat)
  | [] => []
  | first :: rest => (if first.1 = [] then [] else [first]) ++ rest.filter fun part => !isIdle part.1

theorem components_eq (p : String) : components p = kept (partEnds 0 (Text.pieces '/' p.toList)) := by
  rw [components]
  cases partEnds 0 (Text.pieces '/' p.toList) <;> rfl

theorem exists_of_filter_eq {α : Type} {p : α → Bool} {as before after : List α} {a : α}
    (h : as.filter p = before ++ a :: after) :
    ∃ l r, as = l ++ a :: r ∧ (l ++ [a]).filter p = before ++ [a] := by
  obtain ⟨l, r, rfl, rfl, hr⟩ := List.filter_eq_append_iff.1 h
  obtain ⟨m, r, rfl, hm, ha, -⟩ := List.filter_eq_cons_iff.1 hr
  refine ⟨l ++ m, r, by simp, ?_⟩
  rw [List.filter_append, List.filter_append, List.filter_eq_nil_iff.2 hm, List.append_nil,
    List.filter_singleton, ha]
  rfl

/-- What matters up to a part that matters. -/
theorem exists_of_kept_eq {ends before after : List (List Char × Nat)} {part : List Char × Nat}
    (h : kept ends = before ++ part :: after) :
    ∃ l r, ends = l ++ part :: r ∧ kept (l ++ [part]) = before ++ [part] := by
  cases ends with
  | nil => simp [kept] at h
  | cons first rest =>
      rw [kept] at h
      by_cases hfirst : first.1 = []
      · rw [if_pos hfirst, List.nil_append] at h
        obtain ⟨l, r, rfl, hl⟩ := exists_of_filter_eq h
        refine ⟨first :: l, r, rfl, ?_⟩
        rw [List.cons_append, kept, if_pos hfirst, hl, List.nil_append]
      · rw [if_neg hfirst, List.singleton_append] at h
        cases before with
        | nil =>
            obtain ⟨rfl, -⟩ := List.cons.inj h
            refine ⟨[], rest, rfl, ?_⟩
            rw [List.nil_append, kept, if_neg hfirst]
            rfl
        | cons b before =>
            obtain ⟨rfl, hrest⟩ := List.cons.inj h
            obtain ⟨l, r, rfl, hl⟩ := exists_of_filter_eq hrest
            refine ⟨first :: l, r, rfl, ?_⟩
            rw [List.cons_append, kept, if_neg hfirst, hl]
            rfl

/-- The text up to the end of a part that matters has the parts that matter up to that one. -/
theorem components_take {p : String} {part : List Char} {stop : Nat} {before after : List (List Char × Nat)}
    (h : components p = before ++ (part, stop) :: after) :
    components (String.ofList (p.toList.take stop)) = before ++ [(part, stop)] := by
  rw [components_eq] at h ⊢
  obtain ⟨l, r, hends, hkept⟩ := exists_of_kept_eq h
  rw [String.toList_ofList, partEnds_take hends, hkept]

/-- **The parent of a path has all parts but the last.** -/
theorem components_of_parent? {p q : String} (h : parent? p = some q) :
    components p ≠ [] ∧ components q = (components p).dropLast := by
  rw [parent?] at h
  split at h
  next => cases h
  next one hone =>
    rw [List.reverse_eq_iff] at hone
    have hnone : components q = [] := by
      split at h
      · cases h
        decide +kernel
      · cases h
        decide +kernel
    rw [hone, hnone]
    exact ⟨by simp, rfl⟩
  next last part stop above hparts =>
    cases h
    rw [List.reverse_eq_iff] at hparts
    have hsplit : components p = above.reverse ++ (part, stop) :: [last] := by
      rw [hparts]
      simp
    rw [components_take hsplit, hsplit]
    exact ⟨by simp, by simp [List.dropLast_append_of_ne_nil]⟩

/-- **A path and those above it**: the path itself, its parent, and those above that. -/
theorem ancestors_eq (p : String) : ancestors p = p :: ((parent? p).map ancestors).getD [] := by
  rw [ancestors]
  cases hparent : parent? p with
  | none =>
      cases (components p).length <;> simp [ancestorsFrom, hparent]
  | some q =>
      -- Going up ends after as many steps as there are parts, and the parent has one part less.
      obtain ⟨hne, hq⟩ := components_of_parent? hparent
      have hlength : (components p).length = (components q).length + 1 := by
        have hpos := List.length_pos_of_ne_nil hne
        rw [hq, List.length_dropLast]
        omega
      rw [hlength, ancestorsFrom, hparent]
      rfl

end Path

end NotebookEngine
