/-
**Matches that are taken from left to right.**

A scan goes through a text once and takes a match wherever one starts, unless a match that was taken
before still covers the place.  So whether a match is taken can be said without going through the text:
it is a match at its place, and no match that is taken and starts before runs beyond that place.

A form that is local finds the same match when the text goes on.  What a part of a text holds is then
found in the whole text as well, if nothing runs into it.

Main definitions:

* `Specifier.spans` — the matches that a scan takes, with their places;
* `Specifier.IsLocal` — a form whose matches do not depend on what follows them;
* `Specifier.NoneBeyond` — no match that starts before a place runs beyond it.

Main results:

* `Specifier.scan_eq_map_spans` — what a scan finds are the names of these matches;
* `Specifier.mem_spans_iff` — **which matches are taken**;
* `Specifier.mem_spans_part_iff` — which matches of a part of a text are taken in the whole text.
-/

import NotebookEngine.Package.Specifier

set_option autoImplicit false

namespace NotebookEngine

namespace Specifier

/-! ### Spans -/

/-- The matches that a scan takes, with the places at which they start. -/
def spans (form : List Char → Option Match) : Nat → Nat → List Char → List (Nat × Match)
  | _, _, [] => []
  | skip + 1, place, _ :: cs => spans form skip (place + 1) cs
  | 0, place, c :: cs =>
    match form (c :: cs) with
    | some m => (place, m) :: spans form (m.length - 1) (place + 1) cs
    | none => spans form 0 (place + 1) cs

variable {form : List Char → Option Match}

/-- A scan finds the names of the matches that it takes. -/
theorem scan_eq_map_spans (form : List Char → Option Match) (skip place : Nat) (cs : List Char) :
    scan form skip place cs =
      (spans form skip place cs).map fun (p, m) => (p + m.before, m.name) := by
  induction cs generalizing skip place with
  | nil => cases skip <;> rfl
  | cons c cs ih =>
      cases skip with
      | succ skip => exact ih skip (place + 1)
      | zero =>
          rw [scan, spans]
          cases form (c :: cs) with
          | none => exact ih 0 (place + 1)
          | some m => exact congrArg _ (ih (m.length - 1) (place + 1))

/-- A match that is taken is one at its place, and starts after what was skipped. -/
theorem spans_sound {skip place p : Nat} {cs : List Char} {m : Match}
    (h : (p, m) ∈ spans form skip place cs) :
    ∃ k, p = place + k ∧ skip ≤ k ∧ form (cs.drop k) = some m := by
  induction cs generalizing skip place with
  | nil => cases skip <;> cases h
  | cons c cs ih =>
      cases skip with
      | succ skip =>
          obtain ⟨k, hp, hskip, hk⟩ := ih h
          exact ⟨k + 1, by omega, by omega, hk⟩
      | zero =>
          rw [spans] at h
          cases hform : form (c :: cs) with
          | none =>
              rw [hform] at h
              obtain ⟨k, hp, hskip, hk⟩ := ih h
              exact ⟨k + 1, by omega, by omega, hk⟩
          | some n =>
              rw [hform] at h
              rcases List.mem_cons.1 h with heq | h
              · cases heq
                exact ⟨0, rfl, Nat.le_refl 0, hform⟩
              · obtain ⟨k, hp, hskip, hk⟩ := ih h
                exact ⟨k + 1, by omega, by omega, hk⟩

/-- No match that is taken and starts before a place runs beyond it. -/
def NoneBeyond (form : List Char → Option Match) (skip place : Nat) (cs : List Char) (p : Nat) : Prop :=
  ∀ q n, (q, n) ∈ spans form skip place cs → q < p → q + n.length ≤ p

/-- No match that is taken starts before another one ends. -/
theorem noneBeyond_of_mem {skip place p : Nat} {cs : List Char} {m : Match}
    (h : (p, m) ∈ spans form skip place cs) : NoneBeyond form skip place cs p := by
  -- By induction on the text: the match at its start, if it is taken, ends before the next one starts.
  induction cs generalizing skip place with
  | nil => cases skip <;> cases h
  | cons c cs ih =>
      intro q n hq hlt
      cases skip with
      | succ skip => exact ih h q n hq hlt
      | zero =>
          rw [spans] at h hq
          cases hform : form (c :: cs) with
          | none =>
              rw [hform] at h hq
              exact ih h q n hq hlt
          | some first =>
              rw [hform] at h hq
              rcases List.mem_cons.1 h with heq | h
              · -- Nothing starts before the first match.
                cases heq
                rcases List.mem_cons.1 hq with heq | hq
                · cases heq
                  omega
                · obtain ⟨k, hk, -, -⟩ := spans_sound hq
                  omega
              · rcases List.mem_cons.1 hq with heq | hq
                · cases heq
                  obtain ⟨k, hk, hskip, -⟩ := spans_sound h
                  omega
                · exact ih h q n hq hlt

/-- A match is taken if nothing that was skipped or taken before runs beyond its place. -/
theorem mem_spans_of_noneBeyond {skip place k : Nat} {cs : List Char} {m : Match}
    (hform : form (cs.drop k) = some m) (hk : k < cs.length) (hskip : skip ≤ k)
    (hnone : NoneBeyond form skip place cs (place + k)) : (place + k, m) ∈ spans form skip place cs := by
  induction cs generalizing skip place k with
  | nil => cases hk
  | cons c cs ih =>
      have hlater : ∀ skip' k', k = k' + 1 → skip' ≤ k' →
          NoneBeyond form skip' (place + 1) cs (place + 1 + k') →
          (place + k, m) ∈ spans form skip' (place + 1) cs := by
        rintro skip' k' rfl hskip' hnone'
        have hplace : place + (k' + 1) = place + 1 + k' := by omega
        rw [hplace]
        exact ih hform (Nat.lt_of_succ_lt_succ hk) hskip' hnone'
      cases skip with
      | succ skip =>
          obtain ⟨k', rfl⟩ : ∃ k', k = k' + 1 := ⟨k - 1, by omega⟩
          refine hlater skip k' rfl (Nat.le_of_succ_le_succ hskip) ?_
          intro q n hq hlt
          have hend := hnone q n hq (by omega)
          omega
      | zero =>
          cases k with
          | zero =>
              have hfirst : form (c :: cs) = some m := hform
              rw [spans, hfirst]
              exact List.mem_cons_self
          | succ k =>
              cases hfirst : form (c :: cs) with
              | none =>
                  have hspans : spans form 0 place (c :: cs) = spans form 0 (place + 1) cs := by
                    rw [spans, hfirst]
                  rw [hspans]
                  refine hlater 0 k rfl (Nat.zero_le k) ?_
                  intro q n hq hlt
                  have hend := hnone q n (hspans ▸ hq) (by omega)
                  omega
              | some first =>
                  have hspans : spans form 0 place (c :: cs) =
                      (place, first) :: spans form (first.length - 1) (place + 1) cs := by
                    rw [spans, hfirst]
                  have hends := hnone place first (hspans ▸ List.mem_cons_self) (by omega)
                  rw [hspans]
                  refine List.mem_cons_of_mem _ (hlater _ k rfl (by omega) ?_)
                  intro q n hq hlt
                  have hend := hnone q n (hspans ▸ List.mem_cons_of_mem _ hq) (by omega)
                  omega

/-- **A match is taken exactly if nothing that is taken and starts before runs beyond its place.** -/
theorem mem_spans_iff {p : Nat} {cs : List Char} {m : Match} (hp : p < cs.length) :
    (p, m) ∈ spans form 0 0 cs ↔ form (cs.drop p) = some m ∧ NoneBeyond form 0 0 cs p := by
  constructor
  · intro h
    obtain ⟨k, hk, -, hform⟩ := spans_sound h
    rw [Nat.zero_add] at hk
    exact ⟨hk ▸ hform, noneBeyond_of_mem h⟩
  · rintro ⟨hform, hnone⟩
    have hnone' : NoneBeyond form 0 0 cs (0 + p) := (Nat.zero_add p).symm ▸ hnone
    have hmem := mem_spans_of_noneBeyond hform hp (Nat.zero_le p) hnone'
    rwa [Nat.zero_add] at hmem

/-! ### Parts of a text -/

/-- A form whose matches stay the same when the text goes on. -/
def IsLocal (form : List Char → Option Match) : Prop :=
  ∀ (cs rest : List Char) (m : Match), form cs = some m → form (cs ++ rest) = some m

/-- A match that is taken in a part of a text is a match at the same place of the whole text. -/
theorem form_of_mem_part (hlocal : IsLocal form) (before after : List Char) {part : List Char} {p : Nat}
    {m : Match} (h : (p, m) ∈ spans form 0 0 part) :
    form ((before ++ part ++ after).drop (before.length + p)) = some m := by
  obtain ⟨k, hk, -, hform⟩ := spans_sound h
  rw [Nat.zero_add] at hk
  subst hk
  have hdrop : (before ++ part ++ after).drop (before.length + p) = (part ++ after).drop p := by
    rw [List.append_assoc, List.drop_length_add_append]
  have hlocal := hlocal _ (after.drop (p - part.length)) m hform
  rwa [hdrop, List.drop_append]

/-- It is taken in the whole text unless something that is taken there runs into it. -/
theorem mem_spans_part_iff (hlocal : IsLocal form) (hempty : form [] = none)
    (before after : List Char) {part : List Char} {p : Nat} {m : Match}
    (h : (p, m) ∈ spans form 0 0 part) :
    (before.length + p, m) ∈ spans form 0 0 (before ++ part ++ after) ↔
      NoneBeyond form 0 0 (before ++ part ++ after) (before.length + p) := by
  have hform := form_of_mem_part hlocal before after h
  have hp : before.length + p < (before ++ part ++ after).length := by
    rcases Nat.lt_or_ge (before.length + p) (before ++ part ++ after).length with hlt | hge
    · exact hlt
    · rw [List.drop_eq_nil_of_le hge, hempty] at hform
      cases hform
  rw [mem_spans_iff hp]
  exact ⟨fun h => h.2, fun hnone => ⟨hform, hnone⟩⟩

end Specifier

end NotebookEngine
