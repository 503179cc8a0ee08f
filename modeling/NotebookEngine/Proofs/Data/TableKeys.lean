/-
**The numbers that a table lists.**

A table lists its entries by decreasing number, so its keys are determined by which numbers have a
value: they are duplicate free, and putting or erasing one value adds or removes one key.

Main results:

* `Table.mem_keys`, `Table.nodup_keys` — the keys are the numbers with a value, each once;
* `Table.entries_put_perm`, `Table.entries_perm_erase` — how the entries change;
* `Table.keys_put_perm`, `Table.keys_erase_perm` — how the keys change;
* `Table.keys_eq_of_contains` — tables with values at the same numbers have the same keys;
* `Table.sum_values` — a sum over the values is one over the keys.
-/

import Mathlib.Algebra.BigOperators.Ring.Finset
import Mathlib.Data.List.Sort
import NotebookEngine.Data.Table

set_option autoImplicit false

namespace NotebookEngine

namespace Table

variable {α : Type}

/-! ### Membership -/

theorem find?_eq_some_iff {key : Nat} {value : α} {es : List (Nat × α)} (h : Sorted es) :
    find? key es = some value ↔ (key, value) ∈ es := by
  induction es with
  | nil => simp [find?]
  | cons e rest ih =>
      obtain ⟨k, v⟩ := e
      have hrest := ih h.2
      rw [find?, List.mem_cons, Prod.mk.injEq]
      split
      next hk =>
        subst hk
        have hnot : (k, value) ∉ rest := fun hmem => Nat.lt_irrefl k (h.1 _ hmem)
        simp [hnot, eq_comm]
      next hk =>
        split
        next hlt =>
          have hnot : (key, value) ∉ rest := fun hmem => by
            have := h.1 _ hmem
            omega
          simp [hnot, Ne.symm hk]
        next => rw [hrest]; simp [Ne.symm hk]

/-- A value is found exactly if it is among the entries. -/
theorem get?_eq_some_iff (t : Table α) (key : Nat) (value : α) :
    t.get? key = some value ↔ (key, value) ∈ t.entries :=
  find?_eq_some_iff t.sorted

theorem contains_iff (t : Table α) (key : Nat) :
    t.contains key = true ↔ ∃ value, t.get? key = some value := Option.isSome_iff_exists

/-- The keys are the numbers that have a value. -/
theorem mem_keys (t : Table α) (key : Nat) : key ∈ t.keys ↔ t.contains key = true := by
  rw [contains_iff]
  constructor
  · intro h
    obtain ⟨⟨k, v⟩, hmem, rfl⟩ := List.mem_map.1 h
    exact ⟨v, (t.get?_eq_some_iff k v).2 hmem⟩
  · rintro ⟨value, h⟩
    exact List.mem_map.2 ⟨(key, value), (t.get?_eq_some_iff key value).1 h, rfl⟩

theorem pairwise_of_sorted {es : List (Nat × α)} (h : Sorted es) :
    (es.map Prod.fst).Pairwise (· > ·) := by
  induction es with
  | nil => exact List.Pairwise.nil
  | cons e rest ih =>
      obtain ⟨k, v⟩ := e
      refine List.Pairwise.cons ?_ (ih h.2)
      intro l hl
      obtain ⟨e, he, rfl⟩ := List.mem_map.1 hl
      exact h.1 e he

theorem pairwise_keys (t : Table α) : t.keys.Pairwise (· > ·) := pairwise_of_sorted t.sorted

/-- No key is listed twice. -/
theorem nodup_keys (t : Table α) : t.keys.Nodup := t.pairwise_keys.imp fun h => Nat.ne_of_gt h

@[simp] theorem length_keys (t : Table α) : t.keys.length = t.size := by simp [keys, size]

/-! ### What is found after a change -/

theorem contains_put (t : Table α) (key other : Nat) (value : α) :
    (t.put key value).contains other = (decide (key = other) || t.contains other) := by
  rw [contains, contains, get?_put]
  split
  next h => simp [h]
  next h => simp [h]

theorem contains_erase (t : Table α) (key other : Nat) :
    (t.erase key).contains other = (!decide (key = other) && t.contains other) := by
  rw [contains, contains, get?_erase]
  split
  next h => simp [h]
  next h => simp [h]

/-- A changed value is found as it has become, and no other changes. -/
theorem get?_modify (t : Table α) (key other : Nat) (f : α → α) :
    (t.modify key f).get? other = if key = other then (t.get? other).map f else t.get? other := by
  rw [modify]
  cases h : t.get? key with
  | none =>
      by_cases hk : key = other
      · subst hk; simp [h]
      · simp [hk]
  | some v =>
      by_cases hk : key = other
      · subst hk; simp [h]
      · simp [get?_put, hk]

/-! ### How the entries change -/

theorem nodup_entries (t : Table α) : t.entries.Nodup := List.Nodup.of_map Prod.fst t.nodup_keys

theorem not_mem_entries_erase (t : Table α) (key : Nat) (value : α) :
    (key, value) ∉ (t.erase key).entries := by
  rw [← get?_eq_some_iff, get?_erase, if_pos rfl]
  exact Option.some_ne_none value ∘ Eq.symm

/-- An entry, and those that are left without it. -/
theorem entries_perm_erase {t : Table α} {key : Nat} {value : α} (h : t.get? key = some value) :
    t.entries.Perm ((key, value) :: (t.erase key).entries) := by
  refine (List.perm_ext_iff_of_nodup t.nodup_entries
    (List.nodup_cons.2 ⟨t.not_mem_entries_erase key value, nodup_entries _⟩)).2 ?_
  rintro ⟨k, v⟩
  rw [List.mem_cons, ← get?_eq_some_iff, ← get?_eq_some_iff, get?_erase, Prod.mk.injEq]
  by_cases hk : key = k
  · subst hk; simp [h, eq_comm]
  · simp [hk, Ne.symm hk]

theorem erase_put (t : Table α) (key : Nat) (value : α) :
    (t.put key value).erase key = t.erase key :=
  ext fun k => by rw [get?_erase, get?_erase, get?_put]; split <;> rfl

/-- Erasing a number without a value changes nothing. -/
theorem erase_eq_self {t : Table α} {key : Nat} (h : t.get? key = none) : t.erase key = t :=
  ext fun k => by
    rw [get?_erase]
    split
    next hk => subst hk; exact h.symm
    next => rfl

/-- Putting a value adds its entry to those that are left without its number. -/
theorem entries_put_perm (t : Table α) (key : Nat) (value : α) :
    (t.put key value).entries.Perm ((key, value) :: (t.erase key).entries) := by
  rw [← erase_put t key value]
  exact entries_perm_erase (t.get?_put_self key value)

/-- Putting a value at a new number adds its key. -/
theorem keys_put_perm (t : Table α) {key : Nat} (value : α) (h : t.contains key = false) :
    (t.put key value).keys.Perm (key :: t.keys) := by
  have hnone : t.get? key = none := by simpa [contains] using h
  have hperm := (t.entries_put_perm key value).map Prod.fst
  rwa [erase_eq_self hnone] at hperm

/-- Erasing a value removes its key. -/
theorem keys_erase_perm (t : Table α) {key : Nat} (h : t.contains key = true) :
    t.keys.Perm (key :: (t.erase key).keys) := by
  obtain ⟨value, hvalue⟩ := (t.contains_iff key).1 h
  exact (entries_perm_erase hvalue).map Prod.fst

/-- Tables with values at the same numbers have the same keys. -/
theorem keys_eq_of_contains {β : Type} {t : Table α} {u : Table β}
    (h : ∀ k, t.contains k = u.contains k) : t.keys = u.keys := by
  have hp : t.keys.Perm u.keys :=
    (List.perm_ext_iff_of_nodup t.nodup_keys u.nodup_keys).2 fun k => by
      rw [mem_keys, mem_keys, h]
  exact hp.eq_of_pairwise (fun a b _ _ hab hba => absurd hab (Nat.not_lt_of_gt hba))
    t.pairwise_keys u.pairwise_keys

/-- Tables with values at the same numbers have the same size. -/
theorem size_eq_of_contains {β : Type} {t : Table α} {u : Table β}
    (h : ∀ k, t.contains k = u.contains k) : t.size = u.size := by
  rw [← length_keys, ← length_keys, keys_eq_of_contains h]

/-! ### Sums -/

/-- A sum over the values is one over the keys. -/
theorem sum_values (t : Table Int) :
    t.values.sum = ∑ k ∈ t.keys.toFinset, (t.get? k).getD 0 := by
  rw [List.sum_toFinset _ t.nodup_keys]
  congr 1
  rw [values, keys, List.map_map]
  refine List.map_congr_left ?_
  intro e he
  simp only [Function.comp_apply]
  rw [(t.get?_eq_some_iff e.1 e.2).2 he, Option.getD_some]

end Table

end NotebookEngine
