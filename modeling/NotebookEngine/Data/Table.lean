/-
**Tables from numbers to values.**

Identities are handed out in increasing order and the newest are asked for most, so a table lists its
entries by decreasing number, each number once.

Main definitions:

* `Table` — the table; `Table.empty`, `Table.get?`, `Table.put`, `Table.erase`;
* `Table.keys`, `Table.values`, `Table.size` — the numbers that have a value, and what they have.

Main results:

* `Table.get?_put`, `Table.get?_erase` — what changes, and what does not;
* `Table.ext` — two tables that answer alike are equal.
-/

set_option autoImplicit false

namespace NotebookEngine

/-! ### Entries in order -/

namespace Table

/-- Whether the numbers of the entries decrease. -/
def Sorted {α : Type} : List (Nat × α) → Prop
  | [] => True
  | (k, _) :: rest => (∀ e ∈ rest, e.1 < k) ∧ Sorted rest

/-- The value of a number among entries in order. -/
def find? {α : Type} (key : Nat) : List (Nat × α) → Option α
  | [] => none
  | (k, v) :: rest => if k = key then some v else if k < key then none else find? key rest

/-- The entries with one replaced or added. -/
def insert {α : Type} (key : Nat) (value : α) : List (Nat × α) → List (Nat × α)
  | [] => [(key, value)]
  | (k, v) :: rest =>
    if k = key then (key, value) :: rest
    else if k < key then (key, value) :: (k, v) :: rest
    else (k, v) :: insert key value rest

/-- The entries without a number. -/
def remove {α : Type} (key : Nat) : List (Nat × α) → List (Nat × α)
  | [] => []
  | (k, v) :: rest =>
    if k = key then rest
    else if k < key then (k, v) :: rest
    else (k, v) :: remove key rest

theorem find?_of_lt {α : Type} {key : Nat} {es : List (Nat × α)} (h : ∀ e ∈ es, e.1 < key) :
    find? key es = none := by
  cases es with
  | nil => rfl
  | cons e rest =>
    have := h e (by simp)
    simp [find?, this, Nat.ne_of_lt this]

theorem lt_of_mem_insert {α : Type} {key bound : Nat} {value : α} {es : List (Nat × α)}
    (hk : key < bound) (h : ∀ e ∈ es, e.1 < bound) : ∀ e ∈ insert key value es, e.1 < bound := by
  induction es with
  | nil => simpa [insert] using hk
  | cons e rest ih =>
    obtain ⟨k, v⟩ := e
    have hrest : ∀ e ∈ rest, e.1 < bound := fun e he => h e (by simp [he])
    have hhead : k < bound := h (k, v) (by simp)
    intro e he
    rw [insert] at he
    split at he
    · rcases List.mem_cons.1 he with rfl | he
      · exact hk
      · exact hrest e he
    · split at he
      · rcases List.mem_cons.1 he with rfl | he
        · exact hk
        · exact h e he
      · rcases List.mem_cons.1 he with rfl | he
        · exact hhead
        · exact ih hrest e he

theorem sorted_insert {α : Type} (key : Nat) (value : α) {es : List (Nat × α)} (h : Sorted es) :
    Sorted (insert key value es) := by
  induction es with
  | nil => simp [insert, Sorted]
  | cons e rest ih =>
    obtain ⟨k, v⟩ := e
    rw [insert]
    split
    next hk => subst hk; exact h
    next hk =>
      split
      next hlt =>
        refine ⟨fun e he => ?_, h⟩
        rcases List.mem_cons.1 he with rfl | he
        · exact hlt
        · exact Nat.lt_trans (h.1 e he) hlt
      next hlt => exact ⟨lt_of_mem_insert (by omega) h.1, ih h.2⟩

theorem mem_of_mem_remove {α : Type} {key : Nat} {es : List (Nat × α)} :
    ∀ e ∈ remove key es, e ∈ es := by
  induction es with
  | nil => simp [remove]
  | cons e rest ih =>
    obtain ⟨k, v⟩ := e
    intro e he
    rw [remove] at he
    split at he
    · exact List.mem_cons_of_mem _ he
    · split at he
      · exact he
      · rcases List.mem_cons.1 he with rfl | he
        · simp
        · exact List.mem_cons_of_mem _ (ih e he)

theorem sorted_remove {α : Type} (key : Nat) {es : List (Nat × α)} (h : Sorted es) :
    Sorted (remove key es) := by
  induction es with
  | nil => exact h
  | cons e rest ih =>
    obtain ⟨k, v⟩ := e
    rw [remove]
    split
    · exact h.2
    · split
      · exact h
      · exact ⟨fun e he => h.1 e (mem_of_mem_remove e he), ih h.2⟩

theorem find?_insert {α : Type} (key other : Nat) (value : α) (es : List (Nat × α)) :
    find? other (insert key value es) = if key = other then some value else find? other es := by
  induction es with
  | nil => simp only [insert, find?]; split <;> simp
  | cons e rest ih =>
    obtain ⟨k, v⟩ := e
    grind [insert, find?]

theorem find?_remove {α : Type} (key other : Nat) {es : List (Nat × α)} (h : Sorted es) :
    find? other (remove key es) = if key = other then none else find? other es := by
  induction es with
  | nil => simp [remove, find?]
  | cons e rest ih =>
    obtain ⟨k, v⟩ := e
    have hrest := ih h.2
    have hnone : find? k rest = none := find?_of_lt h.1
    rw [remove]
    split
    next hk =>
      subst hk
      split
      next ho => subst ho; exact hnone
      next ho =>
        rw [find?, if_neg ho]
        split
        next hlt => exact find?_of_lt fun e he => Nat.lt_trans (h.1 e he) hlt
        next => rfl
    next hk =>
      split
      next hlt =>
        split
        next ho => subst ho; rw [find?, if_neg hk, if_pos hlt]
        next => rfl
      next hlt => grind [find?]

theorem entries_ext {α : Type} {es fs : List (Nat × α)} (he : Sorted es) (hf : Sorted fs)
    (h : ∀ k, find? k es = find? k fs) : es = fs := by
  induction es generalizing fs with
  | nil =>
    cases fs with
    | nil => rfl
    | cons f rest => have := h f.1; simp [find?] at this
  | cons e es ih =>
    obtain ⟨k, v⟩ := e
    cases fs with
    | nil => have := h k; simp [find?] at this
    | cons f fs =>
      obtain ⟨l, w⟩ := f
      have hk := h k
      have hl := h l
      have hkl : k = l := by grind [find?]
      subst hkl
      have hv : v = w := by simpa [find?] using hk
      subst hv
      have : es = fs := by
        refine ih he.2 hf.2 fun j => ?_
        by_cases hj : k = j
        · subst hj; rw [find?_of_lt he.1, find?_of_lt hf.1]
        · have := h j
          rw [find?, find?, if_neg hj, if_neg hj] at this
          by_cases hlt : k < j
          · rw [find?_of_lt fun e h => Nat.lt_trans (he.1 e h) hlt,
              find?_of_lt fun e h => Nat.lt_trans (hf.1 e h) hlt]
          · simpa [hlt] using this
      rw [this]

end Table

/-! ### Tables -/

/-- A table from numbers to values. -/
structure Table (α : Type) where
  /-- The entries by decreasing number. -/
  entries : List (Nat × α)
  sorted : Table.Sorted entries

namespace Table

/-- The table without entries. -/
def empty {α : Type} : Table α := ⟨[], trivial⟩

instance {α : Type} : Inhabited (Table α) := ⟨empty⟩

/-- The value of a number. -/
def get? {α : Type} (t : Table α) (key : Nat) : Option α := find? key t.entries

/-- The table with one value set. -/
def put {α : Type} (t : Table α) (key : Nat) (value : α) : Table α :=
  ⟨insert key value t.entries, sorted_insert key value t.sorted⟩

/-- The table without the value of a number. -/
def erase {α : Type} (t : Table α) (key : Nat) : Table α :=
  ⟨remove key t.entries, sorted_remove key t.sorted⟩

/-- The table with the value of a number changed, if it has one. -/
def modify {α : Type} (t : Table α) (key : Nat) (f : α → α) : Table α :=
  match t.get? key with
  | some v => t.put key (f v)
  | none => t

/-- Whether a number has a value. -/
def contains {α : Type} (t : Table α) (key : Nat) : Bool := (t.get? key).isSome

/-- The numbers that have a value, the largest first. -/
def keys {α : Type} (t : Table α) : List Nat := t.entries.map Prod.fst

/-- The values, those of the largest numbers first. -/
def values {α : Type} (t : Table α) : List α := t.entries.map Prod.snd

/-- The number of entries. -/
def size {α : Type} (t : Table α) : Nat := t.entries.length

/-- The entries by increasing number. -/
def toList {α : Type} (t : Table α) : List (Nat × α) := t.entries.reverse

@[simp] theorem get?_empty {α : Type} (key : Nat) : (empty : Table α).get? key = none := rfl

/-- A value that was put is found, and no other changes. -/
theorem get?_put {α : Type} (t : Table α) (key other : Nat) (value : α) :
    (t.put key value).get? other = if key = other then some value else t.get? other :=
  find?_insert key other value t.entries

@[simp] theorem get?_put_self {α : Type} (t : Table α) (key : Nat) (value : α) :
    (t.put key value).get? key = some value := by simp [get?_put]

/-- An erased value is not found, and no other changes. -/
theorem get?_erase {α : Type} (t : Table α) (key other : Nat) :
    (t.erase key).get? other = if key = other then none else t.get? other :=
  find?_remove key other t.sorted

/-- Two tables that answer alike are equal. -/
theorem ext {α : Type} {t u : Table α} (h : ∀ k, t.get? k = u.get? k) : t = u := by
  obtain ⟨es, hes⟩ := t
  obtain ⟨fs, hfs⟩ := u
  have := entries_ext hes hfs h
  subst this
  rfl

end Table

end NotebookEngine
