/-
**JSON values.**

Numbers keep the distinction between integers and floats that a document makes.  A value that was read
lists its fields in increasing order of their names, each name once, so it has one form whatever order
its document used; a value that is to be written may list them in an order of its own.

Main definitions:

* `Json` — values;
* `Json.put`, `Json.ofFields` — adding a field in its place, the last value of a name winning;
* `Json.field?` — looking a field up.

Main results:

* `Json.lookup_put`, `Json.lookup_put_ne` — a field that was put is found, and no other changes.
-/

set_option autoImplicit false

namespace NotebookEngine

/-- A JSON value. -/
inductive Json where
  | null
  | bool (b : Bool)
  | int (n : Int)
  | float (x : Float)
  | str (s : String)
  | arr (items : List Json)
  | obj (fields : List (String × Json))
  deriving Inhabited

namespace Json

/-! ### Fields in order -/

/-- The fields with `value` under `name`, in its place in the order. -/
def put {α : Type} (name : String) (value : α) : List (String × α) → List (String × α)
  | [] => [(name, value)]
  | (k, v) :: rest =>
    if name = k then (k, value) :: rest
    else if name < k then (name, value) :: (k, v) :: rest
    else (k, v) :: put name value rest

/-- A field that was put is found. -/
theorem lookup_put {α : Type} (name : String) (value : α) (fields : List (String × α)) :
    (put name value fields).lookup name = some value := by
  induction fields with
  | nil => simp [put]
  | cons kv rest ih =>
    obtain ⟨k, v⟩ := kv
    rw [put]
    split
    next h => simp [h]
    next h =>
      split
      next => simp
      next =>
        have hb : (name == k) = false := by simpa using h
        simp [List.lookup_cons, hb, ih]

/-- Putting a field changes no other. -/
theorem lookup_put_ne {α : Type} {name other : String} (value : α) (fields : List (String × α))
    (h : other ≠ name) : (put name value fields).lookup other = fields.lookup other := by
  have hb : (other == name) = false := by simpa using h
  induction fields with
  | nil => simp [put, List.lookup_cons, hb]
  | cons kv rest ih =>
    obtain ⟨k, v⟩ := kv
    rw [put]
    split
    next hk => subst hk; simp [List.lookup_cons, hb]
    next hk =>
      split
      next => simp [List.lookup_cons, hb]
      next => simp only [List.lookup_cons, ih]

/-- An object with the given fields, the last value of a name winning. -/
def ofFields (fields : List (String × Json)) : Json :=
  .obj (fields.foldl (fun acc (k, v) => put k v acc) [])

/-- A field that is written if there is a value. -/
def optionalField (name : String) (value : Option String) : List (String × Json) :=
  match value with
  | some v => [(name, .str v)]
  | none => []

/-- The value of a field. -/
def field? (name : String) : Json → Option Json
  | .obj fields => fields.lookup name
  | _ => none

/-- The text of a string value. -/
def text? : Json → Option String
  | .str s => some s
  | _ => none

end Json

end NotebookEngine
