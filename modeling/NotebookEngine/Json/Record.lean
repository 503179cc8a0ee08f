/-
**Reading records from JSON.**

A record is written as an object whose fields come in any order, or as a list of the fields in their
declared order.  Unknown fields are skipped, a known field may come once, and a value of another kind is
refused by name.

Main definitions:

* `Json.Reader.record` — a record in either form;
* `Json.Reader.text`, `Json.Reader.optionalText`, `Json.Reader.natBelow` — the scalar fields;
* `Json.Reader.listOf` — a list field;
* `Json.Reader.variant` — one of a fixed set of words.
-/

import NotebookEngine.Json.Reader

set_option autoImplicit false

namespace NotebookEngine

namespace Json

namespace Reader

/-! ### Refusing a value -/

/-- Refuse the value at the cursor, naming what it is and what was expected. -/
def refuse {α : Type} (expected : String) : Reader α := located do
  let wrong (met : Met) : Reader α := failLater (.invalidType met expected)
  match ← peek with
  | some 'n' => do skip; keyword ['u', 'l', 'l']; wrong .unit
  | some 't' => do skip; keyword ['r', 'u', 'e']; wrong (.bool true)
  | some 'f' => do skip; keyword ['a', 'l', 's', 'e']; wrong (.bool false)
  | some '-' => do skip; wrong (← number false).met
  | some '"' => do skip; wrong (.str (← string))
  | some '[' => wrong .sequence
  | some '\x7b' => wrong .map
  | some c => if (digitValue c).isSome then wrong (← number true).met else failNext .expectedValue
  | none => failNext .expectedValue

/-- The first character of a value that must be there. -/
def start : Reader Char := do
  match ← skipGaps with
  | some c => return c
  | none => failNext .endInValue

/-! ### Scalar fields -/

/-- A string. -/
def text : Reader String := do
  if (← start) = '"' then do skip; string else refuse "a string"

/-- A value or `null`. -/
def optional {α : Type} (r : Reader α) : Reader (Option α) := do
  if (← skipGaps) = some 'n' then do skip; keyword ['u', 'l', 'l']; return none
  else return some (← r)

/-- A string or `null`. -/
def optionalText : Reader (Option String) := optional text

/-- A natural number below a bound, which is named by `kind`. -/
def natBelow (bound : Nat) (kind : String) : Reader Nat := do
  let c ← start
  let fromNumber (n : Number) : Reader Nat :=
    match n with
    | .int i =>
      if 0 ≤ i ∧ i < bound then return i.toNat else failLater (.invalidValue (.int i) kind)
    | .float x => failLater (.invalidType (.float x) kind)
  if c = '-' then located do skip; fromNumber (← number false)
  else if (digitValue c).isSome then located do fromNumber (← number true)
  else refuse kind

/-- A natural number of 32 bits. -/
def nat32 : Reader Nat := natBelow (Nat.pow 2 32) "u32"

/-! ### Lists -/

/-- The items of a list up to its end. -/
def items {α : Type} (r : Reader α) : Nat → Bool → Reader (List α)
  | 0, _ => failHere .recursionLimit
  | n + 1, first => do
    if ← moreItems first then
      let a ← r
      return a :: (← items r n false)
    else return []

/-- A list of values that `r` reads. -/
def listOf {α : Type} (r : Reader α) : Reader (List α) := do
  if (← start) = '[' then
    located do
      skip
      thenClose (do items r (← fuel) true) endOfList
  else refuse "a sequence"

/-- The next item of a list, if there is one. -/
def nextItem {α : Type} (first : Bool) (r : Reader α) : Reader (Option α) := do
  if ← moreItems first then return some (← r) else return none

/-! ### Records -/

/-- The value of a known field, whose name is read; it may come once. -/
def known {α : Type} (name : String) (seen : Option α) (r : Reader α) : Reader (Option α) := do
  if seen.isSome then failLater (.duplicateField name)
  else do
    colon
    return some (← r)

/-- A field that is of no interest, whose name is read. -/
def unknown : Reader Unit := do
  colon
  skipValue

/-- The fields of an object up to its end: `field` reads what follows a name. -/
def fields {σ : Type} (field : String → σ → Reader σ) : Nat → Bool → σ → Reader σ
  | 0, _, _ => failHere .recursionLimit
  | n + 1, first, s => do
    if ← moreFields first then
      let name ← fieldName
      let s ← field name s
      fields field n false s
    else return s

/-- A record: an object, whose fields `field` gathers from `empty` and `finish` completes, or a list in
the order that `positional` reads. -/
def record {σ α : Type} (expected : String) (empty : σ) (field : String → σ → Reader σ)
    (finish : σ → Reader α) (positional : Reader α) : Reader α := do
  match ← start with
  | '[' => located do skip; thenClose positional endOfList
  | '\x7b' =>
    located do
      skip
      thenClose (do finish (← fields field (← fuel) true empty)) endOfObject
  | _ => refuse expected

/-! ### Words -/

/-- The word that names a variant. -/
def variantName (words : List String) (expected : String) : Reader String := do
  match ← start with
  | '"' =>
    located do
      skip
      let w ← string
      if words.contains w then return w else failLater (.unknownVariant w expected)
  | '\x7d' => failNext .expectedValue
  | _ => failNext .keyMustBeString

/-- `null`, which is all that a word carries. -/
def nothing : Reader Unit := do
  if (← start) = 'n' then do skip; keyword ['u', 'l', 'l'] else refuse "unit"

/-- One of the given words, alone or as the only field of an object whose value is `null`. -/
def variant (words : List String) (expected : String) : Reader String := do
  match ← start with
  | '\x7b' =>
    skip
    let w ← variantName words expected
    colon
    nothing
    match ← skipGaps with
    | some '\x7d' => do skip; return w
    | some _ => failHere .expectedValue
    | none => failHere .endInObject
  | '"' => variantName words expected
  | _ => failNext .expectedValue

end Reader

end Json

end NotebookEngine
