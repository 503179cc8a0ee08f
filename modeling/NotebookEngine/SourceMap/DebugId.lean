/-
**Identities of debugging information.**

A map may say which debugging information it belongs to.  The identity is a number of 128 bits or, in an
older form, the time of a build; a further number tells apart what shares it.  Both are written in
hexadecimal digits, with hyphens or without.

Main definitions:

* `DebugId` — the identities;
* `DebugId.ofText?` — the identity that a text writes;
* `DebugId.text` — the written form.
-/

set_option autoImplicit false

namespace NotebookEngine

/-- The identity of debugging information. -/
inductive DebugId where
  | unique (number : Nat) (further : Nat)
  | ofTime (time : Nat) (further : Nat)
  deriving DecidableEq, Inhabited

namespace DebugId

/-! ### Reading -/

/-- The value of a hexadecimal digit. -/
def digit? (c : Char) : Option Nat :=
  if '0' ≤ c ∧ c ≤ '9' then some (c.toNat - 48)
  else if 'a' ≤ c ∧ c ≤ 'f' then some (c.toNat - 87)
  else if 'A' ≤ c ∧ c ≤ 'F' then some (c.toNat - 55)
  else none

/-- The number that some digits write. -/
def number? (cs : List Char) : Option Nat :=
  cs.foldl (fun n? c => do
    let n ← n?
    let d ← digit? c
    pure (n * 16 + d)) (some 0)

/-- A number of 32 bits, which may have a plus sign. -/
def word? (cs : List Char) : Option Nat := do
  let digits := match cs with
    | '+' :: ds => ds
    | ds => ds
  if digits.isEmpty then none
  else
    let n ← number? digits
    if n < Nat.pow 2 32 then some n else none

/-- Digits in groups that hyphens divide. -/
def grouped? : List Nat → List Char → Option (List Char)
  | [], cs => if cs.isEmpty then some [] else none
  | [n], cs => if cs.length = n then some cs else none
  | n :: ns, cs =>
    match cs.drop n with
    | '-' :: rest => do pure (cs.take n ++ (← grouped? ns rest))
    | _ => none

/-- The number of 128 bits at the start of a text, and what follows it. -/
def unique? (hyphens : Bool) (cs : List Char) : Option (Nat × List Char) := do
  let length := if hyphens then 36 else 32
  if cs.length < length then none
  else
    let digits ← if hyphens then grouped? [8, 4, 4, 4, 12] (cs.take length) else some (cs.take length)
    pure (← number? digits, cs.drop length)

/-- The identity that a text writes. -/
def ofText? (text : String) : Option DebugId := do
  let cs := text.toList
  let hyphens := cs[8]? = some '-'
  if cs.any fun c => c.toNat ≥ 128 then none
  else if 9 ≤ cs.length - (if hyphens then 1 else 0) && cs.length ≤ (if hyphens then 17 else 16) then
    pure (.ofTime (← word? (cs.take 8)) (← word? (cs.drop (if hyphens then 9 else 8))))
  else
    let (n, rest) ← unique? hyphens cs
    match rest with
    | [] => some (.unique n 0)
    | '-' :: further => if hyphens then pure (.unique n (← word? further)) else none
    | further => if hyphens then none else pure (.unique n (← word? further))

/-! ### Writing -/

/-- A number in at least `width` digits. -/
def padded (width n : Nat) : List Char :=
  let digits := Nat.toDigits 16 n
  List.replicate (width - digits.length) '0' ++ digits

/-- The further number, if it tells something apart. -/
def furtherText (n : Nat) : String := if n = 0 then "" else "-" ++ String.ofList (Nat.toDigits 16 n)

/-- Digits in groups of the given lengths. -/
def groups : List Nat → List Char → List String
  | [], _ => []
  | n :: ns, cs => String.ofList (cs.take n) :: groups ns (cs.drop n)

/-- The written form. -/
def text : DebugId → String
  | .unique n further => "-".intercalate (groups [8, 4, 4, 4, 12] (padded 32 n)) ++ furtherText further
  | .ofTime time further => String.ofList ((padded 8 time).map Char.toUpper) ++ furtherText further

end DebugId

end NotebookEngine
