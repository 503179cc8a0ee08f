/-
**Functions that programs find under their own names.**

Texts as parts of addresses, where most letters are written as bytes, and the questions about numbers
that convert their argument first.

Main definitions:

* `Library.globals` — the functions;
* `Library.proxies` — objects that stand in for others;
* `Library.encodeAddress`, `Library.decodeAddress` — texts as parts of addresses.
-/

import NotebookEngine.Engine.Library.Objects
import NotebookEngine.Engine.Library.Collections
import NotebookEngine.Engine.Library.Numbers
import NotebookEngine.Text.Bytes

set_option autoImplicit false

namespace NotebookEngine

namespace Engine

namespace Library

open Act

/-! ### Addresses -/

/-- The letters that divide an address into parts. -/
def addressDividers : List Char := ";/?:@&=+$,#".toList

/-- The letters besides digits and those of the alphabet that stand for themselves in an address. -/
def addressMarks : List Char := "-_.!~*'()".toList

/-- The digit of a number below sixteen. -/
def upperDigit (n : Nat) : Char := "0123456789ABCDEF".toList[n]?.getD '0'

/-- The value of a digit in base sixteen. -/
def digitValue? (c : Char) : Option Nat :=
  if c.isDigit then some (c.toNat - 48)
  else if 'a' ≤ c ∧ c ≤ 'f' then some (c.toNat - 87)
  else if 'A' ≤ c ∧ c ≤ 'F' then some (c.toNat - 55)
  else none

/-- A byte as it is written in an address. -/
def percentByte (b : Nat) : List Char := ['%', upperDigit (b / 16), upperDigit (b % 16)]

/-- A text as it is written in an address, where the letters of `kept` stand for themselves too, or why
it cannot be written. -/
def encodeAddress (kept : List Char) : List Char → Except String (List Char)
  | [] => .ok []
  | c :: cs =>
    if c.isAlphanum || addressMarks.contains c || kept.contains c then do
      pure (c :: (← encodeAddress kept cs))
    else
      match Script.halfUnit? c with
      | some u => .error (if Script.closesPair u then "invalid character" else "expecting surrogate pair")
      | none => do
        pure ((Text.toBytes (String.singleton c)).flatMap percentByte ++ (← encodeAddress kept cs))

/-- The byte that an address writes at its start. -/
def percentValue : List Char → Except String (Nat × List Char)
  | '%' :: a :: b :: cs =>
    match digitValue? a, digitValue? b with
    | some x, some y => .ok (x * 16 + y, cs)
    | _, _ => .error "expecting hex digit"
  | '%' :: _ => .error "expecting hex digit"
  | _ => .error "expecting %"

/-- The bytes that follow a first one, as many as are wanted. The bits are lost if one of them does not
follow another byte. -/
def percentRest : Nat → Nat → List Char → Except String (Nat × List Char)
  | 0, bits, cs => .ok (bits, cs)
  | n + 1, bits, cs => do
    let (b, rest) ← percentValue cs
    if b / 64 = 2 then percentRest n (bits * 64 + b % 64) rest else pure (0, rest)

/-- The letter that an address writes at its start. -/
def percentLetter (cs : List Char) : Except String (Char × List Char) := do
  let (b, rest) ← percentValue cs
  if b < 0x80 then pure (Char.ofNat b, rest)
  else
    let (n, least, bits) : Nat × Nat × Nat :=
      if 0xC0 ≤ b ∧ b ≤ 0xDF then (1, 0x80, b % 32)
      else if 0xE0 ≤ b ∧ b ≤ 0xEF then (2, 0x800, b % 16)
      else if 0xF0 ≤ b ∧ b ≤ 0xF7 then (3, 0x10000, b % 8)
      else (0, 1, 0)
    let (code, rest) ← percentRest n bits rest
    if code < least || code > 0x10FFFF || (0xD800 ≤ code && code < 0xE000) then
      throw "malformed UTF-8"
    else pure (Char.ofNat code, rest)

/-- The text that an address writes, where the letters of `kept` stay as they are written. -/
def decodeAddress (kept : List Char) : Nat → List Char → Except String (List Char)
  | 0, cs => .ok cs
  | _, [] => .ok []
  | fuel + 1, c :: cs => do
    if c = '%' then
      let (letter, rest) ← percentLetter (c :: cs)
      if kept.contains letter then pure (c :: (← decodeAddress kept fuel cs))
      else pure (letter :: (← decodeAddress kept fuel rest))
    else pure (c :: (← decodeAddress kept fuel cs))

/-- A text, or the error of texts that are no part of an address. -/
def addressText (o : Except String (List Char)) : Act Value :=
  match o with
  | .ok cs => pure (.string (String.ofList cs))
  | .error message => throwFault .uriError message

/-- A function that writes texts for addresses. -/
def encoder (name : String) (kept : List Char) : Entry :=
  .method name 1 fun c => do addressText (encodeAddress kept (← toText (c.argument 0)).toList)

/-- A function that reads texts of addresses. -/
def decoder (name : String) (kept : List Char) : Entry :=
  .method name 1 fun c => do
    let cs := (← toText (c.argument 0)).toList
    addressText (decodeAddress kept cs.length cs)

/-! ### The old way to write letters -/

/-- A unit of text as it was once written. -/
def escapedUnit (u : Nat) : List Char :=
  let c := Char.ofNat u
  if u < 128 && (c.isAlphanum || "@*_+-./".toList.contains c) then [c]
  else if u < 256 then percentByte u
  else ['%', 'u', upperDigit (u / 4096), upperDigit (u / 256 % 16), upperDigit (u / 16 % 16),
    upperDigit (u % 16)]

/-- The number that digits in base sixteen write. -/
def hexValue? (cs : List Char) : Option Nat :=
  cs.foldl (fun n? c => do pure ((← n?) * 16 + (← digitValue? c))) (some 0)

/-- The units that were once written so. -/
def unescapedUnits : List Char → List Nat
  | [] => []
  | '%' :: 'u' :: a :: b :: c :: d :: cs =>
    match hexValue? [a, b, c, d] with
    | some u => u :: unescapedUnits cs
    | none => 37 :: unescapedUnits ('u' :: a :: b :: c :: d :: cs)
  | '%' :: a :: b :: cs =>
    match hexValue? [a, b] with
    | some u => u :: unescapedUnits cs
    | none => 37 :: unescapedUnits (a :: b :: cs)
  | c :: cs => Script.unitsOfChar c ++ unescapedUnits cs

/-! ### The functions -/

/-- Functions that programs find under their own names. -/
def globals : List Entry :=
  [.method "isNaN" 1 fun c => do pure (.bool (← toNumber (c.argument 0)).isNaN),
   .method "isFinite" 1 fun c => do pure (.bool (← toNumber (c.argument 0)).isFinite),
   encoder "encodeURIComponent" [], encoder "encodeURI" addressDividers,
   decoder "decodeURIComponent" [], decoder "decodeURI" addressDividers,
   .method "escape" 1 fun c => do
      let us := Script.units (← toText (c.argument 0))
      pure (.string (String.ofList (us.toList.flatMap escapedUnit))),
   .method "unescape" 1 fun c => do
      pure (.string (Script.ofUnits (unescapedUnits (← toText (c.argument 0)).toList))),
   .method "eval" 1 fun c => do
      match c.argument 0 with
      | .string s => evalText inputFile s (Scope.start false)
      | v => pure v]

/-- The clock that programs measure with. -/
def performance : Space :=
  { name := "performance", constants := [], tag? := none
    entries := [.method "now" 0 fun _ => do
      pure (.number ((← read fun w => Float.ofNat w.clock) / 1000000))] }

/-- The constructor of objects that stand in for others, and what it holds. -/
def proxies : Entry × List Entry :=
  (.method "Proxy" 2 fun c => do
      needNew c
      pure (.object (← makeProxy (c.argument 0) (c.argument 1))),
   [.method "revocable" 2 fun c => do
      let p ← makeProxy (c.argument 0) (c.argument 1)
      let r ← newPlain
      let revoke ← newNative (.revoke p) 0
      modifyObject r fun o =>
        (o.putNamed (.text "proxy") (.plain (.object p))).putNamed (.text "revoke") (.plain revoke)
      pure (.object r)])

end Library

end Engine

end NotebookEngine
