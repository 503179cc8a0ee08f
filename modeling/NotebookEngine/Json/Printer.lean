/-
**Printing JSON.**

Two layouts: compact, with no blank between tokens, and indented, with one field or item a line and two
spaces a level.  Both write strings and numbers the same way.

Main definitions:

* `Json.quoteChars`, `Json.quote` — a string between quotation marks;
* `Json.compact` — the compact text of a value;
* `Json.pretty` — the indented text of a value.
-/

import NotebookEngine.Json.Value
import NotebookEngine.Decimal.Layout

set_option autoImplicit false

namespace NotebookEngine

namespace Json

/-! ### Strings -/

/-- A lowercase hexadecimal digit. -/
def hexDigit (n : Nat) : Char := Nat.digitChar n

/-- The characters that stand for a character inside a string. -/
def escapeChar (c : Char) : List Char :=
  match c with
  | '"' => ['\\', '"']
  | '\\' => ['\\', '\\']
  | '\n' => ['\\', 'n']
  | '\r' => ['\\', 'r']
  | '\t' => ['\\', 't']
  | c =>
    if c.toNat = 8 then ['\\', 'b']
    else if c.toNat = 12 then ['\\', 'f']
    else if c.toNat < 32 then
      ['\\', 'u', '0', '0', hexDigit (c.toNat / 16), hexDigit (c.toNat % 16)]
    else [c]

/-- The text between quotation marks. -/
def quoteChars (cs : List Char) : List Char := '"' :: (cs.flatMap escapeChar ++ ['"'])

/-- The string as a literal of the document. -/
def quote (s : String) : String := String.ofList (quoteChars s.toList)

/-! ### Numbers -/

/-- The text of a float; JSON has no text for those that are not finite. -/
def writeFloat (x : Float) : String :=
  if x.isFinite then Decimal.Layout.json.write x else "null"

/-! ### Values -/

mutual

/-- The text without blanks. -/
def compact : Json → String
  | .null => "null"
  | .bool b => if b then "true" else "false"
  | .int n => toString n
  | .float x => writeFloat x
  | .str s => quote s
  | .arr items => "[" ++ ",".intercalate (compactItems items) ++ "]"
  | .obj fields => "\x7b" ++ ",".intercalate (compactFields fields) ++ "\x7d"

/-- The texts of items. -/
def compactItems : List Json → List String
  | [] => []
  | v :: vs => compact v :: compactItems vs

/-- The texts of fields. -/
def compactFields : List (String × Json) → List String
  | [] => []
  | (k, v) :: rest => (quote k ++ ":" ++ compact v) :: compactFields rest

end

/-- The blanks that start a line of the given depth. -/
def indentation (depth : Nat) : String := String.ofList (List.replicate (2 * depth) ' ')

/-- A bracketed block with one entry a line, or the bare brackets if there is none. -/
def block (opening closing : String) (depth : Nat) (entries : List String) : String :=
  if entries.isEmpty then opening ++ closing
  else
    let inner := "\n" ++ indentation (depth + 1)
    opening ++ inner ++ ("," ++ inner).intercalate entries ++ "\n" ++ indentation depth ++ closing

mutual

/-- The indented text of a value that starts at the given depth. -/
def prettyAt (depth : Nat) : Json → String
  | .arr items => block "[" "]" depth (prettyItems (depth + 1) items)
  | .obj fields => block "\x7b" "\x7d" depth (prettyFields (depth + 1) fields)
  | v => compact v

/-- The indented texts of items. -/
def prettyItems (depth : Nat) : List Json → List String
  | [] => []
  | v :: vs => prettyAt depth v :: prettyItems depth vs

/-- The indented texts of fields. -/
def prettyFields (depth : Nat) : List (String × Json) → List String
  | [] => []
  | (k, v) :: rest => (quote k ++ ": " ++ prettyAt depth v) :: prettyFields depth rest

end

/-- The indented text of a value. -/
def pretty (v : Json) : String := prettyAt 0 v

end Json

end NotebookEngine
