/-
**Reading JSON text: positions, faults and the reader monad.**

A reader consumes characters and may fail with a fault.  A fault of the text carries the position where
it was noticed; a fault of a value (a field that is missing, a wrong kind of value) is first raised
without one and gets the position of the reader when the enclosing value ends.  Lines count from one,
columns count bytes.

Main definitions:

* `Json.Cursor` — what is left to read, and where;
* `Json.Cause`, `Json.Cause.message` — the reasons a document is refused, and their texts;
* `Json.Fault`, `Json.Fault.message` — a cause with its position;
* `Json.Reader` — readers, and the primitive ones: `peek`, `skip`, `skipGaps`, `failHere`,
  `failNext`.
-/

import NotebookEngine.Json.Value
import NotebookEngine.Decimal.Layout
import NotebookEngine.Text.Quoted

set_option autoImplicit false

namespace NotebookEngine

namespace Json

/-! ### Positions -/

/-- A place in a document: what is left, and the line and column reached. -/
structure Cursor where
  rest : List Char
  line : Nat
  column : Nat

/-- The start of a document. -/
def Cursor.start (s : String) : Cursor := ⟨s.toList, 1, 0⟩

/-- The line and column after the given number of bytes, which may end inside a character. -/
def positionAfter : Nat → List Char → Nat → Nat → Nat × Nat
  | _, [], line, column => (line, column)
  | bytes, c :: cs, line, column =>
    if bytes = 0 then (line, column)
    else if c = '\n' then positionAfter (bytes - 1) cs (line + 1) 0
    else if bytes ≤ c.utf8Size then (line, column + bytes)
    else positionAfter (bytes - c.utf8Size) cs line (column + c.utf8Size)

/-- The place after one more character. -/
def Cursor.step (k : Cursor) : Cursor :=
  match k.rest with
  | [] => k
  | c :: cs => if c = '\n' then ⟨cs, k.line + 1, 0⟩ else ⟨cs, k.line, k.column + c.utf8Size⟩

/-! ### Faults -/

/-- A kind of value that was met where another was expected. -/
inductive Met where
  | unit
  | bool (b : Bool)
  | int (n : Int)
  | float (x : Float)
  | str (s : String)
  | sequence
  | map

/-- How the value that was met is named. -/
def Met.name : Met → String
  | .unit => "null"
  | .bool b => "boolean `" ++ (if b then "true" else "false") ++ "`"
  | .int n => "integer `" ++ toString n ++ "`"
  | .float x => "floating point `" ++ Decimal.Layout.json.write x ++ "`"
  | .str s => "string " ++ Text.quoted s
  | .sequence => "sequence"
  | .map => "map"

/-- The reasons a document is refused. -/
inductive Cause where
  | endInList
  | endInObject
  | endInString
  | endInValue
  | expectedColon
  | expectedListCommaOrEnd
  | expectedObjectCommaOrEnd
  | expectedIdent
  | expectedValue
  | invalidEscape
  | invalidNumber
  | numberOutOfRange
  | controlCharacter
  | keyMustBeString
  | loneSurrogate
  | trailingComma
  | trailingCharacters
  | endOfHexEscape
  | recursionLimit
  | invalidType (met : Met) (expected : String)
  | invalidValue (met : Met) (expected : String)
  | invalidLength (length : Nat) (expected : String)
  | unknownVariant (met expected : String)
  | missingField (name : String)
  | duplicateField (name : String)

/-- The text of a cause. -/
def Cause.message : Cause → String
  | .endInList => "EOF while parsing a list"
  | .endInObject => "EOF while parsing an object"
  | .endInString => "EOF while parsing a string"
  | .endInValue => "EOF while parsing a value"
  | .expectedColon => "expected `:`"
  | .expectedListCommaOrEnd => "expected `,` or `]`"
  | .expectedObjectCommaOrEnd => "expected `,` or `\x7d`"
  | .expectedIdent => "expected ident"
  | .expectedValue => "expected value"
  | .invalidEscape => "invalid escape"
  | .invalidNumber => "invalid number"
  | .numberOutOfRange => "number out of range"
  | .controlCharacter => "control character (\\u0000-\\u001F) found while parsing a string"
  | .keyMustBeString => "key must be a string"
  | .loneSurrogate => "lone leading surrogate in hex escape"
  | .trailingComma => "trailing comma"
  | .trailingCharacters => "trailing characters"
  | .endOfHexEscape => "unexpected end of hex escape"
  | .recursionLimit => "recursion limit exceeded"
  | .invalidType met expected => "invalid type: " ++ met.name ++ ", expected " ++ expected
  | .invalidValue met expected => "invalid value: " ++ met.name ++ ", expected " ++ expected
  | .invalidLength n expected => "invalid length " ++ toString n ++ ", expected " ++ expected
  | .unknownVariant met expected => "unknown variant `" ++ met ++ "`, expected " ++ expected
  | .missingField name => "missing field `" ++ name ++ "`"
  | .duplicateField name => "duplicate field `" ++ name ++ "`"

/-- A cause, and where it was noticed once that is known. -/
structure Fault where
  cause : Cause
  position : Option (Nat × Nat)

/-- The text of a fault. -/
def Fault.message (f : Fault) : String :=
  match f.position with
  | none => f.cause.message
  | some (line, column) =>
    f.cause.message ++ " at line " ++ toString line ++ " column " ++ toString column

/-! ### Readers -/

/-- A reader of `α`: it moves the cursor also when it fails. -/
abbrev Reader (α : Type) := ExceptT Fault (StateM Cursor) α

namespace Reader

/-- Fail at the place reached. -/
def failHere {α : Type} (cause : Cause) : Reader α := do
  let k ← get
  throw ⟨cause, some (k.line, k.column)⟩

/-- Fail the given number of bytes further on, or at the end if there are fewer. -/
def failAfter {α : Type} (bytes : Nat) (cause : Cause) : Reader α := do
  let k ← get
  throw ⟨cause, some (positionAfter bytes k.rest k.line k.column)⟩

/-- Fail just after the next byte, or at the end if there is none. -/
def failNext {α : Type} (cause : Cause) : Reader α := failAfter 1 cause

/-- Fail with the position to be filled in by the enclosing value. -/
def failLater {α : Type} (cause : Cause) : Reader α := throw ⟨cause, none⟩

/-- The next character, without consuming it. -/
def peek : Reader (Option Char) := do return (← get).rest.head?

/-- Consume a character. -/
def skip : Reader Unit := modify Cursor.step

/-- The characters that may stand between tokens. -/
def isGap (c : Char) : Bool := c = ' ' || c = '\n' || c = '\t' || c = '\r'

/-- The place after the longest run of gaps. -/
def dropGaps : List Char → Nat → Nat → Cursor
  | [], line, column => ⟨[], line, column⟩
  | c :: cs, line, column =>
    if c = '\n' then dropGaps cs (line + 1) 0
    else if isGap c then dropGaps cs line (column + 1)
    else ⟨c :: cs, line, column⟩

/-- Consume gaps; the character after them. -/
def skipGaps : Reader (Option Char) := do
  modify fun k => dropGaps k.rest k.line k.column
  peek

/-- Run a reader and give a fault without a position the place reached. -/
def located {α : Type} (r : Reader α) : Reader α := fun k =>
  match r k with
  | (.error ⟨cause, none⟩, k) => (.error ⟨cause, some (k.line, k.column)⟩, k)
  | result => result

/-- Run both readers whatever the first does; a fault of the first comes first. -/
def thenClose {α : Type} (r : Reader α) (close : Reader Unit) : Reader α := fun k =>
  match r k with
  | (.ok a, k) => (do close; return a : Reader α) k
  | (.error f, k) =>
    match close k with
    | (_, k) => (.error f, k)

/-- The number of characters left, which bounds every loop over them. -/
def fuel : Reader Nat := do return (← get).rest.length + 1

/-- Run a reader on a whole document. -/
def run {α : Type} (r : Reader α) (s : String) : Except Fault α :=
  (r (Cursor.start s)).1

end Reader

end Json

end NotebookEngine
