/-
**Reading JSON values.**

Main definitions:

* `Json.Reader.string`, `Json.Reader.number` — the scalar tokens;
* `Json.Reader.value` — a value, nested at most 127 deep;
* `Json.Reader.skipValue` — a value that is checked but not kept, of any depth;
* `Json.Reader.wholeDocument` — a reader followed by nothing but gaps;
* `Json.parse` — the value of a document.
-/

import NotebookEngine.Json.Cursor

set_option autoImplicit false

namespace NotebookEngine

namespace Json

namespace Reader

/-! ### Strings -/

/-- The value of a hexadecimal digit. -/
def hexValue (c : Char) : Option Nat :=
  let n := c.toNat
  if 48 ≤ n ∧ n ≤ 57 then some (n - 48)
  else if 97 ≤ n ∧ n ≤ 102 then some (n - 87)
  else if 65 ≤ n ∧ n ≤ 70 then some (n - 55)
  else none

/-- Consume the given number of characters. -/
def skipMany : Nat → Reader Unit
  | 0 => pure ()
  | n + 1 => do skip; skipMany n

/-- The four hexadecimal digits of an escape. -/
def hexEscape : Reader Nat := do
  let rest := (← get).rest
  match (rest.take 4).map hexValue with
  | [some a, some b, some c, some d] =>
    skipMany 4
    return ((a * 16 + b) * 16 + c) * 16 + d
  | _ =>
    let bytes : Nat := (rest.take 4).foldl (fun n c => n + c.utf8Size) 0
    failAfter 4 (if bytes < 4 then .endInString else .invalidEscape)

/-- Consume one required character of a surrogate pair. -/
def pairMark (c : Char) : Reader Unit := do
  match ← peek with
  | none => failHere .endInString
  | some d => if d = c then skip else failNext .endOfHexEscape

/-- The character of a `u` escape; surrogates come in pairs. -/
def unicodeEscape : Reader Char := do
  let n ← hexEscape
  if 0xDC00 ≤ n ∧ n ≤ 0xDFFF then failHere .loneSurrogate
  else if n < 0xD800 ∨ 0xDBFF < n then return Char.ofNat n
  else
    pairMark '\\'
    pairMark 'u'
    let m ← hexEscape
    if m < 0xDC00 ∨ 0xDFFF < m then failHere .loneSurrogate
    else return Char.ofNat ((n - 0xD800) * 0x400 + (m - 0xDC00) + 0x10000)

/-- The character of an escape whose backslash is consumed. -/
def escape : Reader Char := do
  match ← peek with
  | none => failHere .endInString
  | some '"' => do skip; return '"'
  | some '\\' => do skip; return '\\'
  | some '/' => do skip; return '/'
  | some 'b' => do skip; return '\x08'
  | some 'f' => do skip; return '\x0c'
  | some 'n' => do skip; return '\n'
  | some 'r' => do skip; return '\r'
  | some 't' => do skip; return '\t'
  | some 'u' => do skip; unicodeEscape
  | some _ => failNext .invalidEscape

/-- The rest of a string whose opening mark is consumed, its characters reversed before `acc`. -/
def stringChars : Nat → List Char → Reader String
  | 0, _ => failHere .endInString
  | n + 1, acc => do
    match ← peek with
    | none => failHere .endInString
    | some '"' => do skip; return String.ofList acc.reverse
    | some '\\' => do
      skip
      let c ← escape
      stringChars n (c :: acc)
    | some c =>
      skip
      if c.toNat < 32 then failHere .controlCharacter else stringChars n (c :: acc)

/-- The rest of a string whose opening mark is consumed. -/
def string : Reader String := do stringChars (← fuel) []

/-! ### Numbers -/

/-- A number as a document writes it. -/
inductive Number where
  | int (n : Int)
  | float (x : Float)

/-- The value of a decimal digit. -/
def digitValue (c : Char) : Option Nat :=
  if '0' ≤ c ∧ c ≤ '9' then some (c.toNat - 48) else none

/-- The next character if it is a digit. -/
def peekDigit : Reader (Option Nat) := do return (← peek).bind digitValue

/-- The power of ten as a float. -/
def powerOfTen (n : Nat) : Float := Float.ofScientific 1 false n

/-- The float `significand * 10 ^ exponent`, by one multiplication or division. -/
def scaleFloat (positive : Bool) (significand : Nat) (exponent : Int) : Reader Float := do
  let signed (x : Float) : Float := if positive then x else -x
  let f := significand.toUInt64.toFloat
  let rec go : Nat → Float → Int → Reader Float
    | 0, f, _ => return signed f
    | n + 1, f, e =>
      if e.natAbs ≤ 308 then
        if e ≥ 0 then
          let g := f * powerOfTen e.natAbs
          if g.isFinite then return signed g else failHere .numberOutOfRange
        else return signed (f / powerOfTen e.natAbs)
      else if f == 0 then return signed f
      else if e ≥ 0 then failHere .numberOutOfRange
      else go n (f / powerOfTen 308) (e + 308)
  go 10 f exponent

/-- The largest significand that is kept. -/
def maxSignificand : Nat := Nat.pow 2 64 - 1

/-- Consume digits. -/
def skipDigits : Nat → Reader Unit
  | 0 => pure ()
  | n + 1 => do
    match ← peekDigit with
    | some _ => do skip; skipDigits n
    | none => pure ()

/-- The digits of an exponent, capped well beyond the range of floats. -/
def exponentDigits : Nat → Nat → Reader Nat
  | 0, e => return e
  | n + 1, e => do
    match ← peekDigit with
    | some d => do skip; exponentDigits n (min (e * 10 + d) 1000000)
    | none => return e

/-- The exponent part at the cursor, and the float it scales. -/
def exponentPart (positive : Bool) (significand : Nat) (exponent : Int) : Reader Float := do
  skip
  let sign ← peek
  let up := sign ≠ some '-'
  if sign = some '+' ∨ sign = some '-' then skip
  match ← peek with
  | none => failHere .endInValue
  | some c =>
    match digitValue c with
    | none => failNext .invalidNumber
    | some d =>
      skip
      let e ← exponentDigits (← fuel) d
      if e ≥ 1000000 then
        if significand = 0 ∨ !up then return if positive then 0 else -0.0
        else failHere .numberOutOfRange
      else scaleFloat positive significand (if up then exponent + e else exponent - e)

/-- The digits after the point, added to the significand while they fit. -/
def fractionDigits : Nat → Bool → Nat → Int → Reader (Nat × Int × Bool)
  | 0, some?, m, e => return (m, e, some?)
  | n + 1, some?, m, e => do
    match ← peekDigit with
    | none => return (m, e, some?)
    | some d =>
      if m * 10 + d > maxSignificand then
        skipDigits (← fuel)
        return (m, e, true)
      else
        skip
        fractionDigits n true (m * 10 + d) (e - 1)

/-- The fraction at the cursor, and the float it ends. -/
def fractionPart (positive : Bool) (significand : Nat) (exponent : Int) : Reader Float := do
  skip
  let (m, e, found) ← fractionDigits (← fuel) false significand exponent
  if !found then
    match ← peek with
    | none => failNext .endInValue
    | some _ => failNext .invalidNumber
  else
    match ← peek with
    | some 'e' | some 'E' => exponentPart positive m e
    | _ => scaleFloat positive m e

/-- A number whose integer digits are consumed. -/
def afterInteger (positive : Bool) (significand : Nat) : Reader Number := do
  match ← peek with
  | some '.' => return .float (← fractionPart positive significand 0)
  | some 'e' | some 'E' => return .float (← exponentPart positive significand 0)
  | _ =>
    if positive then return .int significand
    else if significand = 0 ∨ significand > Nat.pow 2 63 then
      return .float (-significand.toUInt64.toFloat)
    else return .int (-(significand : Int))

/-- Integer digits beyond the largest significand only raise the exponent. -/
def longInteger : Nat → Nat → Reader Nat
  | 0, e => return e
  | n + 1, e => do
    match ← peekDigit with
    | some _ => do skip; longInteger n (e + 1)
    | none => return e

/-- Integer digits, added to the significand while they fit. -/
def integerDigits (positive : Bool) : Nat → Nat → Reader Number
  | 0, m => afterInteger positive m
  | n + 1, m => do
    match ← peekDigit with
    | none => afterInteger positive m
    | some d =>
      if m * 10 + d > maxSignificand then
        let e ← longInteger (← fuel) 0
        match ← peek with
        | some '.' => return .float (← fractionPart positive m e)
        | some 'e' | some 'E' => return .float (← exponentPart positive m e)
        | _ => return .float (← scaleFloat positive m e)
      else
        skip
        integerDigits positive n (m * 10 + d)

/-- A number whose sign is consumed. -/
def number (positive : Bool) : Reader Number := do
  match ← peek with
  | none => failHere .endInValue
  | some '0' =>
    skip
    match ← peekDigit with
    | some _ => failNext .invalidNumber
    | none => afterInteger positive 0
  | some c =>
    match digitValue c with
    | some d => do skip; integerDigits positive (← fuel) d
    | none => failNext .invalidNumber

/-- The value that a number is. -/
def Number.toJson : Number → Json
  | .int n => .int n
  | .float x => .float x

/-- How a number is named when it was not expected. -/
def Number.met : Number → Met
  | .int n => .int n
  | .float x => .float x

/-! ### Structure -/

/-- Consume the characters of a keyword. -/
def keyword : List Char → Reader Unit
  | [] => pure ()
  | c :: cs => do
    match ← peek with
    | none => failHere .endInValue
    | some d => if c = d then do skip; keyword cs else failNext .expectedIdent

/-- Whether a list has a further item; `first` if none was read. -/
def moreItems (first : Bool) : Reader Bool := do
  match ← skipGaps with
  | none => failNext .endInList
  | some ']' => return false
  | some c =>
    if first then return true
    else if c = ',' then
      skip
      match ← skipGaps with
      | some ']' => failNext .trailingComma
      | some _ => return true
      | none => failNext .endInValue
    else failNext .expectedListCommaOrEnd

/-- The end of a list. -/
def endOfList : Reader Unit := do
  match ← skipGaps with
  | some ']' => skip
  | some ',' =>
    skip
    match ← skipGaps with
    | some ']' => failNext .trailingComma
    | _ => failNext .trailingCharacters
  | some _ => failNext .trailingCharacters
  | none => failNext .endInList

/-- Whether an object has a further field; `first` if none was read. -/
def moreFields (first : Bool) : Reader Bool := do
  match ← skipGaps with
  | none => failNext .endInObject
  | some '\x7d' => return false
  | some c =>
    if first then if c = '"' then return true else failNext .keyMustBeString
    else if c = ',' then
      skip
      match ← skipGaps with
      | some '"' => return true
      | some '\x7d' => failNext .trailingComma
      | some _ => failNext .keyMustBeString
      | none => failNext .endInValue
    else failNext .expectedObjectCommaOrEnd

/-- The name of a field, whose opening mark is next. -/
def fieldName : Reader String := do skip; string

/-- The colon after a name. -/
def colon : Reader Unit := do
  match ← skipGaps with
  | some ':' => skip
  | some _ => failNext .expectedColon
  | none => failNext .endInObject

/-- The end of an object. -/
def endOfObject : Reader Unit := do
  match ← skipGaps with
  | some '\x7d' => skip
  | some ',' => failNext .trailingComma
  | some _ => failNext .trailingCharacters
  | none => failNext .endInObject

/-! ### Values -/

/-- What a bracketed reader needs. The depth that is left includes the bracket itself. -/
def bracketed {α : Type} (depth : Nat) (body : Reader α) (close : Reader Unit) : Reader α := do
  if depth ≤ 1 then failNext .recursionLimit
  else
    skip
    thenClose body close

mutual

/-- A value, with `depth` levels of brackets left; the first argument bounds the steps. -/
def valueAt : Nat → Nat → Reader Json
  | 0, _ => failHere .recursionLimit
  | n + 1, depth => do
    match ← skipGaps with
    | none => failNext .endInValue
    | some 'n' => do skip; keyword ['u', 'l', 'l']; return .null
    | some 't' => do skip; keyword ['r', 'u', 'e']; return .bool true
    | some 'f' => do skip; keyword ['a', 'l', 's', 'e']; return .bool false
    | some '-' => do skip; return (← number false).toJson
    | some '"' => do skip; return .str (← string)
    | some '[' => bracketed depth (return .arr (← itemsAt n (depth - 1) true)) endOfList
    | some '\x7b' => bracketed depth (return .obj (← fieldsAt n (depth - 1) true [])) endOfObject
    | some c =>
      if (digitValue c).isSome then return (← number true).toJson else failNext .expectedValue

/-- The items of a list up to its end. -/
def itemsAt : Nat → Nat → Bool → Reader (List Json)
  | 0, _, _ => failHere .recursionLimit
  | n + 1, depth, first => do
    if ← moreItems first then
      let v ← valueAt n depth
      return v :: (← itemsAt n depth false)
    else return []

/-- The fields of an object up to its end, after those in `acc`. -/
def fieldsAt : Nat → Nat → Bool → List (String × Json) → Reader (List (String × Json))
  | 0, _, _, _ => failHere .recursionLimit
  | n + 1, depth, first, acc => do
    if ← moreFields first then
      let k ← fieldName
      colon
      let v ← valueAt n depth
      fieldsAt n depth false (put k v acc)
    else return acc

end

/-- The levels of brackets that a value may have, and one more. -/
def depthLimit : Nat := 128

/-- A value. -/
def value : Reader Json := do valueAt (2 * (← fuel)) depthLimit

/-! ### Values that are not kept -/

/-- A number that is not kept: its size does not matter. -/
def skipNumber : Reader Unit := do
  match ← peek with
  | some '0' =>
    skip
    if (← peekDigit).isSome then failNext .invalidNumber
  | some c => if (digitValue c).isSome then skipDigits (← fuel) else failNext .invalidNumber
  | none => failHere .invalidNumber
  if (← peek) = some '.' then
    skip
    if (← peekDigit).isNone then failNext .invalidNumber
    skipDigits (← fuel)
  if (← peek) = some 'e' ∨ (← peek) = some 'E' then
    skip
    if (← peek) = some '+' ∨ (← peek) = some '-' then skip
    if (← peekDigit).isNone then failNext .invalidNumber
    skipDigits (← fuel)

mutual

/-- A value that is checked but not kept. -/
def skipAt : Nat → Reader Unit
  | 0 => failHere .recursionLimit
  | n + 1 => do
    match ← skipGaps with
    | none => failNext .endInValue
    | some 'n' => do skip; keyword ['u', 'l', 'l']
    | some 't' => do skip; keyword ['r', 'u', 'e']
    | some 'f' => do skip; keyword ['a', 'l', 's', 'e']
    | some '-' => do skip; skipNumber
    | some '"' => do skip; let _ ← string
    | some '[' => do skip; skipItems n true
    | some '\x7b' => do skip; skipFields n true
    | some c => if (digitValue c).isSome then skipNumber else failNext .expectedValue

/-- The items of a list that is not kept, through its end. -/
def skipItems : Nat → Bool → Reader Unit
  | 0, _ => failHere .recursionLimit
  | n + 1, first => do
    match ← skipGaps with
    | none => failNext .endInList
    | some ']' => skip
    | some ',' =>
      if first then failNext .expectedValue
      else do skip; skipAt n; skipItems n false
    | some _ =>
      if first then do skipAt n; skipItems n false
      else failNext .expectedListCommaOrEnd

/-- The fields of an object that is not kept, through its end. -/
def skipFields : Nat → Bool → Reader Unit
  | 0, _ => failHere .recursionLimit
  | n + 1, first => do
    match ← skipGaps with
    | none => failNext .endInObject
    | some '\x7d' => skip
    | some ',' =>
      if first then failNext .keyMustBeString
      else do skip; skipField n; skipFields n false
    | some _ =>
      if first then do skipField n; skipFields n false
      else failNext .expectedObjectCommaOrEnd

/-- A field that is not kept. -/
def skipField : Nat → Reader Unit
  | 0 => failHere .recursionLimit
  | n + 1 => do
    match ← skipGaps with
    | some '"' => do
      let _ ← fieldName
      colon
      skipAt n
    | some _ => failNext .keyMustBeString
    | none => failNext .endInObject

end

/-- A value that is checked but not kept. -/
def skipValue : Reader Unit := do skipAt (3 * (← fuel))

/-! ### Documents -/

/-- A reader followed by nothing but gaps. -/
def wholeDocument {α : Type} (r : Reader α) : Reader α := do
  let a ← r
  match ← skipGaps with
  | some _ => failNext .trailingCharacters
  | none => return a

end Reader

/-- The value of a document. -/
def parse (s : String) : Except Fault Json := Reader.run (Reader.wholeDocument Reader.value) s

end Json

end NotebookEngine
