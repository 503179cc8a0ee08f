/-
**JSON of the library.**

Main definitions:

* `Library.readJson` — the data that a text writes;
* `Library.writeJson` — the text of a value;
* `Library.json` — both as functions.
-/

import NotebookEngine.Engine.Library.Objects
import NotebookEngine.Json.Printer
import NotebookEngine.Script.Literal

set_option autoImplicit false

namespace NotebookEngine

namespace Engine

namespace Library

open Act

/-! ### Reading -/

/-- Data without any identity. -/
inductive Data where
  | null
  | bool (b : Bool)
  | number (x : Float)
  | string (s : String)
  | list (items : List Data)
  | record (fields : List (String × Data))
  deriving Inhabited

/-- Why a text is no data, and the byte at which that shows, if it is told. -/
structure DataFault where
  message : String
  place? : Option Nat
  deriving Inhabited

/-- What a token of data is. -/
inductive DataKind where
  | stop
  | sign (c : Char)
  | word (name : String)
  | number (x : Float)
  | string (s : String)
  deriving Inhabited

/-- A token of data, as it is written and the byte at which it starts. -/
structure DataToken where
  kind : DataKind
  text : List Char
  place : Nat
  deriving Inhabited

/-- The next token and the text after it, with the byte at which that starts. -/
structure DataText where
  token : DataToken
  rest : List Char
  place : Nat
  deriving Inhabited

/-- The number of bytes of a character. -/
def byteWidth (c : Char) : Nat := if (Script.halfUnit? c).isSome then 3 else c.utf8Size

/-- The number of bytes of some characters. -/
def byteCount (cs : List Char) : Nat := cs.foldl (fun n c => n + byteWidth c) 0

/-- A fault at a byte. -/
def faultAt {α : Type} (message : String) (place : Nat) : Except DataFault α :=
  .error ⟨message, some place⟩

/-- The fault of a text that ends too early. -/
def endFault : DataFault := ⟨"Unexpected end of JSON input", none⟩

/-- The characters of a text whose opening quote has been taken, and what follows the closing one, given
the characters before, the last first. -/
def dataChars (place : Nat) (acc : List Char) : List Char → Except DataFault (String × List Char)
  | [] => .error endFault
  | '"' :: rest => .ok (String.ofList (Script.joinHalves acc.reverse), rest)
  | '\\' :: 'u' :: a :: b :: c :: d :: rest =>
    match Script.hexValue? [a], Script.hexValue? [b], Script.hexValue? [c], Script.hexValue? [d] with
    | some a, some b, some c, some d =>
      dataChars (place + 6) (Script.charOfCode (((a * 16 + b) * 16 + c) * 16 + d) :: acc) rest
    | some _, some _, some _, none => faultAt "Bad Unicode escape" (place + 5)
    | some _, some _, none, _ => faultAt "Bad Unicode escape" (place + 4)
    | some _, none, _, _ => faultAt "Bad Unicode escape" (place + 3)
    | none, _, _, _ => faultAt "Bad Unicode escape" (place + 2)
  | '\\' :: 'u' :: rest =>
    faultAt "Bad Unicode escape"
      (place + 2 + (rest.takeWhile fun c => (Script.hexValue? [c]).isSome).length)
  | '\\' :: c :: rest =>
    let simple (d : Char) := dataChars (place + 2) (d :: acc) rest
    match c with
    | '"' | '\\' | '/' => simple c
    | 'b' => simple (Char.ofNat 8)
    | 'f' => simple (Char.ofNat 12)
    | 'n' => simple '\n'
    | 'r' => simple '\r'
    | 't' => simple '\t'
    | _ => faultAt "Bad escaped character" (place + 1)
  | ['\\'] => .error endFault
  | c :: rest =>
    if c.toNat < 32 then faultAt "Bad control character in string literal" place
    else dataChars (place + byteWidth c) (c :: acc) rest

/-- The number of characters of the number that a text starts with. -/
def numberLength (cs : List Char) (place : Nat) : Except DataFault Nat := do
  let sign := if cs.head? = some '-' then 1 else 0
  let digitsFrom (n : Nat) : Nat := ((cs.drop n).takeWhile Char.isDigit).length
  let whole := digitsFrom sign
  if whole = 0 then faultAt "No number after minus sign" place
  if whole > 1 && cs[sign]? = some '0' then faultAt "Unexpected number" (place + sign)
  let used ← if cs[sign + whole]? = some '.' then
      let start := sign + whole + 1
      if digitsFrom start = 0 then faultAt "Unterminated fractional number" (place + start)
      pure (start + digitsFrom start)
    else pure (sign + whole)
  if cs[used]? = some 'e' || cs[used]? = some 'E' then
    let start := if cs[used + 1]? = some '+' || cs[used + 1]? = some '-' then used + 2 else used + 1
    if digitsFrom start = 0 then faultAt "Exponent part is missing a number" (place + start)
    pure (start + digitsFrom start)
  else pure used

/-- The token that a text starts with, which is no blank. -/
def dataToken (place : Nat) (cs : List Char) : Except DataFault DataText := do
  let take (kind : DataKind) (n : Nat) : DataText :=
    ⟨⟨kind, cs.take n, place⟩, cs.drop n, place + byteCount (cs.take n)⟩
  match cs with
  | [] => pure (take .stop 0)
  | '"' :: rest =>
    let (s, after) ← dataChars (place + 1) [] rest
    pure (take (.string s) (cs.length - after.length))
  | c :: _ =>
    if c = '-' || c.isDigit then
      let n ← numberLength cs place
      pure (take (.number ((Numeral.decimalStart (cs.take n)).elim 0 Prod.fst)) n)
    else if c.isAlpha || c = '_' || c = '$' then
      let name := cs.takeWhile fun c => c.isAlphanum || c = '_' || c = '$'
      pure (take (.word (String.ofList name)) name.length)
    else if c.toNat ≥ 128 then
      let unit := (Script.unitsOfChar c).headD 0
      let digits := String.ofList (Script.hexPair (unit / 256) ++ Script.hexPair (unit % 256))
      .error ⟨"Unexpected token '\\u" ++ digits ++ "' in JSON", none⟩
    else pure (take (.sign c) 1)

/-- The next token after the blanks that come first. -/
def nextToken (place : Nat) (cs : List Char) : Except DataFault DataText :=
  let gaps := cs.takeWhile fun c => c = ' ' || c = '\n' || c = '\t' || c = '\r'
  dataToken (place + gaps.length) (cs.drop gaps.length)

/-- A reader of data. -/
abbrev DataReader := StateT DataText (Except DataFault)

/-- The next token, which stays the next. -/
def peekData : DataReader DataToken := do
  let t : DataText ← MonadStateOf.get
  pure t.token

/-- Go on to the token after the next. -/
def advanceData : DataReader Unit := do
  let t : DataText ← MonadStateOf.get
  let next ← (nextToken t.place t.rest : Except DataFault DataText)
  MonadStateOf.set next

/-- Fail at the next token. -/
def failData {α : Type} (message : String) : DataReader α := do
  throw ⟨message, some (← peekData).place⟩

/-- Fail because of the next token. -/
def unexpectedData {α : Type} : DataReader α := do
  let t ← peekData
  match t.kind with
  | .stop => throw endFault
  | _ => throw ⟨"unexpected token: '" ++ String.ofList (t.text.takeWhile fun c => c.toNat ≠ 0) ++ "'",
      none⟩

/-- Whether the next token is a sign. -/
def isSign (c : Char) : DataReader Bool := do
  match (← peekData).kind with
  | .sign d => pure (c = d)
  | _ => pure false

mutual

/-- A value. -/
def dataValue : Nat → DataReader Data
  | 0 => throw endFault
  | fuel + 1 => do
    match (← peekData).kind with
    | .sign '\x7b' =>
      advanceData
      if ← isSign '\x7d' then
        advanceData
        pure (.record [])
      else dataFields fuel []
    | .sign '[' =>
      advanceData
      if ← isSign ']' then
        advanceData
        pure (.list [])
      else dataItems fuel []
    | .string s => do
      advanceData
      pure (.string s)
    | .number x => do
      advanceData
      pure (.number x)
    | .word "true" => do
      advanceData
      pure (.bool true)
    | .word "false" => do
      advanceData
      pure (.bool false)
    | .word "null" => do
      advanceData
      pure .null
    | _ => unexpectedData

/-- The items of a list, up to its end. -/
def dataItems : Nat → List Data → DataReader Data
  | 0, _ => throw endFault
  | fuel + 1, acc => do
    let v ← dataValue fuel
    if ← isSign ']' then
      advanceData
      pure (.list (v :: acc).reverse)
    else if ← isSign ',' then
      advanceData
      dataItems fuel (v :: acc)
    else failData "Expected ',' or ']' after array element"

/-- The fields of a record, up to its end. -/
def dataFields : Nat → List (String × Data) → DataReader Data
  | 0, _ => throw endFault
  | fuel + 1, acc => do
    match (← peekData).kind with
    | .string name =>
      advanceData
      if !(← isSign ':') then failData "Expected ':' after property name"
      advanceData
      let v ← dataValue fuel
      if ← isSign '\x7d' then
        advanceData
        pure (.record ((name, v) :: acc).reverse)
      else if ← isSign ',' then
        advanceData
        dataFields fuel ((name, v) :: acc)
      else failData "Expected ',' or '\x7d' after property value"
    | _ => failData "Expected property name or '\x7d'"

end

/-- The line and column that are told of a byte, given the bytes from some byte on and the line and the
start of the line there. The byte after a line end is not looked at. -/
def linePlace (goal : Nat) (line start place : Nat) : List UInt8 → Nat × Nat
  | 13 :: 10 :: _ :: rest =>
    if place < goal then linePlace goal (line + 1) (place + 2) (place + 3) rest
    else (line, place - start + 1)
  | b :: c :: rest =>
    if goal ≤ place then (line, place - start + 1)
    else if b = 10 || b = 13 then linePlace goal (line + 1) (place + 1) (place + 2) rest
    else linePlace goal line start (place + 1) (c :: rest)
  | _ => (line, place - start + 1)

/-- The data that a whole text writes. -/
def readJson (s : String) : Except String Data :=
  let chars := s.toList
  let data : Except DataFault Data := do
    let (v, t) ← (dataValue (2 * chars.length + 4)).run (← nextToken 0 chars)
    match t.token.kind with
    | .stop => pure v
    | _ => .error ⟨"unexpected data at the end", none⟩
  match data with
  | .ok v => .ok v
  | .error ⟨message, none⟩ => .error message
  | .error ⟨message, some place⟩ =>
    let bytes := chars.flatMap fun c =>
      if (Script.halfUnit? c).isSome then [0xED, 0xA0, 0x80] else c.toString.toUTF8.toList
    let (line, column) := linePlace place 1 0 0 (bytes ++ [0, 0])
    .error (message ++ " in JSON at position " ++ toString place ++ " (line " ++
      toString line ++ " column " ++ toString column ++ ")")

mutual

/-- Data as a value. -/
def dataToValue : Data → Act Value
  | .null => pure .null
  | .bool b => pure (.bool b)
  | .number x => pure (.number x)
  | .string s => pure (.string s)
  | .list items => do newArray (← dataToValues items)
  | .record fields => do
    let r ← newPlain
    dataToFields r fields
    pure (.object r)

/-- Data as values. -/
def dataToValues : List Data → Act (List Value)
  | [] => pure []
  | d :: ds => do
    let v ← dataToValue d
    pure (v :: (← dataToValues ds))

/-- Data as the properties of an object. -/
def dataToFields (r : Ref) : List (String × Data) → Act Unit
  | [] => pure ()
  | (name, d) :: ds => do
    let v ← dataToValue d
    modifyObject r fun o => o.put (.ofString name) (.plain v)
    dataToFields r ds

end

/-- The value that a text writes. -/
def parseJson (s : String) : Act Value := do
  match readJson s with
  | .ok d => dataToValue d
  | .error message => throwFault .syntaxError message

/-- A value with what a function makes of its parts, from the leaves up. -/
def reviveAt (f : Value) : Nat → Ref → Key → Act Value
  | 0, _, _ => throwRange "Maximum call stack size exceeded"
  | fuel + 1, holder, k => do
    let v ← getOf holder k
    match v with
    | .object r =>
      for inner in ← enumerableOwn r do
        match ← reviveAt f fuel r inner with
        | .undefined => let _ ← deleteFrom r inner
        | x => let _ ← refine r inner (Property.plain x).descriptor
    | _ => pure ()
    call f (.object holder) [k.value, v]

/-! ### Writing -/

/-- A text in quotes; a unit that has lost its other half is written as an escape. -/
def quoteText (s : String) : String :=
  String.ofList ('"' :: (s.toList.flatMap fun c =>
    match Script.halfUnit? c with
    | some u => "\\u".toList ++ (Numeral.natInBase 16 u).toList
    | none => Json.escapeChar c) ++ ['"'])

/-- How values are written. -/
structure Writing where
  /-- What takes the place of a value: the holder, the key and the value are given. -/
  replace : Value → Key → Value → Act Value
  /-- The keys that are written, if not all. -/
  keys? : Option (List Key)
  /-- What stands before the parts of a value, once for every level. -/
  gap : String

/-- The value that is written in the place of another: what it says itself, and what is put in. -/
def replaced (w : Writing) (holder : Value) (k : Key) (v : Value) : Act Value := do
  let v ← match v with
    | .object _ | .bigint _ => do
      let f ← get v (.text "toJSON")
      if ← isCallable f then call f v [k.value] else pure v
    | _ => pure v
  let v ← w.replace holder k v
  match v with
  | .object r =>
    match (← object r).kind with
    | .boxed (.number _) => pure (.number (← toNumber v))
    | .boxed (.string _) => pure (.string (← toText v))
    | .boxed b => pure b
    | _ => pure v
  | _ => pure v

/-- Parts between brackets, on lines of their own if there is a gap. -/
def bracketed (gap indent opening closing : String) (parts : List String) : String :=
  if parts.isEmpty then opening ++ closing
  else if gap.isEmpty then opening ++ ",".intercalate parts ++ closing
  else
    let inner := indent ++ gap
    opening ++ "\n" ++ inner ++ (",\n" ++ inner).intercalate parts ++ "\n" ++ indent ++ closing

/-- The text of a value, nothing if it has none. -/
def writeValue (w : Writing) : Nat → List Ref → String → Value → Key → Value → Act (Option String)
  | 0, _, _, _, _, _ => throwRange "Maximum call stack size exceeded"
  | fuel + 1, above, indent, holder, k, v => do
    match ← replaced w holder k v with
    | .null => pure (some "null")
    | .bool b => pure (some (if b then "true" else "false"))
    | .string s => pure (some (quoteText s))
    | .number x => pure (some (if x.isFinite then Script.numberText x else "null"))
    | .bigint _ => throwType "BigInt are forbidden in JSON.stringify"
    | .undefined | .symbol _ => pure none
    | .object r =>
      if (← object r).isCallable then pure none
      else if above.contains r then throwType "circular reference"
      else
        let inner := indent ++ w.gap
        let value : Value := .object r
        if ← isArray value then
          let n ← lengthOf r
          let parts ← loop (0, []) fun (i, parts) => do
            if i < n then
              let x ← getOf r (.index i)
              let part ← writeValue w fuel (r :: above) inner value (.index i) x
              pure (.error (i + 1, part.getD "null" :: parts))
            else pure (.ok parts.reverse)
          pure (some (bracketed w.gap indent "[" "]" parts))
        else
          let keys ← match w.keys? with
            | some keys => pure keys
            | none => enumerableOwn r
          let parts ← loop (keys, []) fun (keys, parts) => do
            match keys with
            | [] => pure (.ok parts.reverse)
            | k :: keys =>
              let x ← getOf r k
              match ← writeValue w fuel (r :: above) inner value k x with
              | some text =>
                let name := quoteText (k.text?.getD "") ++ (if w.gap.isEmpty then ":" else ": ")
                pure (.error (keys, (name ++ text) :: parts))
              | none => pure (.error (keys, parts))
          pure (some (bracketed w.gap indent "\x7b" "\x7d" parts))

/-- The text of a value. -/
def writeJson (w : Writing) (v : Value) : Act (Option String) := do
  let holder ← newPlain
  modifyObject holder fun o => o.putNamed (.text "") (.plain v)
  writeValue w 4000 [] "" (.object holder) (.text "") v

/-- What stands before the parts of a value, by an argument. -/
def gapOf (v : Value) : Act String := do
  let v ← match v with
    | .object r =>
      match (← object r).kind with
      | .boxed (.number _) => pure (Value.number (← toNumber v))
      | .boxed (.string _) => pure (Value.string (← toText v))
      | _ => pure v
    | _ => pure v
  match v with
  | .number x =>
    let n := if x ≥ 10 then 10 else if x ≥ 1 then x.toUInt64.toNat else 0
    pure (String.ofList (List.replicate n ' '))
  | .string s => pure (Script.slice s 0 10)
  | _ => pure ""

/-- The keys that an array of names gives. -/
def keysFromList (v : Value) : Act (List Key) := do
  let items ← listItems v
  let keys ← items.mapM fun
    | .string s => pure (some (Key.ofString s))
    | .number x => pure (some (Key.ofNumber x))
    | .object r => do
      match (← object r).kind with
      | .boxed (.number _) | .boxed (.string _) => pure (some (Key.ofString (← toText (.object r))))
      | _ => pure none
    | _ => pure none
  pure (keys.filterMap id).eraseDups

/-- Reading and writing as functions. -/
def json : Space :=
  { name := "JSON", tag? := some "JSON", constants := []
    entries :=
      [.method "parse" 2 fun c => do
          let v ← parseJson (← toText (c.argument 0))
          if ← isCallable (c.argument 1) then
            let holder ← newPlain
            modifyObject holder fun o => o.putNamed (.text "") (.plain v)
            reviveAt (c.argument 1) 4000 holder (.text "")
          else pure v,
       .method "stringify" 3 fun c => do
          let f := c.argument 1
          let calls ← isCallable f
          let keys? ← if calls then pure none
            else if ← isArray f then do pure (some (← keysFromList f))
            else pure none
          let w : Writing :=
            { replace := fun holder k v =>
                if calls then call f holder [k.value, v] else pure v
              keys?
              gap := ← gapOf (c.argument 2) }
          pure ((← writeJson w (c.argument 0)).elim .undefined .string)] }

end Library

end Engine

end NotebookEngine
