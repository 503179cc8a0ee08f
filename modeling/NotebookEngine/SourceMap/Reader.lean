/-
**Reading source maps.**

Main definitions:

* `SourceMap.Fault`, `SourceMap.Fault.message` — the reasons a map is refused;
* `SourceMap.tokensOfMappings` — the tokens that a mappings text holds;
* `SourceMap.read` — the map of a JSON text.
-/

import NotebookEngine.SourceMap.Basic
import NotebookEngine.SourceMap.Vlq
import NotebookEngine.Json.Record
import NotebookEngine.Json.Printer
import NotebookEngine.Text.Lines
import NotebookEngine.Failure

set_option autoImplicit false

namespace NotebookEngine

namespace SourceMap

/-! ### Faults -/

/-- The reasons a map is refused. -/
inductive Fault where
  | json (fault : Json.Fault)
  | vlq (fault : Vlq.Fault)
  | segmentSize (size : Nat)
  | sourceNumber (number : Nat)
  | nameNumber (number : Nat)
  | rangeDigit (c : Char)
  | newlineExpected
  | incompatible

/-- The text of a fault. -/
def Fault.message : Fault → String
  | .json f => "bad json: " ++ f.message
  | .vlq .unfinished => "leftover cur/shift in vlq decode"
  | .vlq .tooLong => "vlq decode caused an overflow"
  | .segmentSize n => "got " ++ toString n ++ " segments, expected 4 or 5"
  | .sourceNumber n => "bad reference to source #" ++ toString n
  | .nameNumber n => "bad reference to name #" ++ toString n
  | .rangeDigit c => "invalid base64 character: " ++ c.toString
  | .newlineExpected => "expected newline"
  | .incompatible => "encountered incompatible sourcemap format"

/-! ### Mappings -/

/-- The line and column of a token that has no source. -/
def nowhere : Nat := Nat.pow 2 32 - 1

/-- A running number moved by a difference, kept in 32 bits. -/
def moved (n : Nat) (by_ : Int) : Nat := (((n : Int) + by_) % Nat.pow 2 32).toNat

/-- The numbers that the next segment is read against. -/
structure Reading where
  column : Nat
  source : Nat
  sourceLine : Nat
  sourceColumn : Nat
  name : Nat

/-- The token of one segment. -/
def tokenOf (sources names line : Nat) (ranged : Bool) (r : Reading) :
    List Int → Except Fault (Token × Reading)
  | [] => .error (.segmentSize 0)
  | [c] =>
    let r := { r with column := moved r.column c }
    .ok (⟨line, r.column, nowhere, nowhere, none, none, ranged⟩, r)
  | c :: s :: l :: k :: rest =>
    let column := moved r.column c
    let source := moved r.source s
    let place (name? : Option Nat) : Except Fault (Token × Reading) :=
      let sourceLine := moved r.sourceLine l
      let sourceColumn := moved r.sourceColumn k
      .ok (⟨line, column, sourceLine, sourceColumn, some source, name?, ranged⟩,
        ⟨column, source, sourceLine, sourceColumn, name?.getD r.name⟩)
    match rest with
    | [] => if source ≥ sources then .error (.sourceNumber source) else place none
    | [n] =>
      if source ≥ sources then .error (.sourceNumber source)
      else
        let name := moved r.name n
        if name ≥ names then .error (.nameNumber name) else place (some name)
    | more => .error (.segmentSize (4 + more.length))
  | few => .error (.segmentSize few.length)

/-- The tokens of the segments of one line. -/
def tokensOfLine (sources names line : Nat) (marks : List Bool) :
    Reading → List (List Char) → Except Fault (List Token × Reading)
  | r, [] => .ok ([], r)
  | r, s :: ss =>
    if s.isEmpty then tokensOfLine sources names line marks.tail r ss
    else
      match Vlq.decode s with
      | .error f => .error (.vlq f)
      | .ok ns => do
        let (t, r) ← tokenOf sources names line (marks.headD false) r ns
        let (ts, r) ← tokensOfLine sources names line marks.tail r ss
        return (t :: ts, r)

/-- The six bits of each digit, the lowest first. -/
def rangeMarks : List Nat → Except Fault (List Bool)
  | [] => .ok []
  | b :: bs =>
    match Vlq.value? b with
    | none => .error (.rangeDigit (Char.ofNat b))
    | some v => do return (List.range 6).map (fun j => v / Nat.pow 2 j % 2 == 1) ++ (← rangeMarks bs)

/-- The tokens of the lines of a mappings text, with the range marks of each line. -/
def tokensOfLines (sources names : Nat) :
    Nat → Reading → List (List Char) → List (List Char) → Except Fault (List Token)
  | _, _, [], _ => .ok []
  | line, r, l :: ls, ranges =>
    if l.isEmpty then tokensOfLines sources names (line + 1) r ls ranges.tail
    else do
      let marks ← rangeMarks (Text.toBytes (String.ofList (ranges.headD [])))
      let (ts, r) ←
        tokensOfLine sources names line marks { r with column := 0 } (Text.pieces ',' l)
      return ts ++ (← tokensOfLines sources names (line + 1) r ls ranges.tail)

/-- The tokens that a mappings text and a range text hold. -/
def tokensOfMappings (sources names : Nat) (mappings ranges : String) :
    Except Fault (List Token) :=
  tokensOfLines sources names 0 ⟨0, 0, 0, 0, 0⟩ (Text.pieces ';' mappings.toList)
    (Text.pieces ';' ranges.toList)

/-! ### The document -/

/-- What was found in a part of a map of several parts: whether the part can be read. -/
abbrev Checked := Except Fault Unit

/-- The fields of a map that were read; an inner `none` is a `null`. -/
structure Fields where
  version : Option (Option Nat)
  file : Option (Option Json)
  sources : Option (Option (List (Option String)))
  root : Option (Option String)
  contents : Option (Option (List (Option String)))
  sections : Option (Option (List Checked))
  names : Option (Option (List Json))
  ranges : Option (Option String)
  mappings : Option (Option String)
  ignored : Option (Option (List Nat))
  offsets : Option (Option (List (Option Nat)))
  modulePaths : Option (Option (List String))
  functionMaps : Option (Option (List (Option (List Unit))))
  debugId : Option (Option DebugId)
  otherDebugId : Option (Option DebugId)
  deriving Inhabited

/-- No field read yet. -/
def Fields.empty : Fields :=
  ⟨none, none, none, none, none, none, none, none, none, none, none, none, none, none, none⟩

/-- The text of a name: only strings and numbers have one. -/
def nameText : Json → String
  | .str s => s
  | .int n => toString n
  | .float x => Json.writeFloat x
  | _ => ""

/-- The map of the fields, of one part. -/
def ofPlainFields (s : Fields) : Except Fault SourceMap := do
  let sources := (s.sources.join.getD []).map (·.getD "")
  let names := (s.names.join.getD []).map nameText
  let tokens ← tokensOfMappings sources.length names.length (s.mappings.join.getD "")
    (s.ranges.join.getD "")
  let file? := s.file.join.map fun v => (Json.text? v).getD "<invalid>"
  let ignored := ((s.ignored.join.getD []).mergeSort (· ≤ ·)).eraseDups
  return ⟨file?, sources, s.root.join, s.contents.join.getD [], names, inOrder tokens, ignored,
    s.debugId.join.or s.otherDebugId.join⟩

/-- The map of the fields; a map of several parts or with maps of its functions has no plain form. -/
def ofFields (s : Fields) : Except Fault SourceMap :=
  match s.sections.join with
  | some parts => do
    let _ ← parts.mapM id
    .error .incompatible
  | none => do
    let m ← ofPlainFields s
    if s.functionMaps.join.isSome then .error .incompatible else pure m

open Json.Reader in
/-- The identity of debugging information. -/
def debugIdReader : Json.Reader DebugId := do
  if (← start) = '"' then
    located do
      skip
      let t ← string
      match DebugId.ofText? t with
      | some i => return i
      | none => failLater (.invalidValue (.str t) "DebugId")
  else refuse "DebugId"

open Json.Reader in
/-- A record of two fields, both of which must be there. -/
def pair {α β : Type} (expected first second : String) (a : Json.Reader α) (b : Json.Reader β) :
    Json.Reader Unit :=
  let field (name : String) (s : Option α × Option β) : Json.Reader (Option α × Option β) := do
    if name = first then return (← known name s.1 a, s.2)
    else if name = second then return (s.1, ← known name s.2 b)
    else do unknown; return s
  let finish (s : Option α × Option β) : Json.Reader Unit :=
    if s.1.isNone then failLater (.missingField first)
    else if s.2.isNone then failLater (.missingField second)
    else pure ()
  let positional : Json.Reader Unit := do
    if (← nextItem true a).isNone then failLater (.invalidLength 0 (expected ++ " with 2 elements"))
    else if (← nextItem false b).isNone then
      failLater (.invalidLength 1 (expected ++ " with 2 elements"))
    else pure ()
  record expected (none, none) field finish positional

open Json.Reader in
/-- Where a part begins. -/
def sectionOffset : Json.Reader Unit := pair "struct RawSectionOffset" "line" "column" nat32 nat32

open Json.Reader in
/-- The map of a function. -/
def functionMap : Json.Reader Unit :=
  pair "struct FacebookScopeMapping" "names" "mappings" (listOf text) text

/-- The fields of a part that were read. -/
structure SectionFields where
  offset : Option Unit
  url : Option (Option String)
  map : Option (Option Checked)

open Json.Reader in
/-- A part, given the reader of its map. -/
def sectionReader (map : Json.Reader Fields) : Json.Reader Checked :=
  let checked : Json.Reader Checked := do return (ofFields (← map)).map fun _ => ()
  let field (name : String) (s : SectionFields) : Json.Reader SectionFields := do
    match name with
    | "offset" => return { s with offset := ← known name s.offset sectionOffset }
    | "url" => return { s with url := ← known name s.url optionalText }
    | "map" => return { s with map := ← known name s.map (optional checked) }
    | _ => do unknown; return s
  let finish (s : SectionFields) : Json.Reader Checked :=
    if s.offset.isNone then failLater (.missingField "offset")
    else return match s.map.join with
      | some (.error f) => .error f
      | _ => .ok ()
  let item {α : Type} (i : Nat) (r : Json.Reader α) : Json.Reader α := do
    match ← nextItem (i = 0) r with
    | some a => return a
    | none => failLater (.invalidLength i "struct RawSection with 3 elements")
  let positional : Json.Reader Checked := do
    let _ ← item 0 sectionOffset
    let _ ← item 1 optionalText
    finish ⟨some (), none, some (← item 2 (optional checked))⟩
  record "struct RawSection" ⟨none, none, none⟩ field finish positional

open Json.Reader in
/-- The field of a name: `take` reads its value, `other` one of no interest, and `inner` maps in it. -/
def fieldBy (take : {α : Type} → String → Option α → Json.Reader α → Json.Reader (Option α))
    (other : Json.Reader Unit) (inner : Json.Reader Fields) (name : String) (s : Fields) :
    Json.Reader Fields := do
  match name with
  | "version" => return { s with version := ← take name s.version (optional nat32) }
  | "file" => return { s with file := ← take name s.file (optional value) }
  | "sources" =>
    return { s with sources := ← take name s.sources (optional (listOf optionalText)) }
  | "sourceRoot" => return { s with root := ← take name s.root optionalText }
  | "sourcesContent" =>
    return { s with contents := ← take name s.contents (optional (listOf optionalText)) }
  | "sections" =>
    return { s with sections := ← take name s.sections (optional (listOf (sectionReader inner))) }
  | "names" => return { s with names := ← take name s.names (optional (listOf value)) }
  | "rangeMappings" => return { s with ranges := ← take name s.ranges optionalText }
  | "mappings" => return { s with mappings := ← take name s.mappings optionalText }
  | "ignoreList" => return { s with ignored := ← take name s.ignored (optional (listOf nat32)) }
  | "x_facebook_offsets" =>
    return { s with offsets := ← take name s.offsets (optional (listOf (optional nat32))) }
  | "x_metro_module_paths" =>
    return { s with modulePaths := ← take name s.modulePaths (optional (listOf text)) }
  | "x_facebook_sources" =>
    return { s with
      functionMaps :=
        ← take name s.functionMaps (optional (listOf (optional (listOf functionMap)))) }
  | "debug_id" => return { s with debugId := ← take name s.debugId (optional debugIdReader) }
  | "debugId" =>
    return { s with otherDebugId := ← take name s.otherDebugId (optional debugIdReader) }
  | _ => do other; return s

open Json.Reader in
/-- What follows the name of a map's field. -/
def field : Json.Reader Fields → String → Fields → Json.Reader Fields := fieldBy known unknown

open Json.Reader in
/-- An item of a list as the field of a name. -/
def itemField : Json.Reader Fields → String → Fields → Json.Reader Fields :=
  fieldBy (fun _ _ r => do return some (← r)) skipValue

/-- The fields in the order in which a list gives them; the last item may be anything. -/
def fieldOrder : List String :=
  ["version", "file", "sources", "sourceRoot", "sourcesContent", "sections", "names", "rangeMappings",
   "mappings", "ignoreList", "x_facebook_offsets", "x_metro_module_paths", "x_facebook_sources",
   "debug_id", "debugId", ""]

open Json.Reader in
/-- The items of a list as the fields of the given names, of which `count` came before. -/
def positional (inner : Json.Reader Fields) : List String → Nat → Fields → Json.Reader Fields
  | [], _, s => return s
  | name :: names, count, s => do
    if ← moreItems (count = 0) then
      positional inner names (count + 1) (← itemField inner name s)
    else failLater (.invalidLength count "struct RawSourceMap with 16 elements")

open Json.Reader in
/-- The JSON reader of a map's fields, maps in it at most `depth` deep. -/
def readerWithin : Nat → Json.Reader Fields
  | 0 => failNext .recursionLimit
  | depth + 1 =>
    let inner := readerWithin depth
    record "struct RawSourceMap" Fields.empty (field inner) pure
      (positional inner fieldOrder 0 Fields.empty)

/-- The JSON reader of a map's fields. -/
def reader : Json.Reader Fields := readerWithin 43

/-! ### Guards before the document -/

/-- Whether the character may guard a document against being run. -/
def isGuard (c : Char) : Bool := c = ')' || c = ']' || c = '}' || c = '\''

/-- The document from the end of its guarding line. -/
def afterGuardLine : List Char → Except Fault (List Char)
  | [] => .ok []
  | '\r' :: '\n' :: cs => .ok ('\n' :: cs)
  | ['\r'] => .ok []
  | '\r' :: _ => .error .newlineExpected
  | '\n' :: cs => .ok ('\n' :: cs)
  | _ :: cs => afterGuardLine cs

/-- The document without a guarding line. -/
def withoutGuard (cs : List Char) : Except Fault (List Char) :=
  match cs with
  | c :: _ => if isGuard c then afterGuardLine cs else .ok cs
  | [] => .ok []

/-- The map of a JSON text. -/
def read (text : String) : Except Fault SourceMap := do
  let cs ← withoutGuard text.toList
  match Json.Reader.run (Json.Reader.wholeDocument reader) (String.ofList cs) with
  | .ok s => ofFields s
  | .error f => .error (.json f)

/-- The map of a JSON text, or the failure to read it. -/
def load (text : String) : Except Failure SourceMap :=
  match read text with
  | .ok m => .ok m
  | .error f => .error (.sourceMap f.message)

end SourceMap

end NotebookEngine
