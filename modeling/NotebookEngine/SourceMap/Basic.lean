/-
**Source maps.**

A source map tells for places of a generated text which places of its sources they come from.  It is a
list of tokens in the order of their generated places; a place between two tokens belongs to the one
before it.  Lines and columns count from zero inside a map; questions ask for lines counted from one.

Lines and columns are natural numbers of any size.  Texts with so many line ends that a count of 32 bits
would wrap around are not treated as such a count would treat them.

Main definitions:

* `SourceMap.Token`, `SourceMap` — the map;
* `SourceMap.find` — the token of a generated place;
* `SourceMap.locate`, `SourceMap.mapLine` — the source place, and the cell line, of a generated place;
* `SourceMap.Entry`, `SourceMap.ofEntries`, `SourceMap.linesFrom` — building a map;
* `SourceMap.merge` — the map through two maps.
-/

import NotebookEngine.SourceMap.DebugId

set_option autoImplicit false

namespace NotebookEngine

/-! ### Maps -/

/-- A generated place and the source place it comes from. -/
structure SourceMap.Token where
  /-- The generated line. -/
  line : Nat
  /-- The generated column. -/
  column : Nat
  /-- The line in the source. -/
  sourceLine : Nat
  /-- The column in the source. -/
  sourceColumn : Nat
  /-- The number of the source. -/
  source? : Option Nat
  /-- The number of the name that stood in the source. -/
  name? : Option Nat
  /-- Whether the characters after the place map one by one. -/
  ranged : Bool
  deriving DecidableEq, Inhabited

/-- A source map. -/
structure SourceMap where
  /-- The name of the generated file. -/
  file? : Option String
  /-- The names of the sources as they are written. -/
  ownSources : List String
  /-- The directory of the sources. -/
  root? : Option String
  /-- The texts of the sources. -/
  contents : List (Option String)
  /-- The names that tokens refer to. -/
  names : List String
  /-- The tokens in the order of their generated places. -/
  tokens : List SourceMap.Token
  /-- The numbers of the sources that are of no interest, in order and each once. -/
  ignored : List Nat
  debugId? : Option DebugId
  deriving DecidableEq, Inhabited

namespace SourceMap

/-- The map without tokens. -/
def empty : SourceMap := ⟨none, [], none, [], [], [], [], none⟩

/-! ### Sources -/

/-- A source as seen from a directory: a name that says where it is stays as it is. -/
def below (root source : String) : String :=
  if source.startsWith "/" ∨ source.startsWith "http:" ∨ source.startsWith "https:" then source
  else
    match root.toList.reverse with
    | '/' :: rest => String.ofList rest.reverse ++ "/" ++ source
    | _ => root ++ "/" ++ source

/-- The sources with the directory they are in. -/
def sources (m : SourceMap) : List String :=
  match m.root? with
  | none | some "" => m.ownSources
  | some root => m.ownSources.map (below root)

/-- The name of a token's source. -/
def sourceOf (m : SourceMap) (t : Token) : Option String := t.source?.bind (m.sources[·]?)

/-! ### The order of places -/

/-- Whether a token's generated place is before a place. -/
def Token.before (t : Token) (line column : Nat) : Bool :=
  t.line < line || (t.line = line && t.column < column)

/-- Whether a token's generated place is the given place. -/
def Token.isAt (t : Token) (line column : Nat) : Bool := t.line = line && t.column = column

/-- Whether a token's generated place is not after that of another. -/
def Token.notAfter (t u : Token) : Bool :=
  t.line < u.line || (t.line = u.line && t.column ≤ u.column)

/-! ### Questions -/

/-- The token at a place, the first if there are several, or else the last one before it. -/
def floor (m : SourceMap) (line column : Nat) : Option Token :=
  match m.tokens.find? (Token.isAt · line column) with
  | some t => some t
  | none => (m.tokens.filter (Token.before · line column)).getLast?

/-- The token that a place belongs to: the one at or before it on its line, else the first one after it
on its line, else the one before it if later lines have any. -/
def find (m : SourceMap) (line column : Nat) : Option Token :=
  let lower := m.floor line column
  match lower with
  | some t =>
    if t.line = line then some t
    else
      match m.tokens.find? fun u => line ≤ u.line with
      | some u => if u.line = line then some u else lower
      | none => none
  | none =>
    match m.tokens.find? fun u => line ≤ u.line with
    | some u => if u.line = line then some u else none
    | none => none

/-- The source column of a generated column: it moves along only in a range. -/
def Token.columnFor (t : Token) (column : Nat) : Nat :=
  if t.ranged then t.sourceColumn + (column - t.column) else t.sourceColumn

/-- A place in a source; the line counts from one, the column from zero. -/
structure Location where
  source : String
  line : Nat
  column : Nat
  deriving DecidableEq, Inhabited

/-- A place in a cell; the line counts from one, the column from zero. -/
structure CellPlace where
  cell : String
  line : Nat
  column : Nat
  deriving DecidableEq, Inhabited

/-- The source place of a generated place whose line counts from one. -/
def locate (m : SourceMap) (line column : Nat) : Option Location :=
  match line with
  | 0 => none
  | line + 1 => do
    let t ← m.find line column
    let source ← m.sourceOf t
    let lower := m.floor line column
    let sourceColumn := if lower = some t then t.columnFor column else t.sourceColumn
    some ⟨source, t.sourceLine + 1, sourceColumn⟩

/-- What precedes the identity of a cell in the name of its source. -/
def cellMark : String := "cell-"

/-- The name of a cell's source. -/
def cellSource (id : String) : String := cellMark ++ id

/-- The cell that a source name means. -/
def cellOfSource (source : String) : Option String :=
  if source.startsWith cellMark then some (source.drop cellMark.length).toString else none

/-- The cell place of a generated place whose line counts from one. -/
def mapLine (m : SourceMap) (line column : Nat) : Option CellPlace := do
  let l ← m.locate line column
  let cell ← cellOfSource l.source
  some ⟨cell, l.line, l.column⟩

/-! ### Building -/

/-- A token to be, with the name of its source. -/
structure Entry where
  line : Nat
  column : Nat
  sourceLine : Nat
  sourceColumn : Nat
  source? : Option String
  deriving DecidableEq, Inhabited

/-- The number of a name in a list, which it may lengthen. -/
def numberIn (name : String) (names : List String) : Nat × List String :=
  match names.idxOf? name with
  | some i => (i, names)
  | none => (names.length, names ++ [name])

/-- The tokens of entries and the sources they name, numbered in order of first use. -/
def tokensOf : List String → List Entry → List Token × List String
  | sources, [] => ([], sources)
  | sources, e :: es =>
    let (source?, sources) :=
      match e.source? with
      | none => (none, sources)
      | some s => let (i, sources) := numberIn s sources; (some i, sources)
    let (ts, sources) := tokensOf sources es
    (⟨e.line, e.column, e.sourceLine, e.sourceColumn, source?, none, false⟩ :: ts, sources)

/-- The tokens in the order of their generated places; those of one place keep their order. -/
def inOrder (ts : List Token) : List Token := ts.mergeSort Token.notAfter

/-- The map of entries. -/
def ofEntries (es : List Entry) : SourceMap :=
  let (ts, sources) := tokensOf [] es
  ⟨none, sources, none, [], [], inOrder ts, [], none⟩

/-- The number of lines of a text. -/
def lineCount (text : String) : Nat := text.toList.count '\n' + 1

/-- Entries that map each line of `text`, placed after `start` generated lines, to its own line. -/
def linesFrom (source text : String) (start column : Nat) : List Entry :=
  (List.range (lineCount text)).map fun k => ⟨start + k, column, k, 0, some source⟩

/-! ### Merging -/

/-- The map through `second` and then `first`; tokens that lead nowhere in `first` are dropped. -/
def merge (first second : SourceMap) : SourceMap :=
  ofEntries <| second.tokens.filterMap fun t =>
    (first.locate (t.sourceLine + 1) t.sourceColumn).map fun l =>
      ⟨t.line, t.column, l.line - 1, l.column, some l.source⟩

end SourceMap

end NotebookEngine
