/-
**Writing source maps.**

Main definitions:

* `SourceMap.writeMappings` — the tokens as differences;
* `SourceMap.writeRanges` — which tokens are ranges;
* `SourceMap.write` — the JSON text of a map.
-/

import NotebookEngine.SourceMap.Basic
import NotebookEngine.SourceMap.Vlq
import NotebookEngine.Json.Printer

set_option autoImplicit false

namespace NotebookEngine

namespace SourceMap

/-! ### Mappings -/

/-- The numbers that the next token is written against. -/
structure Running where
  line : Nat
  column : Nat
  source : Nat
  sourceLine : Nat
  sourceColumn : Nat
  name : Nat

/-- The difference of two numbers. -/
def difference (new old : Nat) : List Char := Vlq.encode ((new : Int) - old)

/-- The text of one token. -/
def segment (r : Running) (t : Token) : List Char :=
  difference t.column r.column ++
    match t.source? with
    | none => []
    | some s =>
      difference s r.source ++ difference t.sourceLine r.sourceLine ++
        difference t.sourceColumn r.sourceColumn ++
        match t.name? with
        | none => []
        | some n => difference n r.name

/-- The numbers after a token was written. -/
def Running.after (r : Running) (t : Token) : Running :=
  match t.source? with
  | none => { r with line := t.line, column := t.column }
  | some s => ⟨t.line, t.column, s, t.sourceLine, t.sourceColumn, t.name?.getD r.name⟩

/-- The text of tokens after `last?`; a token that repeats the one before it is not written. -/
def mappingsFrom : Running → Option Token → List Token → List Char
  | _, _, [] => []
  | r, last?, t :: ts =>
    if t.line = r.line then
      if last? = some t then mappingsFrom r (some t) ts
      else
        (if last?.isSome then [','] else []) ++ segment r t ++
          mappingsFrom (r.after t) (some t) ts
    else
      List.replicate (t.line - r.line) ';' ++ segment { r with column := 0 } t ++
        mappingsFrom (r.after t) (some t) ts

/-- The text of all tokens. -/
def writeMappings (ts : List Token) : String :=
  String.ofList (mappingsFrom ⟨0, 0, 0, 0, 0, 0⟩ none ts)

/-! ### Ranges -/

/-- The digits of a list of bits, six a digit, the lowest first. -/
def bitDigits : List Nat → Nat → List Char
  | marks, count =>
    (List.range ((count + 5) / 6)).map fun i =>
      Vlq.digit ((List.range 6).foldl
        (fun n j => if marks.contains (6 * i + j) then n + Nat.pow 2 j else n) 0)

/-- The text of the marked positions of a line. -/
def rangeDigits (marks : List Nat) : List Char :=
  match marks with
  | [] => []
  | _ => bitDigits marks (marks.foldl max 0 + 1)

/-- The text of the ranges among tokens: a range that opens a line is counted with the line before it. -/
def rangesFrom : Nat → Nat → Nat → List Nat → List Token → List Char
  | _, _, _, marks, [] => rangeDigits marks
  | line, first, i, marks, t :: ts =>
    let marks := if t.ranged then (i - first) :: marks else marks
    if t.line = line then rangesFrom line first (i + 1) marks ts
    else
      rangeDigits marks ++ List.replicate (t.line - line) ';' ++
        rangesFrom t.line i (i + 1) [] ts

/-- The text that tells which tokens are ranges, if any are. -/
def writeRanges (ts : List Token) : Option String :=
  if ts.any (·.ranged) then some (String.ofList (rangesFrom 0 0 0 [] ts)) else none

/-! ### Maps -/

/-- The texts of the given number of sources, if any is known. -/
def contentField (count : Nat) (contents : List (Option String)) : List (String × Json) :=
  let texts := (List.range count).map fun i => contents[i]?.join
  if texts.any Option.isSome then
    [("sourcesContent", .arr (texts.map fun c => (c.map Json.str).getD .null))]
  else []

/-- The sources that are of no interest, if there are any. -/
def ignoredField (ns : List Nat) : List (String × Json) :=
  if ns.isEmpty then [] else [("ignoreList", .arr (ns.map fun (n : Nat) => Json.int n))]

/-- The JSON value of a map, its fields in the order in which they are written. -/
def toJson (m : SourceMap) : Json :=
  .obj ([("version", .int 3)] ++ Json.optionalField "file" m.file? ++
    [("sources", .arr (m.ownSources.map .str))] ++ Json.optionalField "sourceRoot" m.root? ++
    contentField m.ownSources.length m.contents ++ [("names", .arr (m.names.map .str))] ++
    Json.optionalField "rangeMappings" (writeRanges m.tokens) ++
    [("mappings", .str (writeMappings m.tokens))] ++ ignoredField m.ignored ++
    Json.optionalField "debug_id" (m.debugId?.map DebugId.text))

/-- The JSON text of a map. -/
def write (m : SourceMap) : String := m.toJson.compact

end SourceMap

end NotebookEngine
