/-
**Where the lines of the cells stand in a program.**

A program is written piece by piece, and the map of its places is made from the number of line breaks
written so far.  Whatever the pieces hold, as long as each of them ends its last line, the body of a cell
stands at the line whose number was counted, and the entries of the map are those of the bodies.

Main definitions:

* `Program.bodyLine` — the line of a program that stands for a line of a cell;
* `Program.Draft.Lays` — a draft whose bodies stand where its entries say.

Main results:

* `Program.splitOnChar_endLines` — ended lines are the lines of a program;
* `Program.Draft.Lays.addBody` — one body more;
* `Program.generate_lays` — the whole program;
* `Program.generate_layout` — its lines, its tokens and what its map answers.
-/

import NotebookEngine.Program.Generate
import NotebookEngine.Proofs.SourceMap.Lookup
import NotebookEngine.Proofs.Text.Closed

set_option autoImplicit false

namespace NotebookEngine

namespace Program

/-! ### Ended lines -/

theorem endLines_cons (line : String) (lines : List String) :
    endLines (line :: lines) = line ++ "\r" ++ "\n" ++ endLines lines := by
  have hend : lineEnd = "\r" ++ "\n" := rfl
  simp only [endLines, List.map_cons, String.join_cons, hend, String.append_assoc]

theorem closed_endLines (lines : List String) : Text.Closed (endLines lines) := by
  induction lines with
  | nil => exact Text.closed_empty
  | cons line lines ih =>
      rw [endLines_cons]
      exact Text.Closed.append (Or.inr ⟨line ++ "\r", rfl⟩) ih

/-- Lines joined by line ends, and one line end more. -/
theorem intercalate_lineEnd {lines : List String} (h : lines ≠ []) :
    String.intercalate lineEnd lines ++ lineEnd = endLines lines := by
  induction lines with
  | nil => exact absurd rfl h
  | cons line lines ih =>
      cases lines with
      | nil => simp [endLines]
      | cons next lines =>
          have hnext := ih (List.cons_ne_nil next lines)
          rw [String.intercalate_cons_cons, String.append_assoc, hnext]
          simp [endLines, String.append_assoc]

/-- Lines that were ended are lines of the text, each with its carriage return. -/
theorem splitOnChar_endLines {lines : List String} (h : ∀ l ∈ lines, '\n' ∉ l.toList)
    (rest : String) :
    Text.splitOnChar '\n' (endLines lines ++ rest)
      = lines.map (· ++ "\r") ++ Text.splitOnChar '\n' rest := by
  induction lines with
  | nil => rw [show endLines [] = "" from rfl, String.empty_append]; rfl
  | cons line lines ih =>
      have hline : Text.splitOnChar '\n' (line ++ "\r") = [line ++ "\r"] := by
        have hnot : '\n' ∉ (line ++ "\r").toList := by
          rw [String.toList_append, List.mem_append, not_or]
          exact ⟨h line List.mem_cons_self, by decide⟩
        rw [Text.splitOnChar, Text.pieces_of_not_mem hnot, List.map_singleton, String.ofList_toList]
      have hrest := ih fun l hl => h l (List.mem_cons_of_mem line hl)
      rw [endLines_cons, String.append_assoc, Text.splitOnChar_append_break, hline, hrest]
      rfl

theorem endedLines_endLines {lines : List String} (h : ∀ l ∈ lines, '\n' ∉ l.toList) :
    Text.endedLines (endLines lines) = lines.map (· ++ "\r") := by
  have hsplit := splitOnChar_endLines h ""
  rw [String.append_empty] at hsplit
  rw [Text.endedLines, hsplit]
  exact List.dropLast_concat

/-! ### Bodies -/

/-- The line of a program that stands for a line of a cell: an import leaves an empty line behind. -/
def bodyLine (line : String) : String :=
  if Specifier.isImportLine (Text.trimRight line) then "" else Text.trimRight line

/-- The number of lines of a cell. -/
def height (c : Cell) : Nat := (Text.splitOnChar '\n' c.source).length

theorem lines_bodyOf (source : String) :
    (bodyOf source).lines = (Text.splitOnChar '\n' source).map bodyLine := by
  rw [bodyOf, List.map_map]
  refine List.map_congr_left fun line _ => ?_
  rw [Function.comp_apply, bodyLine]

theorem lines_bodyOf_ne_nil (source : String) : (bodyOf source).lines ≠ [] := by
  rw [lines_bodyOf, Text.splitOnChar, List.map_map]
  exact fun h => Text.pieces_ne_nil '\n' source.toList (List.map_eq_nil_iff.1 h)

theorem not_mem_trimRight {source line : String} (h : line ∈ Text.splitOnChar '\n' source) :
    '\n' ∉ (Text.trimRight line).toList :=
  fun hmem => Text.not_mem_splitOnChar h (Text.mem_of_mem_trimRight hmem)

theorem not_mem_lines_bodyOf {source line : String} (h : line ∈ (bodyOf source).lines) :
    '\n' ∉ line.toList := by
  rw [lines_bodyOf] at h
  obtain ⟨l, hl, rfl⟩ := List.mem_map.1 h
  rw [bodyLine]
  split
  · exact List.not_mem_nil
  · exact not_mem_trimRight hl

theorem not_mem_hoisted {source line : String} (h : line ∈ (bodyOf source).hoisted) :
    '\n' ∉ line.toList := by
  obtain ⟨l, hl, rfl⟩ := List.mem_map.1 (List.mem_filter.1 h).1
  exact not_mem_trimRight hl

/-- What is written for the body of a cell. -/
def bodyText (c : Cell) : String := endLines (bodyOf c.source).lines

/-- A body has as many lines as its cell. -/
theorem count_bodyText (c : Cell) : (bodyText c).toList.count '\n' = height c := by
  rw [bodyText, ← Text.length_endedLines, endedLines_endLines fun _ => not_mem_lines_bodyOf,
    List.length_map, length_lines_bodyOf, height]

/-- The entries of a body that stands at a line. -/
def entriesAt (b : Nat × Cell) : List SourceMap.Entry :=
  SourceMap.linesFrom (SourceMap.cellSource b.2.id) b.2.source b.1 0

theorem entriesAt_eq (b : Nat × Cell) :
    entriesAt b = (List.range (height b.2)).map fun k =>
      ⟨b.1 + k, 0, k, 0, some (SourceMap.cellSource b.2.id)⟩ := by
  rw [entriesAt, SourceMap.linesFrom, SourceMap.lineCount, height, Text.length_splitOnChar]

/-! ### Drafts -/

/-- A draft that starts with some lines and in which bodies stand, where the entries say. -/
structure Draft.Lays (d : Draft) (head : List String) (bodies : List (Nat × Cell)) : Prop where
  closed : Text.Closed d.text
  counted : d.lines = d.text.toList.count '\n'
  starts : ∃ rest, d.text = endLines head ++ rest
  headed : head.length ≤ d.lines
  placed : ∀ b ∈ bodies, ∃ before after, d.text = before ++ bodyText b.2 ++ after ∧
    Text.Closed before ∧ before.toList.count '\n' = b.1
  entries : d.entries = bodies.flatMap entriesAt
  ordered : bodies.Pairwise fun b c => b.1 + height b.2 ≤ c.1
  bounds : ∀ b ∈ bodies, head.length ≤ b.1 ∧ b.1 + height b.2 ≤ d.lines

namespace Draft.Lays

variable {d : Draft} {head : List String} {bodies : List (Nat × Cell)}

/-- A draft that holds nothing but its first lines. -/
theorem start (head : List String) (hhead : ∀ l ∈ head, '\n' ∉ l.toList) :
    Lays ((Draft.mk "" 0 [] []).add (endLines head)) head [] where
  closed := by
    rw [Draft.add, String.empty_append]
    exact closed_endLines head
  counted := by simp [Draft.add]
  starts := ⟨"", by simp [Draft.add]⟩
  headed := by
    have hlength := congrArg List.length (endedLines_endLines hhead)
    rw [Text.length_endedLines, List.length_map] at hlength
    simp [Draft.add, hlength]
  placed := by intro b hb; cases hb
  entries := rfl
  ordered := List.Pairwise.nil
  bounds := by intro b hb; cases hb

/-- What is added behind the bodies leaves them where they are. -/
theorem add (h : d.Lays head bodies) {s : String} (hs : Text.Closed s) :
    (d.add s).Lays head bodies where
  closed := h.closed.append hs
  counted := by
    rw [Draft.add, String.toList_append, List.count_append, ← h.counted]
  starts := by
    obtain ⟨rest, hrest⟩ := h.starts
    exact ⟨rest ++ s, by rw [Draft.add, hrest, String.append_assoc]⟩
  headed := Nat.le_trans h.headed (Nat.le_add_right _ _)
  placed := by
    intro b hb
    obtain ⟨before, after, htext, hclosed, hcount⟩ := h.placed b hb
    exact ⟨before, after ++ s, by rw [Draft.add, htext, String.append_assoc], hclosed, hcount⟩
  entries := h.entries
  ordered := h.ordered
  bounds := by
    intro b hb
    obtain ⟨hfirst, hlast⟩ := h.bounds b hb
    exact ⟨hfirst, Nat.le_trans hlast (Nat.le_add_right _ _)⟩

theorem addBody_eq (d : Draft) (c : Cell) :
    d.addBody c = { d with entries := d.entries ++ entriesAt (d.lines, c) }.add (bodyText c) := by
  rw [Draft.addBody, intercalate_lineEnd (lines_bodyOf_ne_nil c.source)]
  rfl

/-- A body is added at the line that was counted. -/
theorem addBody (h : d.Lays head bodies) (c : Cell) :
    (d.addBody c).Lays head (bodies ++ [(d.lines, c)]) := by
  have hadd := h.add (s := bodyText c) (closed_endLines _)
  have hlines : (d.add (bodyText c)).lines = d.lines + height c := by
    rw [Draft.add, count_bodyText]
  rw [addBody_eq]
  refine ⟨hadd.closed, hadd.counted, hadd.starts, hadd.headed, ?_, ?_, ?_, ?_⟩
  · intro b hb
    rcases List.mem_append.1 hb with hb | hb
    · exact hadd.placed b hb
    · -- Before the new body stands all that was written, and its line ends were counted.
      rw [List.mem_singleton.1 hb]
      exact ⟨d.text, "", by rw [String.append_empty]; rfl, h.closed, h.counted.symm⟩
  · rw [List.flatMap_append, List.flatMap_singleton, ← h.entries]
    rfl
  · refine List.pairwise_append.2 ⟨h.ordered, List.pairwise_singleton _ _, ?_⟩
    intro b hb b' hb'
    rw [List.mem_singleton.1 hb']
    exact (h.bounds b hb).2
  · intro b hb
    rcases List.mem_append.1 hb with hb | hb
    · exact hadd.bounds b hb
    · rw [List.mem_singleton.1 hb]
      exact ⟨h.headed, Nat.le_of_eq hlines.symm⟩

/-- Only the texts and the entries of a draft matter. -/
theorem withLocals (h : d.Lays head bodies) (locals : List String) :
    Lays { d with locals := locals } head bodies :=
  ⟨h.closed, h.counted, h.starts, h.headed, h.placed, h.entries, h.ordered, h.bounds⟩

/-- A cell that is evaluated opens with a closed text, and so does what follows its body. -/
theorem addCell (h : d.Lays head bodies) (index : Nat) (c : Cell) :
    ∃ start, (d.addCell index c).Lays head (bodies ++ [(start, c)]) := by
  have hopened := h.add (s := cellHead index c.id) (closed_endLines _)
  have hclosed := (hopened.addBody c).add (s := captureCall index c.id d.locals) (closed_endLines _)
  exact ⟨_, hclosed.withLocals _⟩

theorem addCells (h : d.Lays head bodies) (index : Nat) (cs : List Cell) :
    ∃ more, more.map Prod.snd = cs ∧ (d.addCells index cs).Lays head (bodies ++ more) := by
  induction cs generalizing d bodies index with
  | nil => exact ⟨[], rfl, by rwa [List.append_nil]⟩
  | cons c cs ih =>
      obtain ⟨start, hcell⟩ := h.addCell index c
      obtain ⟨more, hmore, hlays⟩ := ih hcell (index + 1)
      refine ⟨(start, c) :: more, by rw [List.map_cons, hmore], ?_⟩
      rwa [List.append_assoc] at hlays

theorem addBodies (h : d.Lays head bodies) (cs : List Cell) :
    ∃ more, more.map Prod.snd = cs ∧ (cs.foldl Draft.addBody d).Lays head (bodies ++ more) := by
  induction cs generalizing d bodies with
  | nil => exact ⟨[], rfl, by rwa [List.append_nil]⟩
  | cons c cs ih =>
      obtain ⟨more, hmore, hlays⟩ := ih (h.addBody c)
      refine ⟨(d.lines, c) :: more, by rw [List.map_cons, hmore], ?_⟩
      rwa [List.append_assoc] at hlays

end Draft.Lays

/-! ### Programs -/

/-- The import lines of cells, in order. -/
def importsOf (cells : List Cell) : List String := cells.flatMap fun c => (bodyOf c.source).hoisted

theorem not_mem_importsOf {cells : List Cell} {line : String} (h : line ∈ importsOf cells) :
    '\n' ∉ line.toList := by
  obtain ⟨c, -, hline⟩ := List.mem_flatMap.1 h
  exact not_mem_hoisted hline

/-- A program is a draft that lays the bodies of all code cells, and a tail. -/
theorem generate_lays (cells : List Cell) (forExport : Bool) :
    ∃ (d : Draft) (bodies : List (Nat × Cell)) (tail : String),
      generate cells forExport = (d.text ++ tail, SourceMap.ofEntries d.entries) ∧
      bodies.map Prod.snd = cells.filter Cell.isCode ∧
      d.Lays (importsOf (cells.filter Cell.isCode)) bodies := by
  have hstart := Draft.Lays.start (importsOf (cells.filter Cell.isCode)) fun _ => not_mem_importsOf
  cases forExport with
  | true =>
      obtain ⟨bodies, hbodies, hlays⟩ :=
        (hstart.add (s := exportHead) (closed_endLines _)).addBodies (cells.filter Cell.isCode)
      exact ⟨_, bodies, exportTail, rfl, hbodies, hlays⟩
  | false =>
      obtain ⟨bodies, hbodies, hlays⟩ :=
        (hstart.add (s := evaluationHead) (closed_endLines _)).addCells 0
          (cells.filter Cell.isCode)
      exact ⟨_, bodies, _, rfl, hbodies, hlays⟩

namespace Draft.Lays

variable {d : Draft} {head : List String} {bodies : List (Nat × Cell)}

/-- The first lines are those that the draft starts with. -/
theorem take_lines (h : d.Lays head bodies) (hhead : ∀ l ∈ head, '\n' ∉ l.toList)
    (tail : String) :
    (Text.splitOnChar '\n' (d.text ++ tail)).take head.length = head.map (· ++ "\r") := by
  obtain ⟨rest, hrest⟩ := h.starts
  rw [hrest, String.append_assoc, splitOnChar_endLines hhead]
  exact List.take_left' (List.length_map _)

/-- Each line of a body stands where it is said to. -/
theorem getElem?_lines (h : d.Lays head bodies) (tail : String) {b : Nat × Cell} (hb : b ∈ bodies)
    {k : Nat} {line : String} (hline : (Text.splitOnChar '\n' b.2.source)[k]? = some line) :
    (Text.splitOnChar '\n' (d.text ++ tail))[b.1 + k]? = some (bodyLine line ++ "\r") := by
  obtain ⟨before, after, htext, hclosed, hcount⟩ := h.placed b hb
  have hlength : (Text.endedLines before).length = b.1 := by
    rw [Text.length_endedLines, hcount]
  rw [htext, String.append_assoc, String.append_assoc, Text.splitOnChar_append hclosed, bodyText,
    splitOnChar_endLines fun _ => not_mem_lines_bodyOf, ← hlength, List.getElem?_append_right
    (Nat.le_add_right _ _), Nat.add_sub_cancel_left, lines_bodyOf, List.map_map]
  refine List.getElem?_append_left ?_ |>.trans ?_
  · obtain ⟨hk, -⟩ := List.getElem?_eq_some_iff.1 hline
    rwa [List.length_map]
  · rw [List.getElem?_map, hline]
    rfl

/-- The entries stand on lines of their own, in order. -/
theorem pairwise_entries (h : d.Lays head bodies) :
    d.entries.Pairwise fun e e' => e.line < e'.line := by
  rw [h.entries, List.pairwise_flatMap]
  constructor
  · intro b _
    rw [entriesAt_eq, List.pairwise_map]
    exact List.pairwise_lt_range.imp fun hlt => Nat.add_lt_add_left hlt b.1
  · refine h.ordered.imp ?_
    intro b c hle e he e' he'
    rw [entriesAt_eq] at he he'
    obtain ⟨k, hk, rfl⟩ := List.mem_map.1 he
    obtain ⟨k', -, rfl⟩ := List.mem_map.1 he'
    have hlt := List.mem_range.1 hk
    change b.1 + k < c.1 + k'
    omega

theorem ordered_entries (h : d.Lays head bodies) :
    d.entries.Pairwise fun e e' => e.place < e'.place :=
  h.pairwise_entries.imp fun hlt => Prod.Lex.toLex_lt_toLex.2 (Or.inl hlt)

/-- The entries of the bodies are those of the map's tokens. -/
theorem entries_tokens (h : d.Lays head bodies) :
    (SourceMap.ofEntries d.entries).tokens.map (SourceMap.ofEntries d.entries).entryOf
      = bodies.flatMap entriesAt := by
  rw [SourceMap.entries_ofEntries h.ordered_entries, h.entries]

/-- A token stands on a line of a body, at its start. -/
theorem token_in_body (h : d.Lays head bodies) {t : SourceMap.Token}
    (ht : t ∈ (SourceMap.ofEntries d.entries).tokens) :
    t.column = 0 ∧ ∃ b ∈ bodies, b.1 ≤ t.line ∧ t.line < b.1 + height b.2 := by
  have hmem := List.mem_map_of_mem (f := (SourceMap.ofEntries d.entries).entryOf) ht
  rw [h.entries_tokens, List.mem_flatMap] at hmem
  obtain ⟨b, hb, hentry⟩ := hmem
  rw [entriesAt_eq] at hentry
  obtain ⟨k, hk, heq⟩ := List.mem_map.1 hentry
  have hline : b.1 + k = t.line := congrArg SourceMap.Entry.line heq
  have hcolumn : 0 = t.column := congrArg SourceMap.Entry.column heq
  have hlt := List.mem_range.1 hk
  exact ⟨hcolumn.symm, b, hb, by omega, by omega⟩

/-- Every column of a line of a body is mapped to that line of its cell. -/
theorem mapLine_body (h : d.Lays head bodies) {b : Nat × Cell} (hb : b ∈ bodies) {k : Nat}
    (hk : k < height b.2) (column : Nat) :
    (SourceMap.ofEntries d.entries).mapLine (b.1 + k + 1) column = some ⟨b.2.id, k + 1, 0⟩ := by
  have hentry : (⟨b.1 + k, 0, k, 0, some (SourceMap.cellSource b.2.id)⟩ : SourceMap.Entry)
      ∈ bodies.flatMap entriesAt := by
    refine List.mem_flatMap.2 ⟨b, hb, ?_⟩
    rw [entriesAt_eq]
    exact List.mem_map.2 ⟨k, List.mem_range.2 hk, rfl⟩
  rw [← h.entries_tokens] at hentry
  obtain ⟨t, ht, heq⟩ := List.mem_map.1 hentry
  have hline : t.line = b.1 + k := congrArg SourceMap.Entry.line heq
  have hcolumn : t.column = 0 := congrArg SourceMap.Entry.column heq
  -- Tokens stand at the starts of lines, so none lies between this one and the place in question.
  have hfloor : (SourceMap.ofEntries d.entries).floor (b.1 + k) column = some t := by
    refine (SourceMap.floor_eq_some_iff (SourceMap.ordered_ofEntries h.ordered_entries) _ _ t).2
      ⟨ht, (t.place_le_iff _ _).2 (Or.inr ⟨hline, by omega⟩), ?_⟩
    intro u hu hle
    have hzero := (h.token_in_body hu).1
    have hplace := (u.place_le_iff _ _).1 hle
    exact (u.place_le_iff t.line t.column).2 (by omega)
  have hsource : (SourceMap.ofEntries d.entries).sourceOf t
      = some (SourceMap.cellSource b.2.id) := congrArg SourceMap.Entry.source? heq
  have hsourceLine : t.sourceLine = k := congrArg SourceMap.Entry.sourceLine heq
  have hsourceColumn : t.sourceColumn = 0 := congrArg SourceMap.Entry.sourceColumn heq
  rw [SourceMap.mapLine_of_floor hfloor hline
    (SourceMap.ranged_ofEntries h.ordered_entries ht) hsource, hsourceLine, hsourceColumn]

theorem mapLine_before (h : d.Lays head bodies) {line : Nat} (column : Nat)
    (hline : ∀ b ∈ bodies, line ≤ b.1) :
    (SourceMap.ofEntries d.entries).mapLine line column = none := by
  refine SourceMap.mapLine_of_find_eq_none fun l hl => ?_
  refine SourceMap.find_eq_none_of_before column fun t ht => ?_
  obtain ⟨-, b, hb, hle, -⟩ := h.token_in_body ht
  have hfirst := hline b hb
  omega

theorem mapLine_after (h : d.Lays head bodies) {line : Nat} (column : Nat)
    (hline : ∀ b ∈ bodies, b.1 + height b.2 < line) :
    (SourceMap.ofEntries d.entries).mapLine line column = none := by
  refine SourceMap.mapLine_of_find_eq_none fun l hl => ?_
  refine SourceMap.find_eq_none_of_after column fun t ht => ?_
  obtain ⟨-, b, hb, -, hlt⟩ := h.token_in_body ht
  have hlast := hline b hb
  omega

end Draft.Lays

/-- **The program, its imports and its map agree.**  The first lines are the imports of all code cells.
Each code cell has a line where its body starts: from there on stand its lines without the blanks at
their ends, imports left empty.  The tokens of the map are one for each of these lines, every column of
such a line is mapped to the line of the cell, and nothing is mapped before the first body or after the
last. -/
theorem generate_layout (cells : List Cell) (forExport : Bool) :
    let code := cells.filter Cell.isCode
    let imports := code.flatMap fun c =>
      ((Text.splitOnChar '\n' c.source).map Text.trimRight).filter Specifier.isImportLine
    let lines := Text.splitOnChar '\n' (generate cells forExport).1
    let map := (generate cells forExport).2
    lines.take imports.length = imports.map (· ++ "\r") ∧
    ∃ bodies : List (Nat × Cell), bodies.map Prod.snd = code ∧
      (∀ b ∈ bodies, ∀ k line, (Text.splitOnChar '\n' b.2.source)[k]? = some line →
        lines[b.1 + k]? = some (bodyLine line ++ "\r") ∧
          ∀ column, map.mapLine (b.1 + k + 1) column = some ⟨b.2.id, k + 1, 0⟩) ∧
      map.tokens.map (fun t => (t.line, t.column, map.sourceOf t, t.sourceLine, t.sourceColumn))
        = bodies.flatMap (fun b => (List.range (height b.2)).map fun k =>
            (b.1 + k, 0, some ("cell-" ++ b.2.id), k, 0)) ∧
      (∀ b ∈ bodies, imports.length ≤ b.1) ∧
      bodies.Pairwise (fun b c => b.1 + height b.2 ≤ c.1) ∧
      (∀ line column, (∀ b ∈ bodies, line ≤ b.1) → map.mapLine line column = none) ∧
      ∀ line column, (∀ b ∈ bodies, b.1 + height b.2 < line) →
        map.mapLine line column = none := by
  obtain ⟨d, bodies, tail, hgenerate, hbodies, hlays⟩ := generate_lays cells forExport
  intro code imports lines map
  have hlines : lines = Text.splitOnChar '\n' (d.text ++ tail) := by
    simp only [lines, hgenerate]
  have hmap : map = SourceMap.ofEntries d.entries := by
    simp only [map, hgenerate]
  rw [hlines, hmap]
  refine ⟨hlays.take_lines (fun _ => not_mem_importsOf) tail, bodies, hbodies, ?_, ?_, ?_,
    hlays.ordered, fun _ => hlays.mapLine_before, fun _ => hlays.mapLine_after⟩
  · intro b hb k line hline
    obtain ⟨hk, -⟩ := List.getElem?_eq_some_iff.1 hline
    exact ⟨hlays.getElem?_lines tail hb hline, hlays.mapLine_body hb hk⟩
  · have hentries := congrArg
      (List.map fun e : SourceMap.Entry => (e.line, e.column, e.source?, e.sourceLine, e.sourceColumn))
      hlays.entries_tokens
    rw [List.map_map, List.map_flatMap] at hentries
    refine hentries.trans (List.flatMap_congr fun b _ => ?_)
    rw [entriesAt_eq, List.map_map]
    rfl
  · exact fun b hb => (hlays.bounds b hb).1

end Program

end NotebookEngine
