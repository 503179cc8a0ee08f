/-
**Source maps: writing and reading.**

A map that was built has neither names nor ranges, so its text holds its sources and its mappings and
nothing else.  What is read of the text has the same sources and, place by place, tokens that lead to the
same source places; so it answers every question as the map does.

Main definitions:

* `SourceMap.Addition` — what is added to a map that is built;
* `SourceMap.Built` — the maps that are built from additions, and those that are merged;
* `SourceMap.InWords` — the maps whose numbers are words of 32 bits.

Main results:

* `SourceMap.toJson_ofEntries` — what the text of a map that was built holds;
* `SourceMap.read_write_ofEntries` — what is read of it;
* `SourceMap.read_write_keeps_lookups` — **the text of a map keeps every answer**.
-/

import NotebookEngine.Proofs.Json.Decoding
import NotebookEngine.Proofs.SourceMap.Mappings
import NotebookEngine.Proofs.SourceMap.Merge

set_option autoImplicit false

namespace NotebookEngine

namespace SourceMap

/-! ### Maps that are built -/

/-- What is added to a map: a single entry, or the lines of a text. -/
inductive Addition where
  | entry (e : Entry)
  | lines (source text : String) (start column : Nat)

/-- The entries that are added. -/
def Addition.entries : Addition → List Entry
  | .entry e => [e]
  | .lines source text start column => linesFrom source text start column

/-- The maps that are built from additions, and those that are merged from any two maps. -/
inductive Built : SourceMap → Prop
  | additions (as : List Addition) : Built (ofEntries (as.flatMap Addition.entries))
  | merge (first second : SourceMap) : Built (merge first second)

theorem Built.exists_entries {m : SourceMap} (h : m.Built) : ∃ es, m = ofEntries es := by
  cases h with
  | additions as => exact ⟨_, rfl⟩
  | merge first second => exact ⟨_, merge_eq first second⟩

/-- The numbers of the map are words of 32 bits. -/
def InWords (m : SourceMap) : Prop :=
  ∀ t ∈ m.tokens, t.column < 2 ^ 32 ∧ t.sourceLine < 2 ^ 32 ∧ t.sourceColumn < 2 ^ 32 ∧
    ∀ s ∈ t.source?, s < 2 ^ 32

/-- The tokens of entries have no names and no ranges, and their sources are among those that are named. -/
theorem plain_of_mem_tokensOf (sources : List String) (es : List Entry) :
    ∀ t ∈ (tokensOf sources es).1, t.name? = none ∧ t.ranged = false ∧
      ∀ s ∈ t.source?, s < (tokensOf sources es).2.length := by
  induction es generalizing sources with
  | nil => nofun
  | cons e es ih =>
      obtain ⟨line, column, sourceLine, sourceColumn, source?⟩ := e
      cases source? with
      | none => exact List.forall_mem_cons.2 ⟨⟨rfl, rfl, nofun⟩, ih sources⟩
      | some name =>
          refine List.forall_mem_cons.2 ⟨⟨rfl, rfl, ?_⟩, ih (numberIn name sources).2⟩
          intro s hs
          obtain ⟨-, hname⟩ := numberIn_spec name sources
          obtain ⟨hextends, -⟩ := tokensOf_spec (numberIn name sources).2 es
          cases hs
          exact (List.getElem?_eq_some_iff.1 (getElem?_of_initial hextends hname)).1

section Entries

variable (es : List Entry)

theorem plain_of_mem_ofEntries {t : Token} (ht : t ∈ (ofEntries es).tokens) :
    t.name? = none ∧ t.ranged = false ∧ ∀ s ∈ t.source?, s < (ofEntries es).ownSources.length :=
  plain_of_mem_tokensOf [] es t (List.mem_mergeSort.1 ht)

theorem fits_of_mem_ofEntries (hwords : (ofEntries es).InWords) {t : Token}
    (ht : t ∈ (ofEntries es).tokens) : t.Fits (ofEntries es).ownSources.length 0 := by
  obtain ⟨hcolumn, hline, hplace, hsource⟩ := hwords t ht
  obtain ⟨hname, -, hknown⟩ := plain_of_mem_ofEntries es ht
  refine ⟨hcolumn, hline, hplace, fun s hs => ⟨hknown s hs, hsource s hs⟩, ?_⟩
  rw [hname]
  nofun

/-- **The text of a map that was built holds its sources and its mappings.** -/
theorem toJson_ofEntries :
    (ofEntries es).toJson = .obj [("version", .int 3), ("sources", .arr ((ofEntries es).ownSources.map .str)),
      ("names", .arr []), ("mappings", .str (writeMappings (ofEntries es).tokens))] := by
  have hranges : writeRanges (ofEntries es).tokens = none := by
    have hany : (ofEntries es).tokens.any (·.ranged) = false := by
      rw [List.any_eq_false]
      intro t ht
      rw [(plain_of_mem_ofEntries es ht).2.1]
      exact Bool.false_ne_true
    rw [writeRanges, hany, if_neg Bool.false_ne_true]
  have hcontents : contentField (ofEntries es).ownSources.length (ofEntries es).contents = [] := by
    refine if_neg ?_
    rw [Bool.not_eq_true, List.any_eq_false]
    intro text htext
    obtain ⟨i, -, rfl⟩ := List.mem_map.1 htext
    exact Bool.false_ne_true
  rw [toJson, hranges, hcontents]
  rfl

/-- The fields that are read of it. -/
def fieldsOf (m : SourceMap) : Fields :=
  { Fields.empty with
    version := some (some 3)
    sources := some (some (m.ownSources.map some))
    names := some (some [])
    mappings := some (some (writeMappings m.tokens)) }

open Json.Reader in
theorem decodes_toJson_ofEntries : Decodes reader (ofEntries es).toJson (fieldsOf (ofEntries es)) := by
  have hsources : List.Forall₂ (Decodes optionalText) ((ofEntries es).ownSources.map .str)
      ((ofEntries es).ownSources.map some) := by
    rw [List.forall₂_map_left_iff, List.forall₂_map_right_iff]
    exact List.forall₂_same.2 fun s _ => (decodes_text s).optional
  have hversion : Decodes nat32 (.int 3) 3 := decodes_natBelow (n := 3) (by decide) (by decide) "u32"
  rw [toJson_ofEntries]
  refine decodes_record ?_ (gives_pure _) _ _
  refine .cons (t := { Fields.empty with version := some (some 3) }) ?_ <|
    .cons (t := { Fields.empty with
      version := some (some 3)
      sources := some (some ((ofEntries es).ownSources.map some)) }) ?_ <|
    .cons (t := { Fields.empty with
      version := some (some 3)
      sources := some (some ((ofEntries es).ownSources.map some))
      names := some (some []) }) ?_ <|
    .cons ?_ (.nil _)
  · exact fun hcolon hcs hrest => (hversion.optional.known "version" hcolon hcs hrest).map
  · exact fun hcolon hcs hrest => ((decodes_listOf hsources).optional.known "sources" hcolon hcs hrest).map
  · exact fun hcolon hcs hrest => ((decodes_listOf .nil).optional.known "names" hcolon hcs hrest).map
  · exact fun hcolon hcs hrest => ((decodes_text _).optional.known "mappings" hcolon hcs hrest).map

end Entries

/-! ### What is read -/

/-- What is read of the text of a map that was built. -/
def reread (m : SourceMap) : SourceMap := { m with tokens := m.tokens.map Token.written }

@[simp] theorem Token.spot_written (t : Token) : t.written.spot = t.spot := by
  rw [Token.written]
  cases t.source? <;> rfl

@[simp] theorem Token.place_written (t : Token) : t.written.place = t.place := by
  rw [Token.written]
  cases t.source? <;> rfl

theorem Token.ranged_written (t : Token) : t.written.ranged = false := by
  rw [Token.written]
  cases t.source? <;> rfl

/-- A token that is written stands for the same source place. -/
theorem origin_written (m : SourceMap) (t : Token) : m.reread.origin t.written = m.origin t := by
  obtain ⟨line, column, sourceLine, sourceColumn, source?, name?, ranged⟩ := t
  cases source? <;> rfl

section Rereading

variable {m : SourceMap}

theorem ordered_reread (h : m.Ordered) : m.reread.Ordered := by
  refine List.pairwise_map.2 (h.imp ?_)
  intro t u hlt
  rwa [t.place_written, u.place_written]

/-- **The map that is read answers as the map that was written.** -/
theorem locate_reread (h : m.Ordered) (hranged : ∀ t ∈ m.tokens, t.ranged = false) (line column : Nat) :
    m.reread.locate line column = m.locate line column := by
  cases line with
  | zero => rfl
  | succ line =>
      have hplain : ∀ t ∈ m.reread.tokens, t.ranged = false := by
        intro t ht
        obtain ⟨u, -, rfl⟩ := List.mem_map.1 ht
        exact u.ranged_written
      have hspot : (fun t : Token => t.written.spot) = Token.spot := funext Token.spot_written
      have horigin : (fun t : Token => m.reread.origin t.written) = m.origin := funext m.origin_written
      rw [locate_eq_origin (ordered_reread h) hplain, locate_eq_origin h hranged]
      calc (nearest Token.spot (m.tokens.map Token.written) line column).bind m.reread.origin
          = (nearest (fun t => t.written.spot) m.tokens line column).bind
              fun t => m.reread.origin t.written := by rw [nearest_map, Option.bind_map]; rfl
        _ = (nearest Token.spot m.tokens line column).bind m.origin := by rw [hspot, horigin]

theorem inOrder_written (h : m.Ordered) : inOrder (m.tokens.map Token.written) = m.tokens.map Token.written := by
  refine List.mergeSort_of_pairwise ((ordered_reread h).imp fun hlt => ?_)
  exact (Token.notAfter_iff _ _).2 (le_of_lt hlt)

end Rereading

/-- No document of a map begins with a character that guards it. -/
theorem withoutGuard_write (m : SourceMap) : withoutGuard m.write.toList = .ok m.write.toList := by
  have hopen : ∃ cs, m.write.toList = '\x7b' :: cs := by
    rw [write, toJson, Json.compact, String.toList_append, String.toList_append]
    exact ⟨_, rfl⟩
  obtain ⟨cs, hcs⟩ := hopen
  rw [hcs]
  rfl

/-- **What is read of the text of a map that was built.** -/
theorem read_write_ofEntries {es : List Entry} (hordered : (ofEntries es).Ordered)
    (hwords : (ofEntries es).InWords) : read (ofEntries es).write = .ok (ofEntries es).reread := by
  have hsources : ((ofEntries es).ownSources.map some).map (fun s : Option String => s.getD "") =
      (ofEntries es).ownSources := by
    rw [List.map_map]
    exact List.map_id _
  have htokens : tokensOfMappings (ofEntries es).ownSources.length 0 (writeMappings (ofEntries es).tokens) "" =
      .ok ((ofEntries es).tokens.map Token.written) :=
    tokensOfMappings_writeMappings hordered fun t ht => fits_of_mem_ofEntries es hwords ht
  have hfields : ofFields (fieldsOf (ofEntries es)) = .ok (ofEntries es).reread := by
    have hplain : ofPlainFields (fieldsOf (ofEntries es)) = .ok (ofEntries es).reread := by
      have hignored : (([] : List Nat).mergeSort (· ≤ ·)).eraseDups = [] := by simp
      simp only [ofPlainFields, fieldsOf, Fields.empty, Option.join_some, Option.getD_some, hsources,
        List.map_nil, List.length_nil, Option.join_none, Option.getD_none, htokens, hignored, bind,
        Except.bind, inOrder_written hordered]
      rfl
    rw [ofFields, hplain]
    rfl
  have hdocument : Json.Reader.run (Json.Reader.wholeDocument reader) (ofEntries es).write =
      .ok (fieldsOf (ofEntries es)) :=
    Json.Reader.run_wholeDocument (decodes_toJson_ofEntries es) (Json.spells_compact _)
  rw [read, withoutGuard_write]
  simp only [bind, Except.bind, String.ofList_toList, hdocument]
  exact hfields

/-- **The text of a map keeps every answer.**  Take a map that was built or merged, no two tokens of which
stand at one place and whose numbers are words.  Its text is read, and what is read has the same sources
in the same order and answers every question alike. -/
theorem read_write_keeps_lookups {m : SourceMap} (h : m.Built) (hdistinct : m.Distinct) (hwords : m.InWords) :
    ∃ m', read m.write = .ok m' ∧ m'.sources = m.sources ∧
      ∀ line column, m'.locate line column = m.locate line column ∧
        m'.mapLine line column = m.mapLine line column := by
  obtain ⟨es, rfl⟩ := h.exists_entries
  have hordered := ordered_of_sorted (sorted_ofEntries es) hdistinct
  have hranged : ∀ t ∈ (ofEntries es).tokens, t.ranged = false := fun t ht => (plain_of_mem_ofEntries es ht).2.1
  refine ⟨_, read_write_ofEntries hordered hwords, rfl, fun line column => ?_⟩
  have hlocate := locate_reread hordered hranged line column
  exact ⟨hlocate, by rw [mapLine, mapLine, hlocate]⟩

/-- The lines of two cells and, between them, a place that comes from no source. -/
def cellLines : List Addition :=
  [.lines "cell-a" "x\ny" 2 0, .entry ⟨4, 3, 0, 0, none⟩, .lines "cell-\"b" "z\nw" 6 4]

/-- The last line of the second cell is found in the map that is read. -/
theorem read_write_cellLines :
    (ofEntries (cellLines.flatMap Addition.entries)).Distinct ∧
      (ofEntries (cellLines.flatMap Addition.entries)).InWords ∧
      ∃ m, read (ofEntries (cellLines.flatMap Addition.entries)).write = .ok m ∧
        m.sources = ["cell-a", "cell-\"b"] ∧ m.mapLine 8 9 = some ⟨"\"b", 2, 0⟩ := by
  have htokens : (ofEntries (cellLines.flatMap Addition.entries)).tokens =
      [⟨2, 0, 0, 0, some 0, none, false⟩, ⟨3, 0, 1, 0, some 0, none, false⟩, ⟨4, 3, 0, 0, none, none, false⟩,
        ⟨6, 4, 0, 0, some 1, none, false⟩, ⟨7, 4, 1, 0, some 1, none, false⟩] := by
    rw [tokens_ofEntries (by decide)]
    rfl
  have hdistinct : (ofEntries (cellLines.flatMap Addition.entries)).Distinct := by
    rw [Distinct, htokens]
    decide
  have hwords : (ofEntries (cellLines.flatMap Addition.entries)).InWords := by
    rw [InWords, htokens]
    decide
  obtain ⟨m, hread, hsources, hlookups⟩ :=
    read_write_keeps_lookups (Built.additions cellLines) hdistinct hwords
  refine ⟨hdistinct, hwords, m, hread, hsources, ?_⟩
  rw [(hlookups 8 9).2]
  refine mapLine_of_floor (t := ⟨7, 4, 1, 0, some 1, none, false⟩) ?_ rfl rfl rfl
  rw [floor, htokens]
  rfl

end SourceMap

end NotebookEngine
