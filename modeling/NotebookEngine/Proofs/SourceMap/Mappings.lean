/-
**Mappings are read back.**

The tokens of a map are written as differences, token by token and line by line.  What a difference is
written against is what it is read against, since reader and writer hold the same numbers after every
token; so a drift of one field, which would shift every later token, does not arise.

Main definitions:

* `SourceMap.Token.written` — what is written of a token: without a source, only where it stands;
* `SourceMap.Token.Fits` — the tokens whose numbers are words, and whose source and name exist;
* `SourceMap.differences` — the numbers that are written for a token;
* `SourceMap.readRest` — what is read of the rest of a line and of the lines after it.

Main results:

* `SourceMap.tokenOf_differences` — **a token is read back from its differences**;
* `SourceMap.tokensOfMappings_writeMappings` — **the tokens of a map are read back from its mappings**.
-/

import NotebookEngine.SourceMap.Printer
import NotebookEngine.SourceMap.Reader
import NotebookEngine.Proofs.SourceMap.Lookup
import NotebookEngine.Proofs.SourceMap.Vlq

set_option autoImplicit false

namespace NotebookEngine

/-! ### Pieces -/

namespace Text

theorem pieces_cons_sep (sep : Char) (cs : List Char) : pieces sep (sep :: cs) = [] :: pieces sep cs := by
  rw [pieces, if_pos rfl]

/-- Characters that are no separators lengthen the first piece. -/
theorem pieces_append {sep : Char} {p cs q : List Char} {qs : List (List Char)} (hp : sep ∉ p)
    (h : pieces sep cs = q :: qs) : pieces sep (p ++ cs) = (p ++ q) :: qs := by
  induction p with
  | nil => exact h
  | cons c p ih =>
      have hc : c ≠ sep := fun hc => hp (hc ▸ List.mem_cons_self)
      rw [List.cons_append, pieces, if_neg hc, ih fun hmem => hp (List.mem_cons_of_mem c hmem)]
      rfl

theorem pieces_replicate_append (sep : Char) (k : Nat) (cs : List Char) :
    pieces sep (List.replicate k sep ++ cs) = List.replicate k [] ++ pieces sep cs := by
  induction k with
  | zero => rfl
  | succ k ih => rw [List.replicate_succ, List.cons_append, pieces_cons_sep, ih]; rfl

end Text

namespace SourceMap

open Text (pieces)

variable {sources names : Nat}

/-! ### Tokens -/

/-- What is written of a token: without a source only where it stands, and never that it is a range. -/
def Token.written (t : Token) : Token :=
  match t.source? with
  | none => ⟨t.line, t.column, nowhere, nowhere, none, none, false⟩
  | some _ => { t with ranged := false }

/-- The numbers of the token are words of 32 bits, and it has one of the given numbers of sources and of
names, if any. -/
structure Token.Fits (sources names : Nat) (t : Token) : Prop where
  column : t.column < 2 ^ 32
  sourceLine : t.sourceLine < 2 ^ 32
  sourceColumn : t.sourceColumn < 2 ^ 32
  source : ∀ s ∈ t.source?, s < sources ∧ s < 2 ^ 32
  name : ∀ n ∈ t.name?, n < names ∧ n < 2 ^ 32

/-- The running numbers are words of 32 bits. -/
structure Running.Fits (r : Running) : Prop where
  column : r.column < 2 ^ 32
  source : r.source < 2 ^ 32
  sourceLine : r.sourceLine < 2 ^ 32
  sourceColumn : r.sourceColumn < 2 ^ 32
  name : r.name < 2 ^ 32

theorem Running.Fits.after {r : Running} (hr : r.Fits) {t : Token} (ht : t.Fits sources names) :
    (r.after t).Fits := by
  rw [Running.after]
  cases hsource : t.source? with
  | none => exact ⟨ht.column, hr.source, hr.sourceLine, hr.sourceColumn, hr.name⟩
  | some s =>
      refine ⟨ht.column, (ht.source s hsource).2, ht.sourceLine, ht.sourceColumn, ?_⟩
      cases hname : t.name? with
      | none => exact hr.name
      | some n => exact (ht.name n hname).2

@[simp] theorem Running.line_after (r : Running) (t : Token) : (r.after t).line = t.line := by
  rw [Running.after]
  cases t.source? <;> rfl

/-! ### Differences -/

/-- The numbers that are written for a token. -/
def differences (r : Running) (t : Token) : List Int :=
  ((t.column : Int) - r.column) ::
    match t.source? with
    | none => []
    | some s =>
      ((s : Int) - r.source) :: ((t.sourceLine : Int) - r.sourceLine) ::
        ((t.sourceColumn : Int) - r.sourceColumn) ::
        match t.name? with
        | none => []
        | some n => [(n : Int) - r.name]

theorem segment_eq (r : Running) (t : Token) : segment r t = (differences r t).flatMap Vlq.encode := by
  rw [segment, differences]
  cases t.source? with
  | none => rfl
  | some s => cases t.name? <;> simp [difference]

theorem segment_ne_nil (r : Running) (t : Token) : segment r t ≠ [] := by
  have hencode : ∀ i, Vlq.encode i ≠ [] := by
    intro i
    rw [Vlq.encode, Vlq.groups]
    split <;> simp
  rw [segment, difference]
  exact fun h => hencode _ (List.append_eq_nil_iff.1 h).1

/-- No separator is written in a segment. -/
theorem not_mem_segment (r : Running) (t : Token) : ',' ∉ segment r t ∧ ';' ∉ segment r t := by
  have hplain : ∀ c ∈ segment r t, c ≠ ',' ∧ c ≠ ';' := by
    intro c hc
    rw [segment_eq] at hc
    obtain ⟨i, -, hi⟩ := List.mem_flatMap.1 hc
    exact (Vlq.mem_encode hi).2
  exact ⟨fun h => (hplain _ h).1 rfl, fun h => (hplain _ h).2 rfl⟩

theorem natAbs_lt {a b : Nat} (ha : a < 2 ^ 32) (hb : b < 2 ^ 32) : ((a : Int) - b).natAbs < 2 ^ 58 := by
  omega

theorem differences_lt {r : Running} (hr : r.Fits) {t : Token} (ht : t.Fits sources names) :
    ∀ i ∈ differences r t, i.natAbs < 2 ^ 58 := by
  refine List.forall_mem_cons.2 ⟨natAbs_lt ht.column hr.column, ?_⟩
  cases hsource : t.source? with
  | none => nofun
  | some s =>
      refine List.forall_mem_cons.2 ⟨natAbs_lt (ht.source s hsource).2 hr.source, ?_⟩
      refine List.forall_mem_cons.2 ⟨natAbs_lt ht.sourceLine hr.sourceLine, ?_⟩
      refine List.forall_mem_cons.2 ⟨natAbs_lt ht.sourceColumn hr.sourceColumn, ?_⟩
      cases hname : t.name? with
      | none => nofun
      | some n => exact List.forall_mem_singleton.2 (natAbs_lt (ht.name n hname).2 hr.name)

theorem decode_segment {r : Running} (hr : r.Fits) {t : Token} (ht : t.Fits sources names) :
    Vlq.decode (segment r t) = .ok (differences r t) := by
  rw [segment_eq]
  exact Vlq.decode_flatMap_encode (differences_lt hr ht)

/-! ### One token -/

/-- The numbers that the next token is read against are those it is written against. -/
def Running.reading (r : Running) : Reading := ⟨r.column, r.source, r.sourceLine, r.sourceColumn, r.name⟩

/-- A difference is undone, whatever it is against. -/
theorem moved_sub {new : Nat} (h : new < 2 ^ 32) (old : Nat) : moved old ((new : Int) - old) = new := by
  rw [moved, Nat.pow_eq]
  omega

/-- **A token is read back from its differences**, and what the next one is read against is what it is
written against. -/
theorem tokenOf_differences (r : Running) {t : Token} (ht : t.Fits sources names) :
    tokenOf sources names t.line false r.reading (differences r t) =
      .ok (t.written, (r.after t).reading) := by
  obtain ⟨line, column, sourceLine, sourceColumn, source?, name?, ranged⟩ := t
  have hcolumn : moved r.column ((column : Int) - r.column) = column := moved_sub ht.column _
  have hline : moved r.sourceLine ((sourceLine : Int) - r.sourceLine) = sourceLine :=
    moved_sub ht.sourceLine _
  have hplace : moved r.sourceColumn ((sourceColumn : Int) - r.sourceColumn) = sourceColumn :=
    moved_sub ht.sourceColumn _
  cases source? with
  | none => simp only [differences, tokenOf, Running.reading, Running.after, Token.written, hcolumn]
  | some s =>
      obtain ⟨hs, hword⟩ := ht.source s rfl
      have hsource := moved_sub hword r.source
      have hknown : ¬ sources ≤ s := Nat.not_le.2 hs
      cases name? with
      | none =>
          simp only [differences, tokenOf, Running.reading, Running.after, Token.written, hcolumn, hline,
            hplace, hsource, ge_iff_le, if_neg hknown]
      | some n =>
          obtain ⟨hn, hword⟩ := ht.name n rfl
          have hname := moved_sub hword r.name
          have hnamed : ¬ names ≤ n := Nat.not_le.2 hn
          simp only [differences, tokenOf, Running.reading, Running.after, Token.written, hcolumn, hline,
            hplace, hsource, hname, ge_iff_le, if_neg hknown, if_neg hnamed, Option.getD_some]

/-- The segment of a token, in front of others of its line. -/
theorem tokensOfLine_segment {r : Running} (hr : r.Fits) {t : Token} (ht : t.Fits sources names)
    (ss : List (List Char)) :
    tokensOfLine sources names t.line [] r.reading (segment r t :: ss) =
      (do
        let (ts, r) ← tokensOfLine sources names t.line [] (r.after t).reading ss
        return (t.written :: ts, r)) := by
  have hsome : (segment r t).isEmpty = false := by
    rw [List.isEmpty_eq_false_iff]
    exact segment_ne_nil r t
  rw [tokensOfLine, if_neg (by rw [hsome]; exact Bool.false_ne_true), decode_segment hr ht]
  simp only [List.headD_nil, List.tail_nil, tokenOf_differences r ht]
  rfl

/-! ### Lines -/

/-- What is read of the rest of a line and of the lines after it, none of them with ranges. -/
def readRest (sources names line : Nat) (r : Reading) (ss ls : List (List Char)) :
    Except Fault (List Token) := do
  let (ts, r) ← tokensOfLine sources names line [] r ss
  return ts ++ (← tokensOfLines sources names (line + 1) r ls [])

/-- Nothing is left of the line. -/
theorem readRest_nil (line : Nat) (r : Reading) (ls : List (List Char)) :
    readRest sources names line r [] ls = tokensOfLines sources names (line + 1) r ls [] := by
  cases h : tokensOfLines sources names (line + 1) r ls [] <;>
    simp [readRest, tokensOfLine, h, bind, Except.bind, pure, Except.pure]

theorem readRest_segment {r : Running} (hr : r.Fits) {t : Token} (ht : t.Fits sources names)
    (ss ls : List (List Char)) :
    readRest sources names t.line r.reading (segment r t :: ss) ls =
      (readRest sources names t.line (r.after t).reading ss ls).map (t.written :: ·) := by
  rw [readRest, readRest, tokensOfLine_segment hr ht]
  cases tokensOfLine sources names t.line [] (r.after t).reading ss with
  | error f => rfl
  | ok read =>
      obtain ⟨ts, r'⟩ := read
      cases h : tokensOfLines sources names (t.line + 1) r' ls [] <;>
        simp [h, bind, Except.bind, pure, Except.pure, Except.map]

/-- Lines without ranges are read alike whether the range text ends before them or not. -/
theorem tokensOfLines_blank (line : Nat) (r : Reading) (ls : List (List Char)) :
    tokensOfLines sources names line r ls [[]] = tokensOfLines sources names line r ls [] := by
  cases ls with
  | nil => rfl
  | cons l ls => rfl

/-- Empty lines are passed over. -/
theorem tokensOfLines_replicate (k line : Nat) (r : Reading) (ls : List (List Char)) :
    tokensOfLines sources names line r (List.replicate k [] ++ ls) [] =
      tokensOfLines sources names (line + k) r ls [] := by
  induction k generalizing line with
  | zero => rfl
  | succ k ih =>
      rw [List.replicate_succ, List.cons_append, tokensOfLines, List.isEmpty_nil, if_pos rfl, List.tail_nil,
        ih, Nat.add_assoc, Nat.add_comm 1 k]

/-- A line that is not empty is read from its first column. -/
theorem tokensOfLines_cons {l : List Char} (hl : l ≠ []) (line : Nat) (r : Reading)
    (ls : List (List Char)) :
    tokensOfLines sources names line r (l :: ls) [] =
      readRest sources names line { r with column := 0 } (pieces ',' l) ls := by
  have hsome : l.isEmpty = false := List.isEmpty_eq_false_iff.2 hl
  have hmarks : rangeMarks (Text.toBytes (String.ofList (([] : List (List Char)).headD []))) = .ok [] := by
    rw [List.headD_nil, Text.toBytes_ofList (List.forall_mem_nil _)]
    rfl
  rw [tokensOfLines, if_neg (by rw [hsome]; exact Bool.false_ne_true), hmarks, readRest]
  rfl

/-! ### All tokens -/

/-- The text goes on behind a segment of the line, and is read as the tokens. -/
def GoesOn (sources names line : Nat) (r : Reading) (text : List Char) (ts : List Token) : Prop :=
  ∃ l ls ss, pieces ';' text = l :: ls ∧ pieces ',' l = [] :: ss ∧
    readRest sources names line r ss ls = .ok ts

section Segments

variable {r : Running} {t : Token} {text : List Char} {ts : List Token}

/-- A segment is completed by a text that goes on behind it. -/
theorem GoesOn.pieces_segment (r : Running)
    (h : GoesOn sources names t.line (r.after t).reading text ts) :
    ∃ l ls ss, pieces ';' (segment r t ++ text) = l :: ls ∧ pieces ',' l = segment r t :: ss ∧ l ≠ [] ∧
      readRest sources names t.line (r.after t).reading ss ls = .ok ts := by
  obtain ⟨l, ls, ss, hlines, hsegments, hread⟩ := h
  obtain ⟨hcomma, hsemicolon⟩ := not_mem_segment r t
  have hpieces := Text.pieces_append hcomma hsegments
  rw [List.append_nil] at hpieces
  refine ⟨segment r t ++ l, ls, ss, Text.pieces_append hsemicolon hlines, hpieces, ?_, hread⟩
  exact fun hnil => segment_ne_nil r t (List.append_eq_nil_iff.1 hnil).1

/-- A token behind another one of its line. -/
theorem goesOn_comma (hr : r.Fits) (ht : t.Fits sources names)
    (h : GoesOn sources names t.line (r.after t).reading text ts) :
    GoesOn sources names t.line r.reading (',' :: (segment r t ++ text)) (t.written :: ts) := by
  obtain ⟨l, ls, ss, hlines, hsegments, -, hread⟩ := h.pieces_segment r
  refine ⟨',' :: l, ls, segment r t :: ss, Text.pieces_append (p := [',']) (by decide) hlines, ?_, ?_⟩
  · rw [Text.pieces_cons_sep, hsegments]
  · rw [readRest_segment hr ht, hread]
    rfl

/-- A token that opens its line. -/
theorem tokensOfLines_segment (hr : r.Fits) (ht : t.Fits sources names)
    (h : GoesOn sources names t.line (r.after t).reading text ts) :
    tokensOfLines sources names t.line r.reading
      (pieces ';' (segment { r with column := 0 } t ++ text)) [] = .ok (t.written :: ts) := by
  have hstart : Running.Fits { r with column := 0 } :=
    ⟨Nat.two_pow_pos 32, hr.source, hr.sourceLine, hr.sourceColumn, hr.name⟩
  obtain ⟨l, ls, ss, hlines, hsegments, hne, hread⟩ := GoesOn.pieces_segment { r with column := 0 } h
  rw [hlines, tokensOfLines_cons hne, hsegments]
  have hsegment := readRest_segment hstart ht ss ls
  rw [hread] at hsegment
  exact hsegment

/-- A token that opens a later line. -/
theorem goesOn_semicolons (hr : r.Fits) (ht : t.Fits sources names) (hline : r.line < t.line)
    (h : GoesOn sources names t.line (r.after t).reading text ts) :
    GoesOn sources names r.line r.reading
      (List.replicate (t.line - r.line) ';' ++ (segment { r with column := 0 } t ++ text))
      (t.written :: ts) := by
  obtain ⟨k, hk⟩ : ∃ k, t.line = r.line + 1 + k := ⟨t.line - (r.line + 1), by omega⟩
  have hcount : t.line - r.line = k + 1 := by omega
  refine ⟨[], List.replicate k [] ++ pieces ';' (segment { r with column := 0 } t ++ text), [], ?_, rfl, ?_⟩
  · rw [hcount, Text.pieces_replicate_append]
    rfl
  · rw [readRest_nil, tokensOfLines_replicate, ← hk]
    exact tokensOfLines_segment hr ht h

end Segments

/-- What is written for the tokens after one goes on behind its segment. -/
theorem goesOn_mappingsFrom {last : Token} {ts : List Token}
    (hordered : (last :: ts).Pairwise fun t u => t.place < u.place) (hts : ∀ t ∈ ts, t.Fits sources names)
    {r : Running} (hr : r.Fits) (hline : r.line = last.line) :
    GoesOn sources names r.line r.reading (mappingsFrom r (some last) ts) (ts.map Token.written) := by
  induction ts generalizing last r with
  | nil =>
      refine ⟨[], [], [], rfl, rfl, ?_⟩
      rw [readRest_nil]
      rfl
  | cons t ts ih =>
      obtain ⟨hlast, hordered⟩ := List.pairwise_cons.1 hordered
      obtain ⟨ht, hts⟩ := List.forall_mem_cons.1 hts
      have hlt := hlast t List.mem_cons_self
      have hrest := ih hordered hts (hr.after ht) (r.line_after t)
      rw [r.line_after] at hrest
      rw [mappingsFrom]
      split
      next hsame =>
        -- Two tokens of one place would be written once, but there are none.
        have hne : some last ≠ some t := fun h => lt_irrefl t.place (by rwa [Option.some.inj h] at hlt)
        rw [if_neg hne, Option.isSome_some, if_pos rfl, List.append_assoc, ← hsame]
        exact goesOn_comma hr ht hrest
      next hother =>
        have hle : last.line < t.line ∨ last.line = t.line ∧ last.column < t.column :=
          (last.place_lt_iff t.line t.column).1 hlt
        rw [List.append_assoc]
        exact goesOn_semicolons hr ht (by omega) hrest

/-- **The tokens of a map are read back from its mappings**, if no two stand at one place.  There are no
ranges among them. -/
theorem tokensOfMappings_writeMappings {ts : List Token}
    (hordered : ts.Pairwise fun t u => t.place < u.place) (hts : ∀ t ∈ ts, t.Fits sources names) :
    tokensOfMappings sources names (writeMappings ts) "" = .ok (ts.map Token.written) := by
  have hzero : Running.Fits ⟨0, 0, 0, 0, 0, 0⟩ := ⟨by decide, by decide, by decide, by decide, by decide⟩
  have hblank : tokensOfMappings sources names (writeMappings ts) "" =
      tokensOfLines sources names 0 (Running.reading ⟨0, 0, 0, 0, 0, 0⟩)
        (pieces ';' (mappingsFrom ⟨0, 0, 0, 0, 0, 0⟩ none ts)) [] := by
    rw [tokensOfMappings, writeMappings, String.toList_ofList]
    exact tokensOfLines_blank _ _ _
  rw [hblank]
  cases ts with
  | nil => rfl
  | cons t ts =>
      obtain ⟨ht, hts⟩ := List.forall_mem_cons.1 hts
      have hrest := goesOn_mappingsFrom hordered hts (hzero.after ht) (Running.line_after _ t)
      rw [Running.line_after] at hrest
      rw [mappingsFrom]
      split
      next hfirst =>
        rw [if_neg (Option.some_ne_none t).symm, Option.isSome_none, if_neg Bool.false_ne_true, List.nil_append]
        have hopen := tokensOfLines_segment hzero ht hrest
        rwa [hfirst] at hopen
      next hlater =>
        rw [List.append_assoc, Text.pieces_replicate_append, tokensOfLines_replicate, Nat.zero_add,
          Nat.sub_zero]
        exact tokensOfLines_segment hzero ht hrest

end SourceMap

end NotebookEngine
