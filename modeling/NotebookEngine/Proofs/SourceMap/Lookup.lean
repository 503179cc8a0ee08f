/-
**What a source map answers.**

The tokens of a map stand in the order of their generated places.  When no two share a place, the token
at or before a place is the last of those not after it, and the first token of a line is the first of
those not before that line.

Main definitions:

* `SourceMap.Token.place` — where a token stands in the generated text;
* `SourceMap.Ordered` — the maps whose tokens stand in order, no two at one place;
* `SourceMap.entryOf` — a token with the name of its source.

Main results:

* `SourceMap.floor_eq_some_iff`, `SourceMap.floor_eq_none_iff` — the token at or before a place;
* `SourceMap.find_eq_none_of_before`, `SourceMap.find_eq_none_of_after` — lines without an answer;
* `SourceMap.entries_ofEntries` — a map made of entries in order has exactly their tokens;
* `SourceMap.mapLine_of_floor` — the cell line of a place from the token at or before it.
-/

import Mathlib.Data.List.Basic
import Mathlib.Data.Prod.Lex
import NotebookEngine.SourceMap.Basic

set_option autoImplicit false

namespace NotebookEngine

namespace SourceMap

/-! ### The first and the last of a list in order -/

section Extremes

variable {α β : Type} [LinearOrder β] {f : α → β} {as : List α}

theorem find?_eq_some_iff_least (h : as.Pairwise fun a b => f a < f b) (p : α → Bool) (a : α) :
    as.find? p = some a ↔ a ∈ as ∧ p a = true ∧ ∀ b ∈ as, p b = true → f a ≤ f b := by
  induction as with
  | nil => simp
  | cons c as ih =>
      obtain ⟨hc, has⟩ := List.pairwise_cons.1 h
      cases hp : p c with
      | true =>
          rw [List.find?_cons_of_pos hp]
          constructor
          · intro hca
            cases hca
            refine ⟨List.mem_cons_self, hp, ?_⟩
            intro b hb _
            rcases List.mem_cons.1 hb with rfl | hb
            · exact le_refl _
            · exact le_of_lt (hc b hb)
          · rintro ⟨ha, -, hleast⟩
            rcases List.mem_cons.1 ha with rfl | ha
            · rfl
            · exact absurd (hleast c List.mem_cons_self hp) (not_le_of_gt (hc a ha))
      | false =>
          have hne : ¬ p c = true := by rw [hp]; exact Bool.false_ne_true
          rw [List.find?_cons_of_neg hne, ih has]
          constructor
          · rintro ⟨ha, hpa, hleast⟩
            refine ⟨List.mem_cons_of_mem c ha, hpa, ?_⟩
            intro b hb hpb
            rcases List.mem_cons.1 hb with rfl | hb
            · exact absurd hpb hne
            · exact hleast b hb hpb
          · rintro ⟨ha, hpa, hleast⟩
            rcases List.mem_cons.1 ha with rfl | ha
            · exact absurd hpa hne
            · exact ⟨ha, hpa, fun b hb => hleast b (List.mem_cons_of_mem c hb)⟩

theorem getLast?_eq_some_iff_greatest (h : as.Pairwise fun a b => f a < f b) (a : α) :
    as.getLast? = some a ↔ a ∈ as ∧ ∀ b ∈ as, f b ≤ f a := by
  have hreverse : as.reverse.Pairwise fun a b => OrderDual.toDual (f a) < OrderDual.toDual (f b) :=
    List.pairwise_reverse.2 h
  have hfirst := find?_eq_some_iff_least hreverse (fun _ => true) a
  rw [← List.head?_reverse]
  have hhead : as.reverse.head? = as.reverse.find? fun _ => true := by
    cases as.reverse with
    | nil => rfl
    | cons c cs => rfl
  rw [hhead, hfirst]
  simp

end Extremes

/-! ### Places -/

/-- Where a token stands in the generated text. -/
def Token.place (t : Token) : ℕ ×ₗ ℕ := toLex (t.line, t.column)

theorem Token.place_lt_iff (t : Token) (line column : Nat) :
    t.place < toLex (line, column) ↔ t.line < line ∨ (t.line = line ∧ t.column < column) :=
  Prod.Lex.toLex_lt_toLex

theorem Token.place_le_iff (t : Token) (line column : Nat) :
    t.place ≤ toLex (line, column) ↔ t.line < line ∨ (t.line = line ∧ t.column ≤ column) :=
  Prod.Lex.toLex_le_toLex

theorem Token.before_iff (t : Token) (line column : Nat) :
    t.before line column = true ↔ t.place < toLex (line, column) := by
  rw [Token.place_lt_iff]
  simp [Token.before]

theorem Token.isAt_iff (t : Token) (line column : Nat) :
    t.isAt line column = true ↔ t.place = toLex (line, column) := by
  rw [Token.place, EmbeddingLike.apply_eq_iff_eq, Prod.mk.injEq]
  simp [Token.isAt]

theorem Token.notAfter_iff (t u : Token) : t.notAfter u = true ↔ t.place ≤ u.place := by
  rw [Token.place.eq_1 u, Token.place_le_iff]
  simp [Token.notAfter]

/-- The tokens stand in order, no two at one place. -/
def Ordered (m : SourceMap) : Prop := m.tokens.Pairwise fun t u => t.place < u.place

/-- The token at or before a place is the last of those not after it. -/
theorem floor_eq_some_iff {m : SourceMap} (h : m.Ordered) (line column : Nat) (t : Token) :
    m.floor line column = some t ↔
      t ∈ m.tokens ∧ t.place ≤ toLex (line, column) ∧
        ∀ u ∈ m.tokens, u.place ≤ toLex (line, column) → u.place ≤ t.place := by
  have hat := find?_eq_some_iff_least h (Token.isAt · line column)
  have hlast := getLast?_eq_some_iff_greatest (h.filter (Token.before · line column))
  simp only [Token.isAt_iff] at hat
  simp only [List.mem_filter, Token.before_iff] at hlast
  rw [floor]
  cases hfind : m.tokens.find? (Token.isAt · line column) with
  | some u =>
      obtain ⟨hu, hplace, -⟩ := (hat u).1 hfind
      constructor
      · intro hut
        cases hut
        exact ⟨hu, le_of_eq hplace, fun v _ hv => by rwa [hplace]⟩
      · rintro ⟨ht, hle, hgreatest⟩
        have hsame : t.place = toLex (line, column) :=
          le_antisymm hle (hplace ▸ hgreatest u hu (le_of_eq hplace))
        have htfind := (hat t).2 ⟨ht, hsame, fun b _ hb => by rw [hsame, hb]⟩
        exact hfind.symm.trans htfind
  | none =>
      have hnot : ∀ u ∈ m.tokens, u.place ≠ toLex (line, column) := by
        intro u hu hplace
        exact List.find?_eq_none.1 hfind u hu ((u.isAt_iff line column).2 hplace)
      rw [hlast]
      constructor
      · rintro ⟨⟨ht, hlt⟩, hgreatest⟩
        exact ⟨ht, le_of_lt hlt, fun u hu hle => hgreatest u ⟨hu, lt_of_le_of_ne hle (hnot u hu)⟩⟩
      · rintro ⟨ht, hle, hgreatest⟩
        exact ⟨⟨ht, lt_of_le_of_ne hle (hnot t ht)⟩, fun u hu => hgreatest u hu.1 (le_of_lt hu.2)⟩

/-- There is none exactly if all tokens come after the place. -/
theorem floor_eq_none_iff (m : SourceMap) (line column : Nat) :
    m.floor line column = none ↔ ∀ u ∈ m.tokens, toLex (line, column) < u.place := by
  rw [floor]
  cases hfind : m.tokens.find? (Token.isAt · line column) with
  | some u =>
      have hplace := (u.isAt_iff line column).1 (List.find?_some (p := (Token.isAt · line column)) hfind)
      refine ⟨fun h => (Option.some_ne_none u h).elim, fun h => ?_⟩
      exact absurd (h u (List.mem_of_find?_eq_some hfind)) (by rw [hplace]; exact lt_irrefl _)
  | none =>
      rw [List.getLast?_eq_none_iff, List.filter_eq_nil_iff]
      refine forall₂_congr fun u hu => ?_
      have hnot : u.place ≠ toLex (line, column) := fun hplace =>
        List.find?_eq_none.1 hfind u hu ((u.isAt_iff line column).2 hplace)
      rw [Token.before_iff, not_lt]
      exact ⟨fun hle => lt_of_le_of_ne hle hnot.symm, le_of_lt⟩

/-! ### Lines without an answer -/

theorem find_of_floor {m : SourceMap} {line column : Nat} {t : Token}
    (hfloor : m.floor line column = some t) (hline : t.line = line) :
    m.find line column = some t := by
  simp only [find, hfloor, if_pos hline]

/-- A line before those of all tokens has no answer. -/
theorem find_eq_none_of_before {m : SourceMap} {line : Nat} (column : Nat)
    (h : ∀ t ∈ m.tokens, line < t.line) : m.find line column = none := by
  have hfloor : m.floor line column = none := by
    refine (m.floor_eq_none_iff line column).2 fun u hu => ?_
    exact Prod.Lex.toLex_lt_toLex.2 (Or.inl (h u hu))
  simp only [find, hfloor]
  split
  next u hu =>
    have hlt := h u (List.mem_of_find?_eq_some hu)
    exact if_neg (by omega)
  next => rfl

/-- A line after those of all tokens has no answer. -/
theorem find_eq_none_of_after {m : SourceMap} {line : Nat} (column : Nat)
    (h : ∀ t ∈ m.tokens, t.line < line) : m.find line column = none := by
  have hnext : m.tokens.find? (fun u => line ≤ u.line) = none := by
    refine List.find?_eq_none.2 fun u hu => ?_
    have hlt := h u hu
    simpa using hlt
  simp only [find, hnext]
  split
  next t hfloor =>
    refine if_neg ?_
    rw [floor] at hfloor
    have hmem : t ∈ m.tokens := by
      split at hfloor
      next hfind => cases hfloor; exact List.mem_of_find?_eq_some hfind
      next => exact (List.mem_filter.1 (List.mem_of_getLast? hfloor)).1
    exact Nat.ne_of_lt (h t hmem)
  next => rfl

theorem mapLine_of_find_eq_none {m : SourceMap} {line column : Nat}
    (h : ∀ l, line = l + 1 → m.find l column = none) : m.mapLine line column = none := by
  cases line with
  | zero => rfl
  | succ l => simp [mapLine, locate, h l rfl]

/-! ### Maps made of entries -/

/-- A token with the name of its source. -/
def entryOf (m : SourceMap) (t : Token) : Entry :=
  ⟨t.line, t.column, t.sourceLine, t.sourceColumn, m.sourceOf t⟩

/-- Numbering a source lengthens the list of names at most, and the number finds the name. -/
theorem numberIn_spec (name : String) (names : List String) :
    names <+: (numberIn name names).2 ∧
      (numberIn name names).2[(numberIn name names).1]? = some name := by
  rw [numberIn]
  cases h : names.idxOf? name with
  | none => exact ⟨List.prefix_append names [name], by simp⟩
  | some i =>
      refine ⟨List.prefix_refl names, ?_⟩
      obtain ⟨hi, hname, -⟩ := List.findIdx?_eq_some_iff_getElem.1 h
      rw [List.getElem?_eq_getElem hi, eq_of_beq hname]

theorem getElem?_of_initial {names more : List String} (h : names <+: more) {i : Nat} {name : String}
    (hi : names[i]? = some name) : more[i]? = some name := by
  obtain ⟨rest, rfl⟩ := h
  obtain ⟨hlt, -⟩ := List.getElem?_eq_some_iff.1 hi
  rwa [List.getElem?_append_left hlt]

/-- The tokens of entries are those entries, in order, their sources by number. -/
theorem tokensOf_spec (sources : List String) (es : List Entry) :
    sources <+: (tokensOf sources es).2 ∧
      (tokensOf sources es).1.map (fun t => (⟨t.line, t.column, t.sourceLine, t.sourceColumn,
        t.source?.bind ((tokensOf sources es).2[·]?)⟩ : Entry)) = es ∧
      ∀ t ∈ (tokensOf sources es).1, t.ranged = false := by
  induction es generalizing sources with
  | nil => exact ⟨List.prefix_refl sources, rfl, by simp [tokensOf]⟩
  | cons e es ih =>
      obtain ⟨line, column, sourceLine, sourceColumn, source?⟩ := e
      cases source? with
      | none =>
          obtain ⟨hextends, hmap, hranged⟩ := ih sources
          refine ⟨hextends, ?_, ?_⟩
          · simpa [tokensOf] using hmap
          · simpa [tokensOf] using hranged
      | some name =>
          obtain ⟨hgrown, hname⟩ := numberIn_spec name sources
          obtain ⟨hextends, hmap, hranged⟩ := ih (numberIn name sources).2
          refine ⟨hgrown.trans hextends, ?_, ?_⟩
          · have hkept := getElem?_of_initial hextends hname
            simp only [tokensOf, List.map_cons, Option.bind_some]
            rw [hmap, hkept]
          · simpa [tokensOf] using hranged

section Entries

variable {es : List Entry}

/-- Where an entry's token is to stand. -/
def Entry.place (e : Entry) : ℕ ×ₗ ℕ := toLex (e.line, e.column)

theorem tokens_ofEntries (h : es.Pairwise fun d e => d.place < e.place) :
    (ofEntries es).tokens = (tokensOf [] es).1 := by
  have hplaces : (tokensOf [] es).1.Pairwise fun t u => t.place < u.place := by
    obtain ⟨-, hmap, -⟩ := tokensOf_spec [] es
    rw [← hmap, List.pairwise_map] at h
    exact h
  refine List.mergeSort_of_pairwise (hplaces.imp fun hlt => ?_)
  exact (Token.notAfter_iff _ _).2 (le_of_lt hlt)

/-- A map made of entries in order has exactly their tokens. -/
theorem entries_ofEntries (h : es.Pairwise fun d e => d.place < e.place) :
    (ofEntries es).tokens.map (ofEntries es).entryOf = es := by
  rw [tokens_ofEntries h]
  exact (tokensOf_spec [] es).2.1

theorem ordered_ofEntries (h : es.Pairwise fun d e => d.place < e.place) :
    (ofEntries es).Ordered := by
  have hentries := entries_ofEntries h
  rw [← hentries, List.pairwise_map] at h
  exact h

theorem ranged_ofEntries (h : es.Pairwise fun d e => d.place < e.place) {t : Token}
    (ht : t ∈ (ofEntries es).tokens) : t.ranged = false := by
  rw [tokens_ofEntries h] at ht
  exact (tokensOf_spec [] es).2.2 t ht

end Entries

/-! ### Cells -/

/-- The name of a cell's source means that cell. -/
theorem cellOfSource_cellSource (id : String) : cellOfSource (cellSource id) = some id := by
  have hstart : (cellSource id).startsWith cellMark = true := by
    rw [String.startsWith_string_iff, cellSource, String.toList_append]
    exact List.prefix_append _ _
  rw [cellOfSource, if_pos hstart]
  refine congrArg some (String.toList_injective ?_)
  rw [cellSource]
  change ((cellMark ++ id).drop cellMark.length).copy.toList = id.toList
  rw [String.toList_copy_drop, String.toList_append, ← String.length_toList, List.drop_left]

/-- The cell line of a place, from the token at or before it on its line. -/
theorem mapLine_of_floor {m : SourceMap} {line column : Nat} {t : Token} {id : String}
    (hfloor : m.floor line column = some t) (hline : t.line = line) (hranged : t.ranged = false)
    (hsource : m.sourceOf t = some (cellSource id)) :
    m.mapLine (line + 1) column = some ⟨id, t.sourceLine + 1, t.sourceColumn⟩ := by
  have hfind := find_of_floor hfloor hline
  simp [mapLine, locate, hfind, hsource, hfloor, Token.columnFor, hranged, cellOfSource_cellSource]

end SourceMap

end NotebookEngine
