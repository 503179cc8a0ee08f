/-
**Questions through two maps.**

Merging two maps puts the places of the first under the tokens of the second, and drops the tokens that
lead nowhere.  What the merged map answers is what the first map answers to the token that the tokens
left over have for a place: the last one at or before it on its line, or else the first one on its line,
or else the last one of the earlier lines.  Dropping tokens may leave a place to another token than
before, but never one whose own token is left over.

Main definitions:

* `SourceMap.nearest` — the item that answers for a place, in a list in order;
* `SourceMap.Sorted`, `SourceMap.Distinct` — tokens in order, and no two at one place;
* `SourceMap.origin` — the source place that a token stands for;
* `SourceMap.through`, `SourceMap.survivors` — where a token leads in another map, and the tokens that
  lead somewhere.

Main results:

* `SourceMap.find_eq_nearest` — a map finds the token that answers for a place;
* `SourceMap.sorted_ofEntries`, `SourceMap.sorted_read` — every map that is built or read is sorted;
* `SourceMap.locate_merge` — what a merged map answers;
* `SourceMap.nearest_filter` — an item that is left over answers for the same places as before;
* `SourceMap.locate_finalMap` — a place leads through the final map of a program to where it leads map by
  map;
* `SourceMap.merge_composes` — **merging maps composes their answers**.
-/

import Mathlib.Data.List.Induction
import NotebookEngine.Proofs.SourceMap.Lookup
import NotebookEngine.SourceMap.Reader
import NotebookEngine.Program.Generate

set_option autoImplicit false

namespace NotebookEngine

namespace SourceMap

/-! ### The item that answers for a place -/

section Nearest

variable {α β : Type}

/-- Whether a place is on a line. -/
def onLine (line : Nat) (p : Nat × Nat) : Bool := p.1 = line

/-- Whether a place is on a line, at or before a column. -/
def upTo (line column : Nat) (p : Nat × Nat) : Bool := p.1 = line && p.2 ≤ column

@[simp] theorem onLine_iff (line : Nat) (p : Nat × Nat) : onLine line p = true ↔ p.1 = line := by
  simp [onLine]

@[simp] theorem upTo_iff (line column : Nat) (p : Nat × Nat) :
    upTo line column p = true ↔ p.1 = line ∧ p.2 ≤ column := by
  simp [upTo]

/-- The item that answers for a place: the last one on its line at or before its column; else the first
one on its line; else, if later lines have any, the last one of the earlier lines. -/
def nearest (place : α → Nat × Nat) (as : List α) (line column : Nat) : Option α :=
  (as.filter fun a => upTo line column (place a)).getLast?.or <|
    (as.find? fun a => onLine line (place a)).or <|
      if as.any fun a => line < (place a).1 then (as.filter fun a => (place a).1 < line).getLast?
      else none

/-- Which item it is depends on the places alone. -/
theorem nearest_map (f : α → β) (place : β → Nat × Nat) (as : List α) (line column : Nat) :
    nearest place (as.map f) line column =
      (nearest (fun a => place (f a)) as line column).map f := by
  simp only [nearest, List.filter_map, List.getLast?_map, List.find?_map, List.any_map,
    Function.comp_def, Option.map_or]
  split <;> rfl

/-- An item that is left over answers for the same places as before, as long as they are on lines that
had items: none comes between it and the place. -/
theorem nearest_filter {place : α → Nat × Nat} {as : List α} {line column : Nat} {a : α} {p : α → Bool}
    (hline : ∃ b ∈ as, (place b).1 = line) (h : nearest place as line column = some a)
    (hp : p a = true) : nearest place (as.filter p) line column = some a := by
  refine Option.or_eq_some_iff.2 ?_
  rw [List.filter_filter, List.filter_congr fun b _ => Bool.and_comm _ (p b), ← List.filter_filter]
  rcases Option.or_eq_some_iff.1 h with hlast | ⟨hnone, h⟩
  · left
    obtain ⟨before, heq⟩ := List.getLast?_eq_some_iff.1 hlast
    rw [heq, List.filter_append, List.filter_cons_of_pos hp, List.filter_nil, List.getLast?_concat]
  · right
    rw [List.getLast?_eq_none_iff.1 hnone]
    refine ⟨rfl, Option.or_eq_some_iff.2 (Or.inl ?_)⟩
    rcases Option.or_eq_some_iff.1 h with hfirst | ⟨hbare, -⟩
    · obtain ⟨hon, before, after, rfl, hnot⟩ := List.find?_eq_some_iff_append.1 hfirst
      refine List.find?_eq_some_iff_append.2 ⟨hon, before.filter p, after.filter p, ?_, ?_⟩
      · rw [List.filter_append, List.filter_cons_of_pos hp]
      · intro b hb
        exact hnot b (List.mem_filter.1 hb).1
    · obtain ⟨b, hb, hon⟩ := hline
      exact absurd ((onLine_iff line (place b)).2 hon) (List.find?_eq_none.1 hbare b hb)

/-- It is one of the items. -/
theorem mem_of_nearest {place : α → Nat × Nat} {as : List α} {line column : Nat} {a : α}
    (h : nearest place as line column = some a) : a ∈ as := by
  rcases Option.or_eq_some_iff.1 h with hlast | ⟨-, h⟩
  · exact (List.mem_filter.1 (List.mem_of_getLast? hlast)).1
  · rcases Option.or_eq_some_iff.1 h with hfirst | ⟨-, hearlier⟩
    · exact List.mem_of_find?_eq_some hfirst
    · split at hearlier
      next => exact (List.mem_filter.1 (List.mem_of_getLast? hearlier)).1
      next => cases hearlier

end Nearest

/-! ### What a map finds -/

/-- The line and the column of a token. -/
def Token.spot (t : Token) : Nat × Nat := (t.line, t.column)

/-- The last token on a line at or before a column is the one at or before the place, if that is on the
line. -/
theorem getLast?_upTo_eq_some_iff {m : SourceMap} (h : m.Ordered) (line column : Nat) (t : Token) :
    (m.tokens.filter fun u => upTo line column u.spot).getLast? = some t ↔
      m.floor line column = some t ∧ t.line = line := by
  rw [getLast?_eq_some_iff_greatest (h.filter _), floor_eq_some_iff h]
  simp only [List.mem_filter, upTo_iff, Token.spot]
  constructor
  · rintro ⟨⟨ht, hline, hcolumn⟩, hgreatest⟩
    refine ⟨⟨ht, (t.place_le_iff line column).2 (Or.inr ⟨hline, hcolumn⟩), ?_⟩, hline⟩
    intro u hu hle
    rcases (u.place_le_iff line column).1 hle with hbefore | hsame
    · exact (u.place_le_iff t.line t.column).2 (Or.inl (by omega))
    · exact hgreatest u ⟨hu, hsame⟩
  · rintro ⟨⟨ht, hle, hgreatest⟩, hline⟩
    have hcolumn : t.column ≤ column := by
      rcases (t.place_le_iff line column).1 hle with hbefore | hsame
      · omega
      · exact hsame.2
    refine ⟨⟨ht, hline, hcolumn⟩, ?_⟩
    rintro u ⟨hu, hsame⟩
    exact hgreatest u hu ((u.place_le_iff line column).2 (Or.inr hsame))

/-- The first token on a line is the first one that is not before the line. -/
theorem find?_line_le {m : SourceMap} (h : m.Ordered) {line : Nat} {t : Token}
    (ht : (m.tokens.find? fun u => onLine line u.spot) = some t) :
    (m.tokens.find? fun u => line ≤ u.line) = some t ∧ t.line = line := by
  rw [find?_eq_some_iff_least h] at ht
  rw [find?_eq_some_iff_least h]
  simp only [onLine_iff, Token.spot, decide_eq_true_eq] at ht ⊢
  obtain ⟨hmem, hline, hleast⟩ := ht
  refine ⟨⟨hmem, by omega, ?_⟩, hline⟩
  intro u hu hle
  by_cases hsame : u.line = line
  · exact hleast u hu hsame
  · exact (t.place_le_iff u.line u.column).2 (Or.inl (by omega))

/-- On a line without tokens a map finds the last token of the earlier lines, if later lines have any. -/
theorem find_of_bare {m : SourceMap} {line : Nat} (h : ∀ u ∈ m.tokens, u.line ≠ line)
    (column : Nat) :
    m.find line column =
      if m.tokens.any fun u => line < u.line then
        (m.tokens.filter fun u => u.line < line).getLast?
      else none := by
  have hfloor : m.floor line column = (m.tokens.filter fun u => u.line < line).getLast? := by
    have hat : m.tokens.find? (Token.isAt · line column) = none := by
      refine List.find?_eq_none.2 ?_
      intro u hu
      simp [Token.isAt, h u hu]
    have hearlier : m.tokens.filter (Token.before · line column) =
        m.tokens.filter fun u => u.line < line := by
      refine List.filter_congr ?_
      intro u hu
      simp [Token.before, h u hu]
    rw [floor, hat, hearlier]
  have hfar : ∀ t, m.floor line column = some t → t.line ≠ line := by
    intro t ht
    rw [hfloor] at ht
    exact h t (List.mem_filter.1 (List.mem_of_getLast? ht)).1
  rw [← hfloor, find]
  cases hnext : m.tokens.find? fun u => line ≤ u.line with
  | none =>
      have hlater : (m.tokens.any fun u => line < u.line) = false := by
        rw [List.any_eq_false]
        intro u hu hlt
        have hnot := List.find?_eq_none.1 hnext u hu
        simp only [decide_eq_true_eq] at hlt hnot
        omega
      rw [hlater]
      cases ht : m.floor line column with
      | none => rfl
      | some t => exact if_neg (hfar t ht)
  | some v =>
      have hv := List.mem_of_find?_eq_some hnext
      have hlater : (m.tokens.any fun u => line < u.line) = true := by
        have hle : line ≤ v.line := by simpa using List.find?_some hnext
        exact List.any_eq_true.2 ⟨v, hv, decide_eq_true (Nat.lt_of_le_of_ne hle (h v hv).symm)⟩
      rw [hlater, if_pos rfl]
      cases ht : m.floor line column with
      | none => exact if_neg (h v hv)
      | some t =>
          dsimp only
          rw [if_neg (hfar t ht), if_neg (h v hv)]

/-- **A map finds the token that answers for a place.** -/
theorem find_eq_nearest {m : SourceMap} (h : m.Ordered) (line column : Nat) :
    m.find line column = nearest Token.spot m.tokens line column := by
  have hupTo := getLast?_upTo_eq_some_iff h line column
  rw [nearest]
  cases hlast : (m.tokens.filter fun u => upTo line column u.spot).getLast? with
  | some t =>
      obtain ⟨hfloor, hline⟩ := (hupTo t).1 hlast
      exact find_of_floor hfloor hline
  | none =>
      rw [Option.none_or]
      cases hfirst : m.tokens.find? fun u => onLine line u.spot with
      | some u =>
          obtain ⟨hnext, hline⟩ := find?_line_le h hfirst
          rw [Option.some_or, find]
          simp only [hnext, hline, if_true]
          cases hfloor : m.floor line column with
          | none => rfl
          | some t =>
              -- What is at or before the place is on an earlier line.
              refine if_neg ?_
              intro ht
              rw [(hupTo t).2 ⟨hfloor, ht⟩] at hlast
              cases hlast
      | none =>
          refine find_of_bare ?_ column
          intro u hu hline
          exact List.find?_eq_none.1 hfirst u hu ((onLine_iff line u.spot).2 hline)

/-! ### Maps in order -/

/-- The tokens stand in order. -/
def Sorted (m : SourceMap) : Prop := m.tokens.Pairwise fun t u => t.place ≤ u.place

/-- No two tokens stand at one place. -/
def Distinct (m : SourceMap) : Prop := (m.tokens.map Token.spot).Nodup

instance (m : SourceMap) : Decidable m.Sorted :=
  decidable_of_iff (m.tokens.Pairwise fun t u => t.notAfter u = true) <| by
    simp only [Sorted, Token.notAfter_iff]

instance (m : SourceMap) : Decidable m.Distinct :=
  inferInstanceAs (Decidable (m.tokens.map Token.spot).Nodup)

theorem ordered_of_sorted {m : SourceMap} (hs : m.Sorted) (hd : m.Distinct) : m.Ordered := by
  refine (hs.and (List.pairwise_map.1 hd)).imp ?_
  rintro t u ⟨hle, hne⟩
  exact lt_of_le_of_ne hle fun heq => hne (toLex.injective heq)

theorem pairwise_inOrder (ts : List Token) :
    (inOrder ts).Pairwise fun t u => t.place ≤ u.place := by
  have htrans : ∀ t u v : Token, t.notAfter u = true → u.notAfter v = true → t.notAfter v = true := by
    intro t u v htu huv
    rw [Token.notAfter_iff] at htu huv ⊢
    exact le_trans htu huv
  have htotal : ∀ t u : Token, (t.notAfter u || u.notAfter t) = true := by
    intro t u
    rw [Bool.or_eq_true, Token.notAfter_iff, Token.notAfter_iff]
    exact le_total t.place u.place
  have hsorted := List.pairwise_mergeSort htrans htotal ts
  exact hsorted.imp fun hle => (Token.notAfter_iff _ _).1 hle

/-- Every map that is built is sorted, and so is every map that is read. -/
theorem sorted_ofEntries (es : List Entry) : (ofEntries es).Sorted := pairwise_inOrder _

theorem ok_of_bind_eq_ok {ε α β : Type} {x : Except ε α} {f : α → Except ε β} {b : β}
    (h : (x >>= f) = .ok b) : ∃ a, x = .ok a ∧ f a = .ok b := by
  cases x with
  | error e => cases h
  | ok a => exact ⟨a, rfl, h⟩

theorem sorted_ofPlainFields {s : Fields} {m : SourceMap} (h : ofPlainFields s = .ok m) :
    m.Sorted := by
  obtain ⟨ts, -, hm⟩ := ok_of_bind_eq_ok h
  cases hm
  exact pairwise_inOrder ts

theorem sorted_ofFields {s : Fields} {m : SourceMap} (h : ofFields s = .ok m) : m.Sorted := by
  rw [ofFields] at h
  split at h
  next =>
    obtain ⟨_, -, hm⟩ := ok_of_bind_eq_ok h
    cases hm
  next =>
    obtain ⟨plain, hplain, hm⟩ := ok_of_bind_eq_ok h
    split at hm
    next => cases hm
    next =>
      cases hm
      exact sorted_ofPlainFields hplain

theorem sorted_read {text : String} {m : SourceMap} (h : read text = .ok m) : m.Sorted := by
  obtain ⟨cs, -, hm⟩ := ok_of_bind_eq_ok h
  split at hm
  next s hs => exact sorted_ofFields hm
  next => cases hm

/-! ### What a merged map answers -/

/-- The source place that an entry stands for. -/
def Entry.origin (e : Entry) : Option Location :=
  e.source?.map fun source => ⟨source, e.sourceLine + 1, e.sourceColumn⟩

/-- The source place that a token stands for. -/
def origin (m : SourceMap) (t : Token) : Option Location := (m.entryOf t).origin

/-- The place that a token, whose source is the text that a map is of, leads to in that map. -/
def through (first : SourceMap) (t : Token) : Option Location :=
  first.locate (t.sourceLine + 1) t.sourceColumn

/-- The tokens of a map that lead somewhere in another. -/
def survivors (first second : SourceMap) : List Token :=
  second.tokens.filter fun t => (first.through t).isSome

/-- Without ranges, a map answers with the place that the token it finds stands for. -/
theorem locate_eq_origin {m : SourceMap} (h : m.Ordered) (hranged : ∀ t ∈ m.tokens, t.ranged = false)
    (line column : Nat) :
    m.locate (line + 1) column = (nearest Token.spot m.tokens line column).bind m.origin := by
  rw [← find_eq_nearest h, locate]
  cases hfind : m.find line column with
  | none => rfl
  | some t =>
      have ht : t ∈ m.tokens := by
        rw [find_eq_nearest h] at hfind
        exact mem_of_nearest hfind
      have hcolumn : t.columnFor column = t.sourceColumn := by
        rw [Token.columnFor, hranged t ht, if_neg Bool.false_ne_true]
      rw [Option.bind_some, origin, entryOf, Entry.origin]
      cases hsource : m.sourceOf t with
      | none => simp [hsource]
      | some source => simp [hsource, hcolumn]

theorem line_of_locate {m : SourceMap} {line column : Nat} {x : Location}
    (h : m.locate line column = some x) : x.line - 1 + 1 = x.line := by
  cases line with
  | zero => cases h
  | succ line =>
      obtain ⟨t, -, h⟩ := Option.bind_eq_some_iff.1 h
      obtain ⟨source, -, h⟩ := Option.bind_eq_some_iff.1 h
      cases h
      rfl

/-- The entry that a token gives in a merged map. -/
def entryThrough (first : SourceMap) (t : Token) : Option Entry :=
  (first.through t).map fun x => ⟨t.line, t.column, x.line - 1, x.column, some x.source⟩

theorem merge_eq (first second : SourceMap) :
    merge first second = ofEntries (second.tokens.filterMap first.entryThrough) := rfl

theorem pairwise_entryThrough (first : SourceMap) {second : SourceMap} (h : second.Ordered) :
    (second.tokens.filterMap first.entryThrough).Pairwise fun d e => d.place < e.place := by
  refine h.filterMap _ ?_
  intro t u hlt d hd e he
  obtain ⟨x, -, rfl⟩ := Option.map_eq_some_iff.1 hd
  obtain ⟨y, -, rfl⟩ := Option.map_eq_some_iff.1 he
  exact hlt

section Merged

variable {first second : SourceMap}

/-- The entries that tokens give stand where those do that lead somewhere, and for where they lead. -/
theorem map_entryThrough (ts : List Token) :
    (ts.filterMap first.entryThrough).map (fun e => ((e.line, e.column), e.origin)) =
      (ts.filter fun t => (first.through t).isSome).map fun t => (t.spot, first.through t) := by
  induction ts with
  | nil => rfl
  | cons t ts ih =>
      cases hx : first.through t with
      | none =>
          have hdropped : first.entryThrough t = none := by rw [entryThrough, hx]; rfl
          rw [List.filterMap_cons_none hdropped, List.filter_cons_of_neg (by simp [hx]), ih]
      | some x =>
          have hkept : first.entryThrough t =
              some ⟨t.line, t.column, x.line - 1, x.column, some x.source⟩ := by
            rw [entryThrough, hx]
            rfl
          have hline : x.line - 1 + 1 = x.line := line_of_locate hx
          rw [List.filterMap_cons_some hkept, List.filter_cons_of_pos (by simp [hx]), List.map_cons,
            List.map_cons, ih, hx, Entry.origin, Option.map_some, hline]
          rfl

/-- **A merged map has the tokens that lead somewhere, in order, and they stand for where they lead.** -/
theorem tokens_merge (h : second.Ordered) :
    (merge first second).tokens.map (fun t => (t.spot, (merge first second).origin t)) =
      (survivors first second).map fun t => (t.spot, first.through t) := by
  have hentries := entries_ofEntries (pairwise_entryThrough first h)
  rw [← merge_eq] at hentries
  rw [survivors, ← map_entryThrough, ← hentries, List.map_map]
  rfl

/-- **What a merged map answers: where the token leads that the remaining tokens have for the place.** -/
theorem locate_merge (h : second.Ordered) (line column : Nat) :
    (merge first second).locate (line + 1) column =
      (nearest Token.spot (survivors first second) line column).bind first.through := by
  have hpairwise := pairwise_entryThrough first h
  have hordered : (merge first second).Ordered := ordered_ofEntries hpairwise
  have hranged : ∀ t ∈ (merge first second).tokens, t.ranged = false := by
    intro t ht
    exact ranged_ofEntries hpairwise ht
  rw [locate_eq_origin hordered hranged]
  -- Which token it is depends on the places alone, so it may be looked for among the pairs of a place
  -- and what it stands for.
  have hpair : ∀ (ts : List Token) (f : Token → Option Location),
      (nearest Token.spot ts line column).bind f =
        (nearest Prod.fst (ts.map fun t => (t.spot, f t)) line column).bind Prod.snd := by
    intro ts f
    rw [nearest_map, Option.bind_map]
    rfl
  rw [hpair, hpair, tokens_merge h]

/-- A place whose token leads somewhere leads there in the merged map, too. -/
theorem locate_merge_of_find (h : second.Ordered) {line column : Nat} {t : Token} {x : Location}
    (hline : ∃ u ∈ second.tokens, u.line = line) (hfind : second.find line column = some t)
    (hx : first.through t = some x) : (merge first second).locate (line + 1) column = some x := by
  rw [find_eq_nearest h] at hfind
  have hleads : (first.through t).isSome = true := by rw [hx]; rfl
  have hkept : nearest Token.spot (survivors first second) line column = some t :=
    nearest_filter hline hfind hleads
  rw [locate_merge h, hkept, Option.bind_some, hx]

end Merged

/-! ### Chains of maps -/

/-- The place that a place leads to through a chain of maps, the last one first, as long as it is on a line
with tokens. -/
def trace (first : SourceMap) : List SourceMap → Nat → Nat → Option Location
  | [], line, column => first.locate (line + 1) column
  | m :: ms, line, column =>
    if m.tokens.any fun u => u.line = line then
      (m.find line column).bind fun t => trace first ms t.sourceLine t.sourceColumn
    else none

/-- A place leads through the merged maps of a chain to where it leads map by map. -/
theorem locate_foldl_merge (first : SourceMap) {ms : List SourceMap} (h : ∀ m ∈ ms, m.Ordered)
    {line column : Nat} {x : Location} (hx : trace first ms.reverse line column = some x) :
    (ms.foldl merge first).locate (line + 1) column = some x := by
  -- The last map of the chain is the first that a place goes through.
  induction ms using List.reverseRecOn generalizing line column with
  | nil => exact hx
  | append_singleton ms m ih =>
      rw [List.reverse_append, List.reverse_singleton, List.singleton_append, trace] at hx
      rw [List.foldl_append, List.foldl_cons, List.foldl_nil]
      split at hx
      next hany =>
        obtain ⟨t, hfind, ht⟩ := Option.bind_eq_some_iff.1 hx
        have hline : ∃ u ∈ m.tokens, u.line = line := by simpa using hany
        have hthrough : (ms.foldl merge first).through t = some x :=
          ih (fun m' hm' => h m' (List.mem_append_left [m] hm')) ht
        exact locate_merge_of_find (h m (by simp)) hline hfind hthrough
      next => cases hx

/-- So it does through the final map of a program. -/
theorem locate_finalMap {g : Program.Generated} {first : SourceMap} {ms : List SourceMap}
    (hmaps : g.maps = first :: ms) (h : ∀ m ∈ ms, m.Ordered) {line column : Nat} {x : Location}
    (hx : trace first ms.reverse line column = some x) :
    (g.finalMap?.bind fun m => m.locate (line + 1) column) = some x := by
  rw [Program.Generated.finalMap?, hmaps]
  exact locate_foldl_merge first h hx

/-- **Merging maps composes their answers.**  Take a map whose tokens are in order, as those of all maps
are that are built or read, no two at one place, and merge it with any first map.  A place on a line with
tokens is answered with where its token leads, if that token leads anywhere.  Whatever the merged map
answers is where the token leads that the remaining tokens have for the place.  Its tokens are exactly
those that lead somewhere, in order, each standing for where it leads.  The final map of a program merges
its maps from the left. -/
theorem merge_composes (first second : SourceMap) (hsorted : second.Sorted)
    (hdistinct : second.Distinct) :
    (∀ line column t x, (∃ u ∈ second.tokens, u.line = line) →
      second.find line column = some t → first.through t = some x →
        (merge first second).locate (line + 1) column = some x) ∧
    (∀ line column, (merge first second).locate (line + 1) column =
      (nearest Token.spot (survivors first second) line column).bind first.through) ∧
    (∀ column, (merge first second).locate 0 column = none) ∧
    (merge first second).tokens.map (fun t => (t.spot, (merge first second).origin t)) =
      (survivors first second).map (fun t => (t.spot, first.through t)) ∧
    ∀ g : Program.Generated, g.finalMap? = g.maps.head?.map fun m => g.maps.tail.foldl merge m := by
  have hordered := ordered_of_sorted hsorted hdistinct
  refine ⟨?_, locate_merge hordered, fun _ => rfl, tokens_merge hordered, ?_⟩
  · intro line column t x hline hfind hx
    exact locate_merge_of_find hordered hline hfind hx
  · rintro ⟨text?, maps, diagnostics⟩
    cases maps <;> rfl

/-- The map of two cells, of two lines each. -/
def twoCells : SourceMap :=
  ⟨none, ["cell-a", "cell-b"], none, [], [],
    [⟨2, 0, 0, 0, some 0, none, false⟩, ⟨3, 0, 1, 0, some 0, none, false⟩,
      ⟨6, 0, 0, 0, some 1, none, false⟩, ⟨7, 0, 1, 0, some 1, none, false⟩], [], none⟩

/-- The map of a text made from theirs, with a token on a line before the cells. -/
def twoCellsCompiled : SourceMap :=
  ⟨none, ["in-memory-file.ts"], none, [], [],
    [⟨0, 0, 0, 4, some 0, none, false⟩, ⟨1, 8, 2, 4, some 0, none, false⟩,
      ⟨9, 0, 7, 4, some 0, none, false⟩], [], none⟩

/-- A place behind the last token leads to the last line of the second cell. -/
theorem merge_twoCells :
    twoCellsCompiled.Sorted ∧ twoCellsCompiled.Distinct ∧
      (merge twoCells twoCellsCompiled).locate 10 3 = some ⟨"cell-b", 2, 0⟩ ∧
      (merge twoCells twoCellsCompiled).tokens.length = 2 := by
  have hsorted : twoCellsCompiled.Sorted := by decide
  have hdistinct : twoCellsCompiled.Distinct := by decide
  obtain ⟨hleads, -, -, htokens, -⟩ := merge_composes twoCells twoCellsCompiled hsorted hdistinct
  refine ⟨hsorted, hdistinct, ?_, ?_⟩
  · refine hleads 9 3 ⟨9, 0, 7, 4, some 0, none, false⟩ _ ?_ ?_ ?_
    · exact ⟨_, List.mem_cons_of_mem _ (List.mem_cons_of_mem _ List.mem_cons_self), rfl⟩
    · rfl
    · rfl
  · rw [← List.length_map, htokens, List.length_map]
    rfl

end SourceMap

end NotebookEngine
