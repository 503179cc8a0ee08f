/-
**The regions of a source map.**

A line of a generated text is cut into stretches by the tokens on it: each token answers for the places
from its own up to the next one, and the first token of the line also for those before it.  A line without
tokens belongs to the last token before it, as long as the map goes on behind it.  Before its first line
and behind its last one a map has no answer.

Main definitions:

* `SourceMap.Answers` — the token that answers for a place, told region by region;
* `SourceMap.originAt` — the source place that a token stands for at a column.

Main results:

* `SourceMap.answers_find`, `SourceMap.find_of_answers` — a map finds that token and no other;
* `SourceMap.locate_eq_originAt` — what a map answers, from the token that it finds;
* `SourceMap.locate_answers` — **the regions of a map and its answers in them**.
-/

import NotebookEngine.Proofs.SourceMap.Merge

set_option autoImplicit false

namespace NotebookEngine

namespace SourceMap

/-- The token that answers for a place, in each of the four regions that a place may lie in. -/
inductive Answers (m : SourceMap) (line column : Nat) : Option Token → Prop
  /-- The last token on the line at or before the column. -/
  | onLine {t : Token} : t ∈ m.tokens → t.line = line → t.column ≤ column →
      (∀ u ∈ m.tokens, u.line = line → u.column ≤ column → u.column ≤ t.column) →
      Answers m line column (some t)
  /-- No token on the line is at or before the column: the first one on the line. -/
  | ahead {t : Token} : (∀ u ∈ m.tokens, u.line = line → column < u.column) →
      t ∈ m.tokens → t.line = line → (∀ u ∈ m.tokens, u.line = line → t.column ≤ u.column) →
      Answers m line column (some t)
  /-- No token is on the line, and earlier and later lines have some: the last one of the earlier lines. -/
  | between {t : Token} : (∀ u ∈ m.tokens, u.line ≠ line) →
      t ∈ m.tokens → t.line < line → (∀ u ∈ m.tokens, u.line < line → u.place ≤ t.place) →
      (∃ u ∈ m.tokens, line < u.line) → Answers m line column (some t)
  /-- No token is on the line, and none on the earlier or none on the later lines. -/
  | outside : (∀ u ∈ m.tokens, u.line ≠ line) →
      ((∀ u ∈ m.tokens, ¬ u.line < line) ∨ ∀ u ∈ m.tokens, ¬ line < u.line) →
      Answers m line column none

variable {m : SourceMap} {line column : Nat} {r : Option Token}

/-! ### The token that is found -/

theorem upTo_filter_eq_nil (h : ∀ u ∈ m.tokens, u.line = line → column < u.column) :
    (m.tokens.filter fun u => upTo line column u.spot) = [] := by
  rw [List.filter_eq_nil_iff]
  intro u hu hupTo
  obtain ⟨hline, hcolumn⟩ := (upTo_iff line column u.spot).1 hupTo
  exact absurd hcolumn (Nat.not_le.2 (h u hu hline))

/-- A map finds no other token than the one that answers. -/
theorem find_of_answers (h : m.Ordered) (hr : m.Answers line column r) : m.find line column = r := by
  cases hr with
  | @onLine t ht hline hcolumn hgreatest =>
      have hlast : (m.tokens.filter fun u => upTo line column u.spot).getLast? = some t := by
        rw [getLast?_eq_some_iff_greatest (h.filter _)]
        simp only [List.mem_filter, upTo_iff, Token.spot]
        refine ⟨⟨ht, hline, hcolumn⟩, ?_⟩
        rintro u ⟨hu, huline, hucolumn⟩
        rw [← hline] at huline
        exact (u.place_le_iff t.line t.column).2 (.inr ⟨huline, hgreatest u hu (by omega) hucolumn⟩)
      rw [find_eq_nearest h, nearest, hlast, Option.some_or]
  | @ahead t hbefore ht hline hleast =>
      have hfirst : (m.tokens.find? fun u => onLine line u.spot) = some t := by
        rw [find?_eq_some_iff_least h]
        simp only [onLine_iff, Token.spot]
        refine ⟨ht, hline, ?_⟩
        intro u hu huline
        exact (t.place_le_iff u.line u.column).2 (.inr ⟨by omega, hleast u hu huline⟩)
      rw [find_eq_nearest h, nearest, upTo_filter_eq_nil hbefore, List.getLast?_nil, Option.none_or,
        hfirst, Option.some_or]
  | @between t hbare ht hline hgreatest hlater =>
      have hlast : (m.tokens.filter fun u => u.line < line).getLast? = some t := by
        rw [getLast?_eq_some_iff_greatest (h.filter _)]
        simp only [List.mem_filter, decide_eq_true_eq]
        exact ⟨⟨ht, hline⟩, fun u hu => hgreatest u hu.1 hu.2⟩
      have hany : (m.tokens.any fun u => line < u.line) = true := by simpa using hlater
      rw [find_of_bare hbare, hany, if_pos rfl, hlast]
  | outside hbare hnone =>
      rw [find_of_bare hbare]
      rcases hnone with hearlier | hlater
      · have hnil : (m.tokens.filter fun u => u.line < line) = [] := by
          rw [List.filter_eq_nil_iff]
          intro u hu
          simpa using hearlier u hu
        rw [hnil, List.getLast?_nil, ite_self]
      · have hany : (m.tokens.any fun u => line < u.line) = false := by
          rw [List.any_eq_false]
          intro u hu
          simpa using hlater u hu
        rw [hany, if_neg Bool.false_ne_true]

/-- On a line without tokens, some token answers or the line is outside. -/
theorem answers_of_bare (h : m.Ordered) (hbare : ∀ u ∈ m.tokens, u.line ≠ line) (column : Nat) :
    ∃ r, m.Answers line column r := by
  cases hlast : (m.tokens.filter fun u => u.line < line).getLast? with
  | none =>
      rw [List.getLast?_eq_none_iff, List.filter_eq_nil_iff] at hlast
      refine ⟨none, .outside hbare (.inl ?_)⟩
      simpa using hlast
  | some t =>
      rw [getLast?_eq_some_iff_greatest (h.filter _)] at hlast
      simp only [List.mem_filter, decide_eq_true_eq] at hlast
      obtain ⟨⟨ht, hline⟩, hgreatest⟩ := hlast
      by_cases hlater : ∃ u ∈ m.tokens, line < u.line
      · exact ⟨some t, .between hbare ht hline (fun u hu hlt => hgreatest u ⟨hu, hlt⟩) hlater⟩
      · exact ⟨none, .outside hbare (.inr fun u hu hlt => hlater ⟨u, hu, hlt⟩)⟩

/-- A place lies in one of the regions. -/
theorem exists_answers (h : m.Ordered) (line column : Nat) : ∃ r, m.Answers line column r := by
  cases hlast : (m.tokens.filter fun u => upTo line column u.spot).getLast? with
  | some t =>
      rw [getLast?_eq_some_iff_greatest (h.filter _)] at hlast
      simp only [List.mem_filter, upTo_iff, Token.spot] at hlast
      obtain ⟨⟨ht, hline, hcolumn⟩, hgreatest⟩ := hlast
      refine ⟨some t, .onLine ht hline hcolumn ?_⟩
      intro u hu huline hucolumn
      rcases (u.place_le_iff t.line t.column).1 (hgreatest u ⟨hu, huline, hucolumn⟩) with hlt | hle
      · omega
      · exact hle.2
  | none =>
      have hbefore : ∀ u ∈ m.tokens, u.line = line → column < u.column := by
        rw [List.getLast?_eq_none_iff, List.filter_eq_nil_iff] at hlast
        intro u hu huline
        by_contra hnot
        exact hlast u hu ((upTo_iff line column u.spot).2 ⟨huline, Nat.not_lt.1 hnot⟩)
      cases hfirst : m.tokens.find? fun u => onLine line u.spot with
      | some t =>
          rw [find?_eq_some_iff_least h] at hfirst
          simp only [onLine_iff, Token.spot] at hfirst
          obtain ⟨ht, hline, hleast⟩ := hfirst
          refine ⟨some t, .ahead hbefore ht hline ?_⟩
          intro u hu huline
          rcases (t.place_le_iff u.line u.column).1 (hleast u hu huline) with hlt | hle
          · omega
          · exact hle.2
      | none =>
          refine answers_of_bare h ?_ column
          intro u hu huline
          exact List.find?_eq_none.1 hfirst u hu ((onLine_iff line u.spot).2 huline)

/-- **The token that a map finds is the one that answers.** -/
theorem find_eq_iff_answers (h : m.Ordered) : m.find line column = r ↔ m.Answers line column r := by
  refine ⟨?_, find_of_answers h⟩
  rintro rfl
  obtain ⟨r, hr⟩ := exists_answers h line column
  rwa [find_of_answers h hr]

/-! ### Source places -/

/-- The source place that a token stands for at a column: its own.  Where the token stands for a range, the
place moves along with the column. -/
def originAt (m : SourceMap) (column : Nat) (t : Token) : Option Location :=
  (m.origin t).map fun x => { x with column := t.columnFor column }

theorem originAt_of_not_ranged {t : Token} (h : t.ranged = false) : m.originAt column t = m.origin t := by
  have hcolumn : t.columnFor column = t.sourceColumn := by rw [Token.columnFor, h, if_neg Bool.false_ne_true]
  rw [originAt, hcolumn, origin, Entry.origin]
  cases (m.entryOf t).source? <;> rfl

/-- Ahead of a token its place does not move. -/
theorem columnFor_of_le {t : Token} (h : column ≤ t.column) : t.columnFor column = t.sourceColumn := by
  rw [Token.columnFor, Nat.sub_eq_zero_of_le h, Nat.add_zero, ite_self]

/-- A token that answers is the one at or before the place, or it stands ahead of the place. -/
theorem Answers.floor_or_le (h : m.Ordered) {t : Token} (ht : m.Answers line column (some t)) :
    m.floor line column = some t ∨ column ≤ t.column := by
  cases ht with
  | onLine ht hline hcolumn hgreatest =>
      left
      rw [floor_eq_some_iff h]
      refine ⟨ht, (t.place_le_iff line column).2 (.inr ⟨hline, hcolumn⟩), ?_⟩
      intro u hu hle
      rcases (u.place_le_iff line column).1 hle with hlt | ⟨huline, hucolumn⟩
      · exact (u.place_le_iff t.line t.column).2 (.inl (by omega))
      · exact (u.place_le_iff t.line t.column).2 (.inr ⟨by omega, hgreatest u hu huline hucolumn⟩)
  | ahead hbefore ht hline _ => exact .inr (Nat.le_of_lt (hbefore t ht hline))
  | between hbare ht hline hgreatest _ =>
      left
      rw [floor_eq_some_iff h]
      refine ⟨ht, (t.place_le_iff line column).2 (.inl hline), ?_⟩
      intro u hu hle
      rcases (u.place_le_iff line column).1 hle with hlt | ⟨huline, -⟩
      · exact hgreatest u hu hlt
      · exact absurd huline (hbare u hu)

/-- What a map answers is the source place of the token that it finds. -/
theorem locate_eq_originAt (h : m.Ordered) (line column : Nat) :
    m.locate (line + 1) column = (m.find line column).bind (m.originAt column) := by
  rw [locate]
  cases hfind : m.find line column with
  | none => rfl
  | some t =>
      have hcolumn : (if m.floor line column = some t then t.columnFor column else t.sourceColumn) =
          t.columnFor column := by
        split
        next => rfl
        next hfloor =>
          have hle := (((find_eq_iff_answers h).1 hfind).floor_or_le h).resolve_left hfloor
          exact (columnFor_of_le hle).symm
      have horigin : m.originAt column t =
          (m.sourceOf t).map fun source => ⟨source, t.sourceLine + 1, t.columnFor column⟩ := by
        rw [originAt, origin, Entry.origin, Option.map_map]
        rfl
      rw [Option.bind_some, horigin]
      simp only [Option.bind_eq_bind, Option.bind_some, hcolumn]
      cases m.sourceOf t <;> rfl

/-- **The regions of a map and its answers in them.**  Take a map whose tokens are in order, no two at one
place.  Lines count from one, so there is none before the first.  For every other place exactly one of the
four regions has an answer: the last token on the line at or before the column; else the first one on the
line; else, between lines with tokens, the last one of the earlier lines; else none.  The map answers with
the source place of that token, and with none if the token has no source.  The place is the token's own,
unless the token stands for a range. -/
theorem locate_answers (m : SourceMap) (hsorted : m.Sorted) (hdistinct : m.Distinct) :
    (∀ column, m.locate 0 column = none) ∧
    (∀ line column, ∃ r, (∀ r', m.Answers line column r' ↔ r' = r) ∧
      m.locate (line + 1) column = r.bind (m.originAt column)) ∧
    (∀ column t, m.sourceOf t = none → m.originAt column t = none) ∧
    ∀ column t source, m.sourceOf t = some source → t.ranged = false →
      m.originAt column t = some ⟨source, t.sourceLine + 1, t.sourceColumn⟩ := by
  have hordered := ordered_of_sorted hsorted hdistinct
  refine ⟨fun _ => rfl, ?_, ?_, ?_⟩
  · intro line column
    refine ⟨m.find line column, fun r' => ?_, locate_eq_originAt hordered line column⟩
    rw [← find_eq_iff_answers hordered]
    exact eq_comm
  · intro column t hsource
    have hentry : (m.entryOf t).source? = none := hsource
    rw [originAt, origin, Entry.origin, hentry]
    rfl
  · intro column t source hsource hranged
    have hentry : (m.entryOf t).source? = some source := hsource
    rw [originAt_of_not_ranged hranged, origin, Entry.origin, hentry]
    rfl

/-- A map with a token behind the start of its line, a line without tokens, and a token without a source. -/
def spacedLines : SourceMap :=
  ⟨none, ["cell-a"], none, [], [],
    [⟨1, 4, 0, 0, some 0, none, false⟩, ⟨1, 9, 0, 5, some 0, none, false⟩,
      ⟨3, 0, 2, 0, some 0, none, false⟩, ⟨3, 6, 0, 0, none, none, false⟩], [], none⟩

/-- A line without tokens belongs to the last token before it. -/
theorem locate_spacedLines :
    spacedLines.Sorted ∧ spacedLines.Distinct ∧
      spacedLines.Answers 2 0 (some ⟨1, 9, 0, 5, some 0, none, false⟩) ∧
      spacedLines.locate 3 0 = some ⟨"cell-a", 1, 5⟩ := by
  have hsorted : spacedLines.Sorted := by decide
  have hdistinct : spacedLines.Distinct := by decide
  have hregion : spacedLines.Answers 2 0 (some ⟨1, 9, 0, 5, some 0, none, false⟩) :=
    .between (by decide) (by decide) (by decide) (by decide) (by decide)
  obtain ⟨-, hanswers, -, hplace⟩ := locate_answers spacedLines hsorted hdistinct
  obtain ⟨r, hunique, hlocate⟩ := hanswers 2 0
  refine ⟨hsorted, hdistinct, hregion, ?_⟩
  rw [hlocate, ← (hunique _).1 hregion, Option.bind_some]
  exact hplace 0 _ "cell-a" rfl rfl

end SourceMap

end NotebookEngine
