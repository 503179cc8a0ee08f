/-
**Lines of texts that are put together.**

A text that is empty or ends with a line break can be put before another text without touching its lines:
the lines of the whole are the lines that the first text ends, and then those of the second.

Main definitions:

* `Text.Closed` — the texts whose last line has been ended;
* `Text.endedLines` — the lines of a text that a line break ends.

Main results:

* `Text.pieces_append_sep`, `Text.pieces_meet` — a separator separates, and nothing else does;
* `Text.before_findPart` — the pieces before a separator that has a mark behind it;
* `Text.splitOnChar_append` — the lines of a closed text, and of what follows it;
* `Text.not_mem_splitOnChar` — no piece holds the separator.
-/

import NotebookEngine.Text.Blank
import NotebookEngine.Text.Lines

set_option autoImplicit false

namespace NotebookEngine

namespace Text

/-! ### Starts -/

/-- What follows a start that a text has. -/
theorem dropStart?_eq_some_iff {part cs rest : List Char} :
    dropStart? part cs = some rest ↔ cs = part ++ rest := by
  induction part generalizing cs with
  | nil => simp [dropStart?]
  | cons p part ih =>
      cases cs with
      | nil => simp [dropStart?]
      | cons c cs =>
          rw [dropStart?]
          split
          next h => simp [h, ih]
          next h => simp [Ne.symm h]

theorem isSome_dropStart? {part cs : List Char} : (dropStart? part cs).isSome = part.isPrefixOf cs := by
  rw [Bool.eq_iff_iff, List.isPrefixOf_iff_prefix, Option.isSome_iff_exists]
  exact exists_congr fun rest => dropStart?_eq_some_iff.trans eq_comm

/-! ### Pieces -/

/-- What stands before a separator and what stands after it are taken apart independently. -/
theorem pieces_append_sep (sep : Char) (as bs : List Char) :
    pieces sep (as ++ sep :: bs) = pieces sep as ++ pieces sep bs := by
  induction as with
  | nil => simp [pieces]
  | cons a as ih =>
      rw [List.cons_append, pieces, pieces]
      split
      next => rw [ih]; rfl
      next =>
        rw [ih]
        cases hp : pieces sep as with
        | nil => exact absurd hp (pieces_ne_nil sep as)
        | cons p ps => rfl

theorem pieces_of_not_mem {sep : Char} {cs : List Char} (h : sep ∉ cs) : pieces sep cs = [cs] := by
  induction cs with
  | nil => rfl
  | cons c cs ih =>
      rw [List.mem_cons, not_or] at h
      obtain ⟨hc, hcs⟩ := h
      rw [pieces, if_neg (Ne.symm hc), ih hcs]

/-- Where two texts meet, the last piece of the first and the first piece of the second make one. -/
theorem pieces_meet {sep : Char} {as bs a b : List Char} {before after : List (List Char)}
    (ha : pieces sep as = before ++ [a]) (hb : pieces sep bs = b :: after) :
    pieces sep (as ++ bs) = before ++ (a ++ b) :: after := by
  induction as generalizing before a with
  | nil =>
      obtain ⟨rfl, h⟩ := List.append_eq_singleton_iff.1 ha.symm |>.resolve_right (by simp)
      cases h
      exact hb
  | cons c as ih =>
      rw [pieces] at ha
      rw [List.cons_append, pieces]
      split at ha
      next hc =>
        rw [if_pos hc]
        cases before with
        | nil => exact absurd (List.cons.inj ha).2 (pieces_ne_nil sep as)
        | cons p before => rw [ih (List.cons.inj ha).2, ← (List.cons.inj ha).1, List.cons_append]
      next hc =>
        rw [if_neg hc]
        cases hp : pieces sep as with
        | nil => exact absurd hp (pieces_ne_nil sep as)
        | cons p ps =>
            rw [hp] at ha
            cases before with
            | nil =>
                obtain ⟨rfl, rfl⟩ := List.cons.inj ha
                have hone : pieces sep as = [] ++ [p] := hp
                rw [ih hone]
                rfl
            | cons q before =>
                obtain ⟨rfl, rfl⟩ := List.cons.inj ha
                have hcons : pieces sep as = (p :: before) ++ [a] := hp
                rw [ih hcons]
                rfl

theorem not_mem_pieces {sep : Char} {cs p : List Char} (h : p ∈ pieces sep cs) : sep ∉ p := by
  induction cs generalizing p with
  | nil => simp [List.mem_singleton.1 h]
  | cons c cs ih =>
      rw [pieces] at h
      split at h
      next =>
        rcases List.mem_cons.1 h with rfl | h
        · exact List.not_mem_nil
        · exact ih h
      next hc =>
        cases hp : pieces sep cs with
        | nil => exact absurd hp (pieces_ne_nil sep cs)
        | cons q qs =>
            rw [hp] at h
            rcases List.mem_cons.1 h with rfl | h
            · have hq : sep ∉ q := ih (by rw [hp]; exact List.mem_cons_self)
              rw [List.mem_cons, not_or]
              exact ⟨Ne.symm hc, hq⟩
            · refine ih ?_
              rw [hp]
              exact List.mem_cons_of_mem q h

/-- No piece of a text holds the separator. -/
theorem not_mem_splitOnChar {sep : Char} {s p : String} (h : p ∈ splitOnChar sep s) :
    sep ∉ p.toList := by
  obtain ⟨cs, hcs, rfl⟩ := List.mem_map.1 h
  rw [String.toList_ofList]
  exact not_mem_pieces hcs

theorem length_splitOnChar (sep : Char) (s : String) :
    (splitOnChar sep s).length = s.toList.count sep + 1 := by
  rw [splitOnChar, List.length_map, length_pieces]

/-- A mark without separators is at the start of a text if it is at the start of the first piece. -/
theorem isPrefix_iff_of_pieces {sep : Char} {mark cs p : List Char} {ps : List (List Char)} (hmark : sep ∉ mark)
    (hp : pieces sep cs = p :: ps) : mark <+: cs ↔ mark <+: p := by
  induction mark generalizing cs p ps with
  | nil => simp
  | cons m mark ih =>
      rw [List.mem_cons, not_or] at hmark
      cases cs with
      | nil =>
          cases hp
          rfl
      | cons c cs =>
          rw [pieces] at hp
          split at hp
          next hc =>
            cases hp
            rw [List.cons_prefix_cons, hc]
            simp [Ne.symm hmark.1]
          next hc =>
            cases hq : pieces sep cs with
            | nil => exact absurd hq (pieces_ne_nil sep cs)
            | cons q qs =>
                rw [hq] at hp
                cases hp
                rw [List.cons_prefix_cons, List.cons_prefix_cons, ih hmark.2 hq]

/-- A separator with a mark behind it is found where the first piece but the very first starts with the mark. -/
theorem before_findPart {sep : Char} {mark cs p : List Char} {ps : List (List Char)} (hmark : sep ∉ mark)
    (hp : pieces sep cs = p :: ps) :
    ((findPart (sep :: mark) cs).map Prod.fst).getD cs =
      [sep].intercalate (p :: ps.takeWhile fun q => !mark.isPrefixOf q) := by
  induction cs generalizing p ps with
  | nil =>
      cases hp
      rfl
  | cons c cs ih =>
      rw [pieces] at hp
      cases hq : pieces sep cs with
      | nil => exact absurd hq (pieces_ne_nil sep cs)
      | cons q qs =>
          rw [hq] at hp
          rw [findPart]
          split at hp
          next hc =>
            cases hp
            have hstart : (dropStart? (sep :: mark) (c :: cs)).isSome = mark.isPrefixOf q := by
              rw [isSome_dropStart?, Bool.eq_iff_iff, List.isPrefixOf_iff_prefix, List.isPrefixOf_iff_prefix, hc,
                List.cons_prefix_cons, isPrefix_iff_of_pieces hmark hq]
              exact and_iff_right rfl
            cases hfound : dropStart? (sep :: mark) (c :: cs) with
            | some rest =>
                rw [hfound] at hstart
                rw [List.takeWhile_cons_of_neg (by rw [← hstart]; simp)]
                rfl
            | none =>
                rw [hfound] at hstart
                rw [List.takeWhile_cons_of_pos (by rw [← hstart]; rfl), List.intercalate_cons_cons, ← ih hq, hc]
                cases findPart (sep :: mark) cs <;> rfl
          next hc =>
            cases hp
            have hnone : dropStart? (sep :: mark) (c :: cs) = none := if_neg (Ne.symm hc)
            have hcons : [sep].intercalate ((c :: q) :: ps.takeWhile fun q => !mark.isPrefixOf q) =
                c :: [sep].intercalate (q :: ps.takeWhile fun q => !mark.isPrefixOf q) := by
              cases ps.takeWhile fun q => !mark.isPrefixOf q with
              | nil => simp
              | cons r rs => simp [List.intercalate_cons_cons]
            rw [hnone, hcons, ← ih hq]
            cases findPart (sep :: mark) cs <;> rfl

/-- Trimming a text leaves characters of the text. -/
theorem mem_of_mem_trimRight {c : Char} {s : String} (h : c ∈ (trimRight s).toList) :
    c ∈ s.toList := by
  obtain ⟨bs, hs, -⟩ := dropBlanksRight_append_blanks s.toList
  rw [trimRight, String.toList_ofList] at h
  rw [hs]
  exact List.mem_append_left bs h

/-! ### Closed texts -/

/-- The text is empty or ends with a line break. -/
def Closed (s : String) : Prop := s = "" ∨ ∃ t : String, s = t ++ "\n"

theorem closed_empty : Closed "" := Or.inl rfl

theorem Closed.append {s t : String} (hs : Closed s) (ht : Closed t) : Closed (s ++ t) := by
  rcases ht with rfl | ⟨u, rfl⟩
  · rwa [String.append_empty]
  · exact Or.inr ⟨s ++ u, by rw [String.append_assoc]⟩

/-- The lines of a text that a line break ends. -/
def endedLines (s : String) : List String := (splitOnChar '\n' s).dropLast

/-- A line break ends each of them. -/
theorem length_endedLines (s : String) : (endedLines s).length = s.toList.count '\n' := by
  rw [endedLines, List.length_dropLast, length_splitOnChar, Nat.add_sub_cancel]

theorem splitOnChar_append_break (s t : String) :
    splitOnChar '\n' (s ++ "\n" ++ t) = splitOnChar '\n' s ++ splitOnChar '\n' t := by
  have htext : (s ++ "\n" ++ t).toList = s.toList ++ '\n' :: t.toList := by
    simp [String.toList_append]
  rw [splitOnChar, htext, pieces_append_sep, List.map_append, ← splitOnChar, ← splitOnChar]

/-- The lines of a closed text, and those of what follows it. -/
theorem splitOnChar_append {s : String} (hs : Closed s) (t : String) :
    splitOnChar '\n' (s ++ t) = endedLines s ++ splitOnChar '\n' t := by
  rcases hs with rfl | ⟨u, rfl⟩
  · rw [String.empty_append]
    rfl
  · have hended : endedLines (u ++ "\n") = splitOnChar '\n' u := by
      have h := splitOnChar_append_break u ""
      rw [String.append_empty] at h
      rw [endedLines, h]
      exact List.dropLast_concat
    rw [splitOnChar_append_break, hended]

end Text

end NotebookEngine
