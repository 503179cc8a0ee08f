/-
**What is kept of a compiler's message.**

A compiler reports a complaint as a path, a message and a position in parentheses, and may show an excerpt of
the source after an empty line.  The excerpt is always dropped.  But the position is not looked for at the end
of what is left: it is looked for line by line, and only the text before it on its own line is kept.

So a report of one line keeps its path and its message, whatever they say in parentheses themselves.  A report
of several lines keeps one of them at most: the last one, or an earlier one if that has something in it that
looks like a position.

Main definitions:

* `HasPosition`, `LastPosition` — lines with a position, and the text before the last one;
* `report`, `withExcerpt` — what a compiler reports;
* `HasFullLines` — texts without empty lines.

Main results:

* `beforePosition_spec` — the text before the last position;
* `cleanMessage_report` — **what is kept of a report**, and when that is all of it;
* `cleanMessage_importedString` — a complaint of which half is lost.
-/

import NotebookEngine.Program.Compile
import NotebookEngine.Proofs.Stack.Frames

set_option autoImplicit false

namespace NotebookEngine

open Text (pieces)

/-! ### Positions -/

/-- A line and a column in parentheses. -/
def IsPosition (p : List Char) : Prop :=
  ∃ ds es, (∀ c ∈ ds, Text.isDecimalDigit c = true) ∧ (∀ c ∈ es, Text.isDecimalDigit c = true) ∧
    p = '(' :: (ds ++ ':' :: (es ++ [')']))

/-- Whether a line has a position in it. -/
def HasPosition (line : List Char) : Prop :=
  ∃ before p after, IsPosition p ∧ line = before ++ p ++ after

/-- Whether a text is what stands on a line before the last position. -/
structure LastPosition (line kept : List Char) : Prop where
  position : ∃ p after, IsPosition p ∧ line = kept ++ p ++ after
  last : ∀ before p after, IsPosition p → line = before ++ p ++ after → before.length ≤ kept.length

theorem positionMark_of_digits {ds es after : List Char} (hds : ∀ c ∈ ds, Text.isDecimalDigit c = true)
    (hes : ∀ c ∈ es, Text.isDecimalDigit c = true) :
    positionMark (ds ++ ':' :: (es ++ ')' :: after)) = some after := by
  have hcolon : Text.isDecimalDigit ':' = false := by decide
  have hclose : Text.isDecimalDigit ')' = false := by decide
  have hline : (ds ++ ':' :: (es ++ ')' :: after)).dropWhile Text.isDecimalDigit =
      ':' :: (es ++ ')' :: after) := by
    rw [List.dropWhile_append_of_pos hds, List.dropWhile_cons_of_neg (by rw [hcolon]; simp)]
  have hcolumn : (es ++ ')' :: after).dropWhile Text.isDecimalDigit = ')' :: after := by
    rw [List.dropWhile_append_of_pos hes, List.dropWhile_cons_of_neg (by rw [hclose]; simp)]
  simp only [positionMark, hline, hcolumn]

/-- What a position is without its opening mark. -/
theorem positionMark_eq_some {cs after : List Char} (h : positionMark cs = some after) :
    ∃ p, IsPosition p ∧ '(' :: cs = p ++ after := by
  rw [positionMark] at h
  split at h
  next rest hcolon =>
    split at h
    next after' hclose =>
      cases h
      refine ⟨_, ⟨cs.takeWhile Text.isDecimalDigit, rest.takeWhile Text.isDecimalDigit,
        fun c hc => List.mem_takeWhile_imp hc, fun c hc => List.mem_takeWhile_imp hc, rfl⟩, ?_⟩
      have hrest : rest = rest.takeWhile Text.isDecimalDigit ++ ')' :: after := by
        rw [← hclose, List.takeWhile_append_dropWhile]
      have hcs : cs = cs.takeWhile Text.isDecimalDigit ++ ':' :: rest := by
        rw [← hcolon, List.takeWhile_append_dropWhile]
      rw [hrest] at hcs
      simpa using hcs
    next => cases h
  next => cases h

theorem HasPosition.cons {c : Char} {cs : List Char} (h : HasPosition (c :: cs)) :
    (c = '(' ∧ (positionMark cs).isSome = true) ∨ HasPosition cs := by
  obtain ⟨before, p, after, ⟨ds, es, hds, hes, rfl⟩, heq⟩ := h
  cases before with
  | nil =>
      obtain ⟨rfl, rfl⟩ := List.cons.inj heq
      refine .inl ⟨rfl, ?_⟩
      have hmark : positionMark (ds ++ ':' :: (es ++ ')' :: after)) = some after :=
        positionMark_of_digits hds hes
      simp [hmark]
  | cons d before =>
      obtain ⟨-, rfl⟩ := List.cons.inj heq
      exact .inr ⟨before, _, after, ⟨ds, es, hds, hes, rfl⟩, rfl⟩

/-- What is found on a line is the text before the last position. -/
theorem beforePosition_spec (cs : List Char) :
    (∀ kept, beforePosition cs = some kept → LastPosition cs kept) ∧
      (beforePosition cs = none → ¬ HasPosition cs) := by
  induction cs with
  | nil =>
      refine ⟨nofun, ?_⟩
      rintro - ⟨before, p, after, ⟨ds, es, -, -, rfl⟩, heq⟩
      simp at heq
  | cons c cs ih =>
      rw [beforePosition]
      split
      next found hfound =>
        refine ⟨?_, nofun⟩
        rintro kept ⟨⟩
        obtain ⟨⟨p, after, hp, hcs⟩, hlast⟩ := ih.1 found hfound
        refine ⟨⟨p, after, hp, by rw [hcs]; rfl⟩, fun before q rest hq heq => ?_⟩
        cases before with
        | nil => exact Nat.zero_le _
        | cons d before =>
            obtain ⟨-, hrest⟩ := List.cons.inj heq
            exact Nat.succ_le_succ (hlast before q rest hq hrest)
      next hnone =>
        have hcs : ¬ HasPosition cs := ih.2 hnone
        split
        next hmark =>
          refine ⟨?_, nofun⟩
          rintro kept ⟨⟩
          obtain ⟨rfl, hsome⟩ := hmark
          obtain ⟨after, hafter⟩ := Option.isSome_iff_exists.1 hsome
          obtain ⟨p, hp, hwhole⟩ := positionMark_eq_some hafter
          refine ⟨⟨p, after, hp, hwhole⟩, fun before q rest hq heq => ?_⟩
          cases before with
          | nil => exact Nat.le_refl _
          | cons d before =>
              -- A later position would be one of the rest of the line.
              obtain ⟨-, hrest⟩ := List.cons.inj heq
              exact absurd ⟨before, q, rest, hq, hrest⟩ hcs
        next hmark =>
          refine ⟨nofun, fun _ hhas => ?_⟩
          rcases hhas.cons with hstart | hrest
          · exact hmark hstart
          · exact hcs hrest

/-- Without an opening mark there is no position. -/
theorem beforePosition_of_not_mem {cs : List Char} (h : '(' ∉ cs) : beforePosition cs = none := by
  induction cs with
  | nil => rfl
  | cons c cs ih =>
      rw [List.mem_cons, not_or] at h
      rw [beforePosition, ih h.2]
      exact if_neg fun hmark => h.1 hmark.1.symm

/-- A position at the end of a line is the last one. -/
theorem beforePosition_append {ds es : List Char} (cs : List Char) (hds : ∀ c ∈ ds, c.isDigit = true)
    (hes : ∀ c ∈ es, c.isDigit = true) :
    beforePosition (cs ++ '(' :: (ds ++ ':' :: (es ++ [')']))) = some cs := by
  induction cs with
  | nil =>
      have hdigits : ∀ l : List Char, (∀ c ∈ l, c.isDigit = true) → '(' ∉ l := by
        intro l hl hmem
        cases hl _ hmem
      have hnone : beforePosition (ds ++ ':' :: (es ++ [')'])) = none := by
        refine beforePosition_of_not_mem ?_
        simp only [List.mem_append, List.mem_cons, List.not_mem_nil, not_or]
        exact ⟨hdigits ds hds, by decide, hdigits es hes, by decide, not_false⟩
      have hmark : positionMark (ds ++ ':' :: (es ++ [')'])) = some [] :=
        positionMark_of_digits (fun c hc => Text.isDecimalDigit_of_isDigit c (hds c hc))
          fun c hc => Text.isDecimalDigit_of_isDigit c (hes c hc)
      rw [List.nil_append, beforePosition, hnone]
      exact if_pos ⟨rfl, by rw [hmark]; rfl⟩
  | cons c cs ih => rw [List.cons_append, beforePosition, ih]

/-! ### Reports -/

/-- What a compiler reports of a complaint. -/
def report (path message : String) (line column : Nat) : String :=
  path ++ ": " ++ message ++ " (" ++ toString line ++ ":" ++ toString column ++ ")"

/-- A report, with an excerpt of the source after an empty line, or without one. -/
def withExcerpt (report : String) : Option String → String
  | none => report
  | some excerpt => report ++ "\n\n" ++ excerpt

/-- Whether a text has no empty line. -/
def HasFullLines (s : String) : Prop := ∀ l ∈ pieces '\n' s.toList, l ≠ []

instance (s : String) : Decidable (HasFullLines s) :=
  inferInstanceAs (Decidable (∀ l ∈ pieces '\n' s.toList, l ≠ []))

theorem HasFullLines.append {s t : String} (hs : HasFullLines s) (ht : HasFullLines t) :
    HasFullLines (s ++ t) := by
  have hlines : pieces '\n' s.toList ≠ [] := Text.pieces_ne_nil '\n' s.toList
  have ha := (List.dropLast_append_getLast hlines).symm
  generalize (pieces '\n' s.toList).dropLast = before at ha
  generalize (pieces '\n' s.toList).getLast hlines = a at ha
  obtain ⟨b, after, hb⟩ := List.exists_cons_of_ne_nil (Text.pieces_ne_nil '\n' t.toList)
  rw [HasFullLines, ha] at hs
  rw [HasFullLines, hb, List.forall_mem_cons] at ht
  rw [HasFullLines, String.toList_append, Text.pieces_meet ha hb]
  intro l hl
  rw [List.mem_append, List.mem_cons] at hl
  rcases hl with hl | rfl | hl
  · exact hs l (List.mem_append_left _ hl)
  · exact List.append_ne_nil_of_right_ne_nil a ht.1
  · exact ht.2 l hl

/-- The lines before the excerpt are those of the report. -/
theorem takeWhile_withExcerpt {s : String} (hs : HasFullLines s) (excerpt? : Option String) :
    (pieces '\n' (withExcerpt s excerpt?).toList).takeWhile (fun l => !l.isEmpty) =
      pieces '\n' s.toList := by
  have hfull : ∀ l ∈ pieces '\n' s.toList, (!l.isEmpty) = true := by
    intro l hl
    rw [Bool.not_eq_true', List.isEmpty_eq_false_iff]
    exact hs l hl
  cases excerpt? with
  | none => exact List.takeWhile_eq_self_iff.2 hfull
  | some excerpt =>
      have htext : (withExcerpt s (some excerpt)).toList =
          s.toList ++ '\n' :: ([] ++ '\n' :: excerpt.toList) := by
        simp [withExcerpt, String.toList_append]
      rw [htext, Text.pieces_append_sep, Text.pieces_append_sep, List.takeWhile_append_of_pos hfull]
      simp

/-- The lines of a report: those of its path and its message, the last of them with the position. -/
theorem pieces_report {path message : String} {before : List (List Char)} {a : List Char}
    (h : pieces '\n' (path ++ ": " ++ message ++ " ").toList = before ++ [a]) (line column : Nat) :
    pieces '\n' (report path message line column).toList =
      before ++ [a ++ '(' :: ((toString line).toList ++ ':' :: ((toString column).toList ++ [')']))] := by
  have htext : (report path message line column).toList =
      (path ++ ": " ++ message ++ " ").toList ++
        '(' :: ((toString line).toList ++ ':' :: ((toString column).toList ++ [')'])) := by
    simp [report, String.toList_append]
  have hdigits : ∀ n : Nat, '\n' ∉ (toString n).toList := fun n => Frame.not_mem_toString (by decide) n
  have hposition : '\n' ∉ '(' :: ((toString line).toList ++ ':' :: ((toString column).toList ++ [')'])) := by
    simp only [List.mem_cons, List.mem_append, List.not_mem_nil, not_or]
    exact ⟨by decide, hdigits line, by decide, hdigits column, by decide, not_false⟩
  rw [htext, Text.pieces_meet h (Text.pieces_of_not_mem hposition)]

theorem hasFullLines_report {path message : String} (hpath : HasFullLines path)
    (hmessage : HasFullLines message) (line column : Nat) : HasFullLines (report path message line column) := by
  have hnumber : ∀ n : Nat, HasFullLines (toString n) := by
    intro n l hl
    rw [Text.pieces_of_not_mem (Frame.not_mem_toString (by decide) n), List.mem_singleton] at hl
    rw [hl]
    exact Text.toString_ne_nil n
  have hstart : HasFullLines (path ++ ": " ++ message ++ " (") :=
    ((hpath.append (by decide)).append hmessage).append (by decide)
  exact (((hstart.append (hnumber line)).append (by decide)).append (hnumber column)).append (by decide)

/-- Some line of a report has a position: the last one, if no other. -/
theorem findSome?_report {path message : String} {before : List (List Char)} {a : List Char}
    (h : pieces '\n' (path ++ ": " ++ message ++ " ").toList = before ++ [a]) (line column : Nat) :
    (pieces '\n' (report path message line column).toList).findSome? beforePosition =
      (before.findSome? beforePosition).or (some a) := by
  have hlast : beforePosition (a ++ '(' :: ((toString line).toList ++ ':' :: ((toString column).toList ++ [')'])))
      = some a :=
    beforePosition_append a (fun _ => Text.isDigit_of_mem_toString) fun _ => Text.isDigit_of_mem_toString
  rw [pieces_report h, List.findSome?_append, List.findSome?_cons, hlast]

theorem cleanMessage_withExcerpt {s : String} (hs : HasFullLines s) {kept : List Char}
    (h : (pieces '\n' s.toList).findSome? beforePosition = some kept) (excerpt? : Option String) :
    cleanMessage (withExcerpt s excerpt?) = String.ofList kept := by
  simp only [cleanMessage, takeWhile_withExcerpt hs, h]

/-- What is kept of a report is what stands before the last position on the first of its lines that has one.
That is all of the path and the message exactly if neither has a line break. -/
theorem cleanMessage_report (path message : String) (line column : Nat) (excerpt? : Option String)
    (hpath : HasFullLines path) (hmessage : HasFullLines message) :
    (∃ before l after kept,
      pieces '\n' (report path message line column).toList = before ++ l :: after ∧
        (∀ b ∈ before, ¬ HasPosition b) ∧ LastPosition l kept ∧
        cleanMessage (withExcerpt (report path message line column) excerpt?) = String.ofList kept) ∧
    (cleanMessage (withExcerpt (report path message line column) excerpt?) = path ++ ": " ++ message ++ " " ↔
      '\n' ∉ path.toList ∧ '\n' ∉ message.toList) := by
  have hlines := Text.pieces_ne_nil '\n' (path ++ ": " ++ message ++ " ").toList
  have hfull : HasFullLines (report path message line column) :=
    hasFullLines_report hpath hmessage line column
  have hfound := findSome?_report (List.dropLast_append_getLast hlines).symm line column
  obtain ⟨kept, hkept⟩ : ∃ kept,
      (pieces '\n' (report path message line column).toList).findSome? beforePosition = some kept :=
    Option.isSome_iff_exists.1 (by rw [hfound]; simp)
  have hclean := cleanMessage_withExcerpt hfull hkept excerpt?
  obtain ⟨before, l, after, hreport, hl, hbefore⟩ := List.findSome?_eq_some_iff.1 hkept
  have hposition : LastPosition l kept := (beforePosition_spec l).1 kept hl
  refine ⟨⟨before, l, after, kept, hreport, fun b hb => (beforePosition_spec b).2 (hbefore b hb), hposition,
    hclean⟩, ?_⟩
  have hbreaks : '\n' ∉ (path ++ ": " ++ message ++ " ").toList ↔ '\n' ∉ path.toList ∧ '\n' ∉ message.toList := by
    simp [String.toList_append]
  rw [hclean, ← hbreaks]
  constructor
  · -- What is kept is a part of one line.
    intro hall
    have hmem : l ∈ pieces '\n' (report path message line column).toList := by
      rw [hreport]
      exact List.mem_append_right _ List.mem_cons_self
    have hline : '\n' ∉ l := Text.not_mem_pieces hmem
    obtain ⟨p, rest, -, hp⟩ := hposition.position
    rw [← hall, String.toList_ofList]
    intro hbreak
    rw [hp] at hline
    exact hline (List.mem_append_left _ (List.mem_append_left _ hbreak))
  · -- There is one line only, and its last position is that of the report.
    intro hnone
    have hone := @findSome?_report path message [] _ (Text.pieces_of_not_mem hnone) line column
    rw [hkept] at hone
    cases hone
    exact String.ofList_toList

/-- A complaint of two lines, of which the first is lost together with the path. -/
theorem cleanMessage_importedString :
    HasFullLines "./in-memory-file.ts" ∧ HasFullLines (Script.Complaint.importString "a b").message ∧
      cleanMessage (withExcerpt
          (report "./in-memory-file.ts" (Script.Complaint.importString "a b").message 1 9) none) =
        "- Did you mean \x60import \x7b \"a b\" as foo \x7d\x60? " ∧
      cleanMessage (withExcerpt
          (report "./in-memory-file.ts" (Script.Complaint.importString "a b").message 1 9) none) ≠
        "./in-memory-file.ts" ++ ": " ++ (Script.Complaint.importString "a b").message ++ " " := by
  have hpath : HasFullLines "./in-memory-file.ts" := by decide
  have hmessage : HasFullLines (Script.Complaint.importString "a b").message := by decide
  refine ⟨hpath, hmessage, by decide +kernel, fun hall => ?_⟩
  have hbreaks := ((cleanMessage_report "./in-memory-file.ts" _ 1 9 none hpath hmessage).2.1 hall).2
  revert hbreaks
  decide

end NotebookEngine
