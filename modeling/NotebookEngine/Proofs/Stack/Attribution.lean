/-
**The cell that an error is blamed on, and the trace that is shown with it.**

Both are read off the frames of one trace, but not by one rule.  The trace that is shown skips a frame of the
program that lies in no cell, as that of an import line which was moved to the start of the program.  The
search for the cell stops at that frame and then finds none.  So the cell of the first line that is shown is
blamed unless such a frame comes before it; then the blame is on the cell that is current, whatever the
trace says.

Main definitions:

* `CellPlaces.placeOf` — the place of a frame in a cell;
* `CellPlaces.isPlaced` — the frames at which the search for the cell stops;
* `CellPlaces.Leads` — the frame behind the first line that is shown.

Main results:

* `CellPlaces.exists_leads`, `CellPlaces.Leads.head?_traceLines` — a trace that shows something has such a
  frame, and shows it first;
* `CellPlaces.Leads.cellOfStack` — the cell that is found by the trace;
* `CellPlaces.shown_blame` — **which cell is blamed, beside what is shown**.
-/

import Mathlib.Data.List.TakeWhile
import NotebookEngine.Proofs.SourceMap.Merge
import NotebookEngine.Stack.CellPlaces

set_option autoImplicit false

namespace NotebookEngine

namespace CellPlaces

/-! ### Frames and their places -/

/-- The place of a frame in a cell. -/
def placeOf (map : SourceMap) (f : Frame) : Option SourceMap.CellPlace :=
  f.line?.bind fun line => map.mapLine line (f.column?.getD 0)

/-- The line that shows a frame at a place. -/
def lineAt (f : Frame) (place : SourceMap.CellPlace) : String :=
  "at " ++ functionTitle f.function? ++ ", line " ++ toString place.line

/-- Whether a frame has a line, in a file that is the program of the run. -/
def isPlaced (t : CellPlaces) (f : Frame) : Bool := f.line?.isSome && t.isProgramFile f.file

variable {t : CellPlaces} {map : SourceMap} {stack : String} {f : Frame}
  {place : SourceMap.CellPlace} {before : List Frame}

theorem frameLine_some (f : Frame) (map : SourceMap) :
    frameLine f (some map) = (placeOf map f).map (lineAt f) := by
  rw [frameLine, placeOf]
  cases f.line? with
  | none => rfl
  | some line => exact (Option.map_eq_bind ..).symm

theorem frameLine_none (f : Frame) : frameLine f none = none := by
  rw [frameLine]
  cases f.line? <;> rfl

theorem cellOfStack_eq (t : CellPlaces) (map : SourceMap) (stack : String) :
    t.cellOfStack map stack =
      ((Frame.ofTrace stack).find? t.isPlaced).bind fun f => (placeOf map f).map (·.cell) := by
  change ((Frame.ofTrace stack).find? t.isPlaced).bind _ = _
  refine Option.bind_congr fun f _ => ?_
  rw [placeOf]
  cases f.line? with
  | none => rfl
  | some line => exact (Option.map_eq_bind ..).symm

/-- A frame without a line has no place. -/
theorem isPlaced_of_placeOf (hfile : t.isProgramFile f.file = true) (hplace : placeOf map f = some place) :
    t.isPlaced f = true := by
  obtain ⟨line, hline, -⟩ := Option.bind_eq_some_iff.1 hplace
  rw [isPlaced, hline, hfile]
  rfl

/-! ### The first frame that is shown -/

/-- The frame that a trace shows first, with its place and the frames before it. -/
structure Leads (t : CellPlaces) (map : SourceMap) (stack : String) (before : List Frame) (f : Frame)
    (place : SourceMap.CellPlace) : Prop where
  frames : ∃ after, Frame.ofTrace stack = before ++ f :: after
  own : isBoundary f = false ∧ ∀ g ∈ before, isBoundary g = false
  skipped : ∀ g ∈ before, t.isProgramFile g.file = true → placeOf map g = none
  inProgram : t.isProgramFile f.file = true
  inCell : placeOf map f = some place

/-- What a trace shows of one frame. -/
def shownLine (t : CellPlaces) (map : SourceMap) (f : Frame) : Option String :=
  if t.isProgramFile f.file then (placeOf map f).map (lineAt f) else none

theorem traceLines_eq (hmap : t.compiled? = some map) (stack : String) :
    t.traceLines stack = (ownFrames (Frame.ofTrace stack)).filterMap (t.shownLine map) := by
  rw [traceLines, hmap, List.filterMap_filter]
  exact List.filterMap_congr fun f _ => by rw [frameLine_some, shownLine]

/-- A trace that shows something shows some frame first. -/
theorem exists_leads (h : t.traceLines stack ≠ []) :
    ∃ map before f place, t.compiled? = some map ∧ t.Leads map stack before f place := by
  cases hmap : t.compiled? with
  | none =>
      refine absurd ?_ h
      rw [traceLines, hmap, List.filterMap_eq_nil_iff]
      exact fun f _ => frameLine_none f
  | some map =>
      rw [traceLines_eq hmap] at h
      obtain ⟨line, hline⟩ := Option.ne_none_iff_exists'.1 (mt List.head?_eq_none_iff.1 h)
      rw [List.head?_filterMap, List.findSome?_eq_some_iff] at hline
      obtain ⟨before, f, after, hframes, hf, hbefore⟩ := hline
      have hown : ∀ g ∈ ownFrames (Frame.ofTrace stack), isBoundary g = false := by
        intro g hg
        have hpos := List.mem_takeWhile_imp hg
        rwa [Bool.not_eq_true'] at hpos
      rw [hframes] at hown
      rw [shownLine] at hf
      split at hf
      next hfile =>
        obtain ⟨place, hplace, -⟩ := Option.map_eq_some_iff.1 hf
        refine ⟨map, before, f, place, rfl, ⟨?_, ?_, ?_, hfile, hplace⟩⟩
        · refine ⟨after ++ (Frame.ofTrace stack).dropWhile fun f => !isBoundary f, ?_⟩
          rw [← List.cons_append, ← List.append_assoc, ← hframes, ownFrames, List.takeWhile_append_dropWhile]
        · exact ⟨hown f (List.mem_append_right _ List.mem_cons_self),
            fun g hg => hown g (List.mem_append_left _ hg)⟩
        · intro g hg hgfile
          have hnone := hbefore g hg
          rw [shownLine, if_pos hgfile, Option.map_eq_none_iff] at hnone
          exact hnone
      next => cases hf

namespace Leads

/-- The first line of a trace is that of the frame that leads. -/
theorem head?_traceLines (h : t.Leads map stack before f place) (hmap : t.compiled? = some map) :
    (t.traceLines stack).head? = some (lineAt f place) := by
  obtain ⟨after, hframes⟩ := h.frames
  have hown : ownFrames (before ++ f :: after) = before ++ f :: ownFrames after := by
    have hbefore : ∀ g ∈ before, (!isBoundary g) = true := fun g hg => by rw [h.own.2 g hg]; rfl
    have hf : (!isBoundary f) = true := by rw [h.own.1]; rfl
    rw [ownFrames, List.takeWhile_append_of_pos hbefore]
    exact congrArg (before ++ ·) (List.takeWhile_cons_of_pos hf)
  rw [traceLines_eq hmap, hframes, hown, List.head?_filterMap, List.findSome?_eq_some_iff]
  refine ⟨before, f, _, rfl, ?_, ?_⟩
  · rw [shownLine, if_pos h.inProgram, h.inCell, Option.map_some]
  · intro g hg
    rw [shownLine]
    split
    next hfile => rw [h.skipped g hg hfile, Option.map_none]
    next => rfl

/-- The search for the cell finds that of the frame that leads, unless it stops before. -/
theorem cellOfStack (h : t.Leads map stack before f place) :
    t.cellOfStack map stack = if before.any t.isPlaced then none else some place.cell := by
  obtain ⟨after, hframes⟩ := h.frames
  rw [cellOfStack_eq, hframes, List.find?_append]
  cases hfound : before.find? t.isPlaced with
  | some g =>
      have hg := List.mem_of_find?_eq_some hfound
      have hplaced := List.find?_some hfound
      have hfile : t.isProgramFile g.file = true := (Bool.and_eq_true_iff.1 hplaced).2
      rw [if_pos (List.any_eq_true.2 ⟨g, hg, hplaced⟩), Option.some_or, Option.bind_some,
        h.skipped g hg hfile, Option.map_none]
  | none =>
      have hany : ¬ before.any t.isPlaced = true := by
        rw [List.any_eq_true]
        rintro ⟨g, hg, hplaced⟩
        exact List.find?_eq_none.1 hfound g hg hplaced
      rw [if_neg hany, Option.none_or,
        List.find?_cons_of_pos (isPlaced_of_placeOf h.inProgram h.inCell), Option.bind_some, h.inCell,
        Option.map_some]

end Leads

/-! ### Errors -/

/-- **Which cell is blamed, beside what is shown.**  Take an error with a trace and without a place that a
compiler reports.  If anything of the trace is shown, then some frame leads, and its line is the first that
is shown.  If no frame before it has a line in the program, its cell is blamed.  Else the current cell is
blamed, so the two agree only where the current cell happens to be that of the frame. -/
theorem shown_blame (t : CellPlaces) (current? : Option String) (e : RawError) (stack : String)
    (hplace : e.place? = none) (hstack : e.stack? = some stack) :
    (t.shown current? e).stack? = some (t.trace stack) ∧
    (t.trace stack ≠ "" → ∃ map before f place,
      t.compiled? = some map ∧ t.Leads map stack before f place) ∧
    ∀ map before f place, t.compiled? = some map → t.Leads map stack before f place →
      (t.traceLines stack).head? =
        some ("at " ++ functionTitle f.function? ++ ", line " ++ toString place.line) ∧
      (t.shown current? e).cell? = (if before.any t.isPlaced then current? else some place.cell) ∧
      ((t.shown current? e).cell? = some place.cell ↔
        (∀ g ∈ before, t.isPlaced g = false) ∨ current? = some place.cell) := by
  have hcell : (t.shown current? e).cell? =
      (t.compiled?.bind fun map => t.cellOfStack map stack).or current? := by
    change t.blame current? e = _
    rw [blame, hplace, hstack]
    rfl
  refine ⟨congrArg (Option.map t.trace) hstack, ?_, ?_⟩
  · intro htrace
    refine exists_leads fun hnil => htrace ?_
    rw [trace, hnil]
    rfl
  · intro map before f place hmap hleads
    have hblame : (t.shown current? e).cell? =
        if before.any t.isPlaced then current? else some place.cell := by
      rw [hcell, hmap, Option.bind_some, hleads.cellOfStack]
      split <;> rfl
    refine ⟨hleads.head?_traceLines hmap, hblame, ?_⟩
    rw [hblame]
    split
    next hany =>
      obtain ⟨g, hg, hplaced⟩ := List.any_eq_true.1 hany
      refine ⟨.inr, fun h => h.resolve_left fun hnone => ?_⟩
      rw [hnone g hg] at hplaced
      cases hplaced
    next hany =>
      refine ⟨fun _ => .inl fun g hg => ?_, fun _ => rfl⟩
      rw [Bool.eq_false_iff]
      exact fun hplaced => hany (List.any_eq_true.2 ⟨g, hg, hplaced⟩)

/-- The places of a program that starts with a line from outside its two cells. -/
def behindImport : CellPlaces := ⟨"notebook", none, some SourceMap.twoCells⟩

/-- The trace of an error that was thrown on that line, called from the first cell. -/
def importedStack : String := "Error: no\n    at boom (eval_script:1:5)\n    at f (eval_script:4:3)"

/-- The trace shows a line of the first cell, and the second one is blamed. -/
theorem blamed_on_current :
    (behindImport.shown (some "b") ⟨some "Error: no", none, some importedStack⟩).stack? =
      some "at f, line 2" ∧
    behindImport.Leads SourceMap.twoCells importedStack [⟨some "boom", "eval_script", some 1, some 5⟩]
      ⟨some "f", "eval_script", some 4, some 3⟩ ⟨"a", 2, 0⟩ ∧
    (behindImport.shown (some "b") ⟨some "Error: no", none, some importedStack⟩).cell? = some "b" := by
  obtain ⟨hstack, -, hblame⟩ := shown_blame behindImport (some "b")
    ⟨some "Error: no", none, some importedStack⟩ importedStack rfl rfl
  have hleads : behindImport.Leads SourceMap.twoCells importedStack
      [⟨some "boom", "eval_script", some 1, some 5⟩] ⟨some "f", "eval_script", some 4, some 3⟩
      ⟨"a", 2, 0⟩ := by
    refine ⟨⟨[], ?_⟩, ⟨?_, ?_⟩, ?_, ?_, ?_⟩
    all_goals decide +kernel
  have hplaced : ([⟨some "boom", "eval_script", some 1, some 5⟩] : List Frame).any behindImport.isPlaced =
      true := by decide +kernel
  refine ⟨?_, hleads, ?_⟩
  · rw [hstack]
    decide +kernel
  · rw [(hblame _ _ _ _ rfl hleads).2.1, if_pos hplaced]

end CellPlaces

end NotebookEngine
