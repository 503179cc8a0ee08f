/-
**What of a trace is shown.**

An error without a message is shown with the text that its trace starts with, and with the lines of the trace
that lie in cells.  The text is meant to end where the frames start.  But frames are told by a mark, whatever
blanks stand before it, and the end of the text by a line break and the mark at one fixed indentation.

So the text is cut at the first frame line exactly if that line is not the first one, is indented as the engine
does it, and no other line before it looks like it.  Else lines of the text are lost, or frame lines are shown as
they are: those of a trace that starts with a frame, or that is indented in another way.

Main definitions:

* `CellPlaces.isFrameLine`, `CellPlaces.linesBeforeFrames` — the lines that are frames, and those before;
* `CellPlaces.messageLines`, `CellPlaces.messageText` — the lines that are shown as a message, and the message;
* `CellPlaces.ShownAs`, `CellPlaces.Tail` — what is shown of a frame, and what follows the message.

Main results:

* `CellPlaces.messageOf_eq` — the message that is found in a trace;
* `CellPlaces.messageText_eq_iff` — another cut gives another message;
* `CellPlaces.tail_shown` — what follows the message comes from cells;
* `CellPlaces.shown_unstated` — **what is shown of a trace, and when no frame line is**.
-/

import NotebookEngine.Proofs.Stack.Attribution
import NotebookEngine.Proofs.Stack.Frames

set_option autoImplicit false

namespace NotebookEngine

namespace CellPlaces

open Text (pieces)

/-! ### Lines of a trace -/

/-- Whether a frame is read of a line. -/
def isFrameLine (line : List Char) : Bool := (Frame.textOfLine? line).isSome

/-- How the engine starts the line of a frame. -/
def engineMark : List Char := "    at".toList

/-- The lines before the first of a frame. -/
def linesBeforeFrames (stack : String) : List (List Char) :=
  (pieces '\n' stack.toList).takeWhile fun l => !isFrameLine l

/-- The first line, and those that follow up to one that starts as the engine starts that of a frame. -/
def messageLines (stack : String) : List (List Char) :=
  match pieces '\n' stack.toList with
  | [] => []
  | l :: rest => l :: rest.takeWhile fun l => !engineMark.isPrefixOf l

/-- The message that lines make. -/
def messageText (lines : List (List Char)) : String :=
  (nonempty (some (Text.trim (String.ofList (['\n'].intercalate lines))))).getD fallback

variable {t : CellPlaces} {e : RawError} {stack : String} {line : List Char}
  {lines : List (List Char)}

theorem headOfStack_eq (stack : String) :
    headOfStack stack = Text.trim (String.ofList (['\n'].intercalate (messageLines stack))) := by
  obtain ⟨l, rest, hlines⟩ := List.exists_cons_of_ne_nil (Text.pieces_ne_nil '\n' stack.toList)
  have hbefore := @Text.before_findPart '\n' engineMark _ _ _ (by decide) hlines
  have hmark : "\n    at".toList = '\n' :: engineMark := rfl
  rw [headOfStack, messageLines, hlines, hmark]
  cases hfound : Text.findPart ('\n' :: engineMark) stack.toList with
  | none =>
      rw [hfound] at hbefore
      rw [← hbefore]
      exact congrArg Text.trim String.ofList_toList.symm
  | some parts =>
      rw [hfound] at hbefore
      rw [← hbefore]
      rfl

/-- The message of an error that states none is found in its trace. -/
theorem messageOf_eq (hmessage : ∀ m, e.message? = some m → withoutFile m = "") (hstack : e.stack? = some stack) :
    messageOf e = messageText (messageLines stack) := by
  have hstated : nonempty (e.message?.map withoutFile) = none := by
    cases hm : e.message? with
    | none => rfl
    | some m =>
        rw [Option.map_some, hmessage m hm]
        rfl
  rw [messageOf, hstated, hstack, Option.map_some, headOfStack_eq]
  rfl

/-! ### Letters of a message -/

/-- The characters of a text that are not blank. -/
def letters (cs : List Char) : List Char := cs.filter fun c => !Text.isBlank c

theorem letters_append (as bs : List Char) : letters (as ++ bs) = letters as ++ letters bs :=
  List.filter_append ..

theorem letters_blanks {bs : List Char} (h : ∀ b ∈ bs, Text.isBlank b = true) : letters bs = [] := by
  refine List.filter_eq_nil_iff.2 fun b hb => ?_
  rw [h b hb]
  decide

theorem letters_trimmed (cs : List Char) : letters (Frame.trimmed cs) = letters cs := by
  obtain ⟨bs, hright, hbs⟩ := Text.dropBlanksRight_append_blanks (Text.dropBlanksLeft cs)
  have hleft : letters (Text.dropBlanksLeft cs) = letters cs := by
    conv => rhs; rw [← List.takeWhile_append_dropWhile (p := Text.isBlank) (l := cs), letters_append,
      letters_blanks fun b hb => List.mem_takeWhile_imp hb]
    rfl
  rw [← hleft]
  conv => rhs; rw [hright, letters_append, letters_blanks hbs, List.append_nil]
  rfl

theorem letters_eq_nil_iff (cs : List Char) : letters cs = [] ↔ Frame.trimmed cs = [] := by
  rw [← letters_trimmed]
  refine ⟨fun h => ?_, fun h => by rw [h]; rfl⟩
  cases htrimmed : Frame.trimmed cs with
  | nil => rfl
  | cons c rest =>
      have hc : Text.isBlank c = false := (Text.hasBareEnds_trim cs).1 c (by
        rw [← Frame.trimmed, htrimmed]
        rfl)
      rw [htrimmed, letters, List.filter_cons_of_pos (by rw [hc]; rfl)] at h
      cases h

theorem letters_intercalate (lines : List (List Char)) :
    letters (['\n'].intercalate lines) = lines.flatMap letters := by
  induction lines with
  | nil => rfl
  | cons l lines ih =>
      cases lines with
      | nil => rw [List.intercalate_singleton, List.flatMap_singleton]
      | cons m lines =>
          rw [List.intercalate_cons_cons, letters_append, letters_append, ih, List.flatMap_cons]
          simp [letters, Text.isBlank]

theorem messageText_eq (lines : List (List Char)) :
    messageText lines =
      if Frame.trimmed (['\n'].intercalate lines) = [] then fallback
      else String.ofList (Frame.trimmed (['\n'].intercalate lines)) := by
  have htrim : Text.trim (String.ofList (['\n'].intercalate lines)) =
      String.ofList (Frame.trimmed (['\n'].intercalate lines)) := by
    rw [Text.trim, String.toList_ofList]
    rfl
  rw [messageText, htrim]
  cases Frame.trimmed (['\n'].intercalate lines) with
  | nil => rfl
  | cons c cs =>
      have hne : (String.ofList (c :: cs)).isEmpty = false := by
        rw [Bool.eq_false_iff, ne_eq, String.isEmpty_iff, ← String.toList_inj, String.toList_ofList]
        nofun
      rw [nonempty, Option.filter_some, hne]
      rfl

/-- The letters of a message are those of its lines, if they have any. -/
theorem letters_messageText (lines : List (List Char)) :
    letters (messageText lines).toList =
      if lines.flatMap letters = [] then letters fallback.toList else lines.flatMap letters := by
  rw [messageText_eq, ← letters_intercalate]
  by_cases hnone : Frame.trimmed (['\n'].intercalate lines) = []
  · rw [if_pos hnone, if_pos ((letters_eq_nil_iff _).2 hnone)]
  · rw [if_neg hnone, if_neg (mt (letters_eq_nil_iff _).1 hnone), String.toList_ofList, letters_trimmed]

/-- A further line with letters makes another message. -/
theorem messageText_append_ne (hline : (letters line).head? = some 'a') (before after : List (List Char)) :
    messageText (before ++ line :: after) ≠ messageText before := by
  intro heq
  obtain ⟨ls, hls⟩ := List.head?_eq_some_iff.1 hline
  have hwhole : (before ++ line :: after).flatMap letters =
      before.flatMap letters ++ 'a' :: (ls ++ after.flatMap letters) := by
    rw [List.flatMap_append, List.flatMap_cons, hls, List.cons_append]
  have hsome : before.flatMap letters ++ 'a' :: (ls ++ after.flatMap letters) ≠ [] :=
    List.append_ne_nil_of_right_ne_nil _ (List.cons_ne_nil _ _)
  have hletters := letters_messageText (before ++ line :: after)
  rw [heq, letters_messageText before, hwhole, if_neg hsome] at hletters
  split at hletters
  next hnone =>
    -- The message that stands for none starts with another letter.
    rw [hnone, List.nil_append] at hletters
    have hfirst : 'A' = 'a' := (List.cons.inj hletters).1
    revert hfirst
    decide
  next => simp at hletters

/-! ### Two cuts -/

theorem head?_letters_of_isFrameLine (h : isFrameLine line = true) : (letters line).head? = some 'a' := by
  obtain ⟨text, htext⟩ := Option.isSome_iff_exists.1 h
  rw [Frame.textOfLine?, Text.dropStart?_eq_some_iff] at htext
  rw [← letters_trimmed, htext]
  rfl

theorem head?_letters_of_engineMark (h : engineMark.isPrefixOf line = true) :
    (letters line).head? = some 'a' := by
  obtain ⟨rest, rfl⟩ := List.isPrefixOf_iff_prefix.1 h
  rfl

theorem linesBeforeFrames_isPrefix (stack : String) : linesBeforeFrames stack <+: pieces '\n' stack.toList :=
  List.takeWhile_prefix _

theorem messageLines_isPrefix (stack : String) : messageLines stack <+: pieces '\n' stack.toList := by
  rw [messageLines]
  split
  next => exact List.nil_prefix
  next l rest h =>
    rw [h]
    exact (List.prefix_cons_inj l).2 (List.takeWhile_prefix _)

/-- What follows the start of a list where something holds is where it does not. -/
theorem not_of_takeWhile_append {α : Type*} {p : α → Bool} {as rest : List α} {a : α}
    (h : as.takeWhile p ++ a :: rest <+: as) : p a = false := by
  obtain ⟨after, hafter⟩ := h
  have hcut : as.takeWhile p ++ a :: (rest ++ after) = as.takeWhile p ++ as.dropWhile p := by
    rw [List.takeWhile_append_dropWhile, ← List.cons_append, ← List.append_assoc, hafter]
  have hnot := List.head?_dropWhile_not p as
  rwa [← List.append_cancel_left hcut] at hnot

/-- Another cut gives another message. -/
theorem messageText_eq_iff (stack : String) :
    messageText (messageLines stack) = messageText (linesBeforeFrames stack) ↔
      messageLines stack = linesBeforeFrames stack := by
  refine ⟨fun heq => ?_, fun h => by rw [h]⟩
  rcases List.prefix_or_prefix_of_prefix (messageLines_isPrefix stack) (linesBeforeFrames_isPrefix stack) with
    ⟨rest, hrest⟩ | ⟨rest, hrest⟩
  · cases rest with
    | nil => rw [← hrest, List.append_nil]
    | cons line rest =>
        -- The message is cut at a line that the engine's mark starts.
        have hline : engineMark.isPrefixOf line = true := by
          have hprefix := linesBeforeFrames_isPrefix stack
          obtain ⟨l, lines, hlines⟩ := List.exists_cons_of_ne_nil (Text.pieces_ne_nil '\n' stack.toList)
          rw [← hrest, messageLines, hlines, List.cons_append, List.prefix_cons_inj] at hprefix
          rw [← Bool.not_eq_false', not_of_takeWhile_append hprefix]
        rw [← hrest] at heq
        exact absurd heq.symm (messageText_append_ne (head?_letters_of_engineMark hline) _ _)
  · cases rest with
    | nil => rw [← hrest, List.append_nil]
    | cons line rest =>
        have hline : isFrameLine line = true := by
          have hprefix := messageLines_isPrefix stack
          rw [← hrest, linesBeforeFrames] at hprefix
          rw [← Bool.not_eq_false', not_of_takeWhile_append hprefix]
        rw [← hrest] at heq
        exact absurd heq (messageText_append_ne (head?_letters_of_isFrameLine hline) _ _)

/-- A line is a part of the text that is made of it and others. -/
theorem isInfix_intercalate (sep : List Char) (hmem : line ∈ lines) : line <:+: sep.intercalate lines := by
  induction lines with
  | nil => cases hmem
  | cons l lines ih =>
      cases lines with
      | nil =>
          rw [List.intercalate_singleton]
          exact List.mem_singleton.1 hmem ▸ List.infix_refl line
      | cons m lines =>
          rw [List.intercalate_cons_cons]
          rcases List.mem_cons.1 hmem with rfl | hrest
          · rw [List.append_assoc]
            exact (List.prefix_append line _).isInfix
          · exact (ih hrest).trans (List.suffix_append _ _).isInfix

/-- A frame line among those of the message is shown as it is. -/
theorem isInfix_messageText (hmem : line ∈ lines) (hline : isFrameLine line = true) :
    Frame.trimmed line <:+: (messageText lines).toList := by
  have htrimmed : Frame.trimmed line <:+: line := by
    obtain ⟨bs, hright, -⟩ := Text.dropBlanksRight_append_blanks (Text.dropBlanksLeft line)
    have hprefix : Frame.trimmed line <+: Text.dropBlanksLeft line := ⟨bs, hright.symm⟩
    exact hprefix.isInfix.trans (List.dropWhile_suffix _).isInfix
  have hwhole : Frame.trimmed line <:+: Frame.trimmed (['\n'].intercalate lines) :=
    Text.isInfix_trim (Text.hasBareEnds_trim line) (htrimmed.trans (isInfix_intercalate ['\n'] hmem))
  have hsome : Frame.trimmed (['\n'].intercalate lines) ≠ [] := by
    intro hnone
    rw [hnone, List.infix_nil, ← letters_eq_nil_iff] at hwhole
    have hfirst := head?_letters_of_isFrameLine hline
    rw [hwhole] at hfirst
    cases hfirst
  rw [messageText_eq, if_neg hsome, String.toList_ofList]
  exact hwhole

/-! ### What follows the message -/

/-- What is shown of a frame: a line in a cell. -/
def ShownAs (t : CellPlaces) (f : Frame) (line : String) : Prop :=
  t.isProgramFile f.file = true ∧ ∃ map place, t.compiled? = some map ∧ placeOf map f = some place ∧
    line = "at " ++ functionTitle f.function? ++ ", line " ++ toString place.line

/-- What follows the message of an error: the place of the error, or the lines of frames of the program before
the first of the host's around a cell, or nothing. -/
inductive Tail (t : CellPlaces) (e : RawError) (stack : String) : String → Prop
  | place {text : String} {line : Nat} (hplace : t.placeLine e = some text)
      (htext : text = "at Code cell, line " ++ toString line) : Tail t e stack ("\r\n" ++ text)
  | trace {fs : List Frame} (hplace : t.placeLine e = none) (hlines : t.traceLines stack ≠ [])
      (hframes : fs.Sublist (ownFrames (Frame.ofTrace stack)))
      (hshown : List.Forall₂ t.ShownAs fs (t.traceLines stack)) :
      Tail t e stack ("\r\n" ++ "\n".intercalate (t.traceLines stack))
  | none (hplace : t.placeLine e = none) (hlines : t.traceLines stack = []) : Tail t e stack ""

theorem exists_sublist_filterMap {α β : Type*} (f : α → Option β) (as : List α) :
    ∃ bs, bs.Sublist as ∧ List.Forall₂ (fun b c => f b = some c) bs (as.filterMap f) := by
  induction as with
  | nil => exact ⟨[], .slnil, .nil⟩
  | cons a as ih =>
      obtain ⟨bs, hbs, hall⟩ := ih
      cases ha : f a with
      | none => exact ⟨bs, hbs.cons a, by rwa [List.filterMap_cons_none ha]⟩
      | some c => exact ⟨a :: bs, hbs.cons_cons a, by rw [List.filterMap_cons_some ha]; exact .cons ha hall⟩

/-- The lines of a trace are those of frames of the program, in order. -/
theorem exists_frames_traceLines (t : CellPlaces) (stack : String) :
    ∃ fs : List Frame, fs.Sublist (ownFrames (Frame.ofTrace stack)) ∧
      List.Forall₂ t.ShownAs fs (t.traceLines stack) := by
  cases hmap : t.compiled? with
  | none =>
      have hnone : t.traceLines stack = [] := by
        by_contra hsome
        obtain ⟨map, -, -, -, hcompiled, -⟩ := exists_leads hsome
        rw [hmap] at hcompiled
        cases hcompiled
      rw [hnone]
      exact ⟨[], List.nil_sublist _, .nil⟩
  | some map =>
      rw [traceLines_eq hmap]
      obtain ⟨fs, hfs, hall⟩ := exists_sublist_filterMap (t.shownLine map) (ownFrames (Frame.ofTrace stack))
      refine ⟨fs, hfs, hall.imp fun f line hline => ?_⟩
      rw [shownLine] at hline
      split at hline
      next hfile =>
        obtain ⟨place, hplace, rfl⟩ := Option.map_eq_some_iff.1 hline
        exact ⟨hfile, map, place, hmap, hplace, rfl⟩
      next => cases hline

/-- A trace shows nothing if it has no lines. -/
theorem trace_eq_empty_iff (t : CellPlaces) (stack : String) : t.trace stack = "" ↔ t.traceLines stack = [] := by
  refine ⟨fun hempty => ?_, fun h => by rw [trace, h]; rfl⟩
  by_contra hsome
  obtain ⟨map, before, f, place, hmap, hleads⟩ := exists_leads hsome
  obtain ⟨rest, hlines⟩ := List.head?_eq_some_iff.1 (hleads.head?_traceLines hmap)
  have hfirst : (lineAt f place).toList <:+: (t.trace stack).toList := by
    rw [trace, String.toList_intercalate]
    refine isInfix_intercalate _ (List.mem_map_of_mem ?_)
    rw [hlines]
    exact List.mem_cons_self
  rw [hempty, String.toList_empty, List.infix_nil, lineAt, String.toList_append, String.toList_append,
    String.toList_append] at hfirst
  cases hfirst

theorem function?_ofLocator (locator : List Char) : (Frame.ofLocator locator).function? = none := by
  rw [Frame.ofLocator]
  generalize ((pieces ':' (Frame.trimmed locator)).map Frame.trimmed).reverse = parts
  rcases parts with _ | ⟨p, _ | ⟨q, rest⟩⟩
  · rfl
  · rfl
  · rw [Frame.ofParts]
    split
    next => rfl
    next => split <;> rfl

/-- A frame without a function is shown as the cell itself. -/
theorem frameLine_of_function?_eq_none {f : Frame} {map? : Option SourceMap} {text : String}
    (hfunction : f.function? = none) (h : frameLine f map? = some text) :
    ∃ line : Nat, text = "at Code cell, line " ++ toString line := by
  cases map? with
  | none =>
      rw [frameLine_none] at h
      cases h
  | some map =>
      rw [frameLine_some] at h
      obtain ⟨place, -, rfl⟩ := Option.map_eq_some_iff.1 h
      exact ⟨place.line, by rw [lineAt, hfunction]; rfl⟩

/-- The place of an error is shown as a line of the cell itself. -/
theorem placeLine_eq_some {text : String} (h : t.placeLine e = some text) :
    ∃ line : Nat, text = "at Code cell, line " ++ toString line := by
  rw [placeLine] at h
  split at h
  next reported hreported =>
    cases h
    obtain ⟨place, -, hline⟩ := Option.bind_eq_some_iff.1 hreported
    exact frameLine_of_function?_eq_none rfl hline
  next =>
    obtain ⟨stack, -, hplace⟩ := Option.bind_eq_some_iff.1 h
    rw [placeOfStack] at hplace
    split at hplace
    next => exact frameLine_of_function?_eq_none (function?_ofLocator _) hplace
    next => cases hplace

/-- What follows the message comes from cells. -/
theorem tail_shown (t : CellPlaces) (current? : Option String) (hstack : e.stack? = some stack) :
    ∃ tail, (t.shown current? e).display = messageOf e ++ tail ∧ t.Tail e stack tail := by
  obtain ⟨fs, hfs, hall⟩ := exists_frames_traceLines t stack
  cases hplace : t.placeLine e with
  | some text =>
      obtain ⟨line, htext⟩ := placeLine_eq_some hplace
      refine ⟨"\r\n" ++ text, ?_, .place hplace htext⟩
      rw [shown, hplace]
      rfl
  | none =>
      by_cases hlines : t.traceLines stack = []
      · have hempty : nonempty (some (t.trace stack)) = none := by
          rw [(trace_eq_empty_iff t stack).2 hlines]
          rfl
        refine ⟨"", ?_, .none hplace hlines⟩
        rw [shown, hplace, hstack]
        dsimp only [Option.map_some, Option.none_or]
        rw [hempty]
      · have hsome : nonempty (some (t.trace stack)) = some (t.trace stack) := by
          rw [nonempty, Option.filter_some, if_pos]
          rw [Bool.not_eq_true', Bool.eq_false_iff, ne_eq, String.isEmpty_iff, trace_eq_empty_iff]
          exact hlines
        refine ⟨_, ?_, .trace hplace hlines hfs hall⟩
        rw [shown, hplace, hstack]
        dsimp only [Option.map_some, Option.none_or]
        rw [hsome]
        rfl

/-! ### Errors -/

/-- **What is shown of a trace, and when no frame line is.**  Take an error with a trace, whose message is
missing, or empty behind the program's name.  It is shown with a message that is found in the trace, and what
follows the message comes from cells.  The message is the text before the first frame line exactly if that is
where it is cut.  A frame line before the cut is shown as it is. -/
theorem shown_unstated (t : CellPlaces) (current? : Option String) (e : RawError) (stack : String)
    (hmessage : ∀ m, e.message? = some m → withoutFile m = "") (hstack : e.stack? = some stack) :
    ∃ tail, t.Tail e stack tail ∧
      (t.shown current? e).display = messageText (messageLines stack) ++ tail ∧
      ((t.shown current? e).display = messageText (linesBeforeFrames stack) ++ tail ↔
        messageLines stack = linesBeforeFrames stack) ∧
      ∀ line ∈ messageLines stack, isFrameLine line = true →
        Frame.trimmed line <:+: (t.shown current? e).display.toList := by
  obtain ⟨tail, hdisplay, htail⟩ := tail_shown t current? hstack
  rw [messageOf_eq hmessage hstack] at hdisplay
  refine ⟨tail, htail, hdisplay, ?_, fun line hmem hline => ?_⟩
  · have hcancel : ∀ s u : String, s ++ tail = u ++ tail ↔ s = u := by
      intro s u
      rw [← String.toList_inj, String.toList_append, String.toList_append, List.append_cancel_right_eq,
        String.toList_inj]
    rw [hdisplay, hcancel]
    exact messageText_eq_iff stack
  · rw [hdisplay, String.toList_append]
    exact (isInfix_messageText hmem hline).trans (List.prefix_append _ _).isInfix

/-- A trace that starts with a frame: of a line outside of the cells, called from the first cell. -/
def bareStack : String := "    at boom (eval_script:1:5)\n    at f (eval_script:4:3)"

/-- Its first frame line is shown in place of a message. -/
theorem shown_bareStack :
    (∀ m, (RawError.mk none none (some bareStack)).message? = some m → withoutFile m = "") ∧
    (RawError.mk none none (some bareStack)).stack? = some bareStack ∧
    (behindImport.shown (some "b") ⟨none, none, some bareStack⟩).display =
      "at boom (eval_script:1:5)\r\nat f, line 2" ∧
    "at boom (eval_script:1:5)".toList <:+:
      (behindImport.shown (some "b") ⟨none, none, some bareStack⟩).display.toList := by
  have hshown : (behindImport.shown (some "b") ⟨none, none, some bareStack⟩).display =
      "at boom (eval_script:1:5)\r\nat f, line 2" := by decide +kernel
  obtain ⟨tail, -, -, -, hframes⟩ :=
    shown_unstated behindImport (some "b") ⟨none, none, some bareStack⟩ bareStack nofun rfl
  exact ⟨nofun, rfl, hshown,
    hframes "    at boom (eval_script:1:5)".toList (by decide +kernel) (by decide +kernel)⟩

end CellPlaces

end NotebookEngine
