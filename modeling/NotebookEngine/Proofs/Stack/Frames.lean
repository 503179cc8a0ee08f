/-
**Traces are read back.**

A frame is written as a place, or as a name with a place in parentheses.  Paths hold colons, digits and
parentheses themselves, so a place can only be taken apart from its end: its last two parts are the line
and the column, whatever the parts before them look like.  In the same way the name ends at the first
opening parenthesis and the place at the last closing one.

What is lost on the way are blanks, since every part is trimmed.  So a path keeps its blanks as long as
none of them stands at one of its ends or at a colon.

Main definitions:

* `Text.HasBareEnds` — the texts without blanks at their ends;
* `Frame.IsPath`, `Frame.IsLegible` — the paths and frames that can be told from what is written of them;
* `TraceLine`, `writeTrace` — the lines of a trace, frames and others.

Main results:

* `Frame.ofLocator_place` — a place is taken apart;
* `Frame.ofText_write` — the text of a frame is read back;
* `Frame.ofTrace_writeTrace` — **the frames of a trace are read back, in order, and nothing else is**.
-/

import Mathlib.Algebra.Group.Nat.Defs
import Mathlib.Data.List.Chain
import Mathlib.Data.List.TakeWhile
import NotebookEngine.Proofs.Text.Closed
import NotebookEngine.Stack.Frame

set_option autoImplicit false

namespace NotebookEngine

namespace Text

/-! ### Texts without blanks at their ends -/

/-- The text neither starts nor ends with a blank. -/
def HasBareEnds (cs : List Char) : Prop :=
  (∀ c ∈ cs.head?, isBlank c = false) ∧ ∀ c ∈ cs.getLast?, isBlank c = false

instance (cs : List Char) : Decidable (HasBareEnds cs) :=
  decidable_of_iff
    ((cs.head?.all fun c => !isBlank c) = true ∧ (cs.getLast?.all fun c => !isBlank c) = true)
    (by simp only [HasBareEnds, Option.all_eq_true, Option.mem_def, Bool.not_eq_true'])

theorem dropBlanksRight_eq_self {cs : List Char} (h : ∀ c ∈ cs.getLast?, isBlank c = false) :
    dropBlanksRight cs = cs := by
  induction cs with
  | nil => rfl
  | cons c cs ih =>
      cases cs with
      | nil =>
          have hc : isBlank c = false := h c rfl
          simp [dropBlanksRight, hc]
      | cons d ds =>
          have hrest : dropBlanksRight (d :: ds) = d :: ds := ih fun e he => h e he
          rw [dropBlanksRight, hrest]

/-- Blanks at the end do not matter. -/
theorem dropBlanksRight_append {bs : List Char} (hbs : ∀ b ∈ bs, isBlank b = true) (cs : List Char) :
    dropBlanksRight (cs ++ bs) = dropBlanksRight cs := by
  induction cs with
  | nil =>
      induction bs with
      | nil => rfl
      | cons b bs ih =>
          obtain ⟨hb, hbs⟩ := List.forall_mem_cons.1 hbs
          have hrest : dropBlanksRight bs = [] := ih hbs
          rw [List.nil_append, dropBlanksRight_nil, dropBlanksRight, hrest]
          exact if_pos hb
  | cons c cs ih => rw [List.cons_append, dropBlanksRight, ih, dropBlanksRight]

theorem dropBlanksLeft_append {bs cs : List Char} (hbs : ∀ b ∈ bs, isBlank b = true)
    (hcs : ∀ c ∈ cs.head?, isBlank c = false) : dropBlanksLeft (bs ++ cs) = cs := by
  rw [dropBlanksLeft, List.dropWhile_append_of_pos hbs]
  cases cs with
  | nil => rfl
  | cons c cs => exact List.dropWhile_cons_of_neg (by rw [hcs c rfl]; exact Bool.false_ne_true)

theorem getLast?_dropBlanksRight (cs : List Char) : ∀ c ∈ (dropBlanksRight cs).getLast?, isBlank c = false := by
  induction cs with
  | nil =>
      intro d hd
      cases hd
  | cons c cs ih =>
      rw [dropBlanksRight]
      split
      next h =>
        split
        next =>
          intro d hd
          cases hd
        next hc =>
          rintro d ⟨⟩
          exact Bool.eq_false_iff.2 hc
      next h =>
        intro d hd
        rw [List.getLast?_cons_of_ne_nil h] at hd
        exact ih d hd

/-- What is left of a text when it is trimmed has no blanks at its ends. -/
theorem hasBareEnds_trim (cs : List Char) : HasBareEnds (dropBlanksRight (dropBlanksLeft cs)) := by
  refine ⟨fun c hc => ?_, getLast?_dropBlanksRight _⟩
  obtain ⟨bs, hkept, -⟩ := dropBlanksRight_append_blanks (dropBlanksLeft cs)
  have hhead : (dropBlanksLeft cs).head? = some c := by
    rw [hkept, List.head?_append, hc, Option.some_or]
  have hnot := List.head?_dropWhile_not isBlank cs
  rw [← dropBlanksLeft, hhead] at hnot
  exact hnot

/-- Trimming a text keeps every part without blanks at its ends. -/
theorem isInfix_trim {part cs : List Char} (hpart : HasBareEnds part) (h : part <:+: cs) :
    part <:+: dropBlanksRight (dropBlanksLeft cs) := by
  obtain ⟨before, after, rfl⟩ := h
  rcases List.eq_nil_or_concat' part with rfl | ⟨init, last, rfl⟩
  · exact List.nil_infix
  have hleft : ∃ kept, dropBlanksLeft (before ++ (init ++ [last]) ++ after) =
      kept ++ (init ++ [last]) ++ after := by
    rw [List.append_assoc, dropBlanksLeft, List.dropWhile_append]
    split
    · refine ⟨[], @dropBlanksLeft_append [] _ nofun fun c hc => hpart.1 c ?_⟩
      exact (List.head?_append_of_ne_nil _ (by simp)).symm.trans hc
    · exact ⟨_, (List.append_assoc ..).symm⟩
  obtain ⟨kept, hleft⟩ := hleft
  obtain ⟨bs, hright, hbs⟩ := dropBlanksRight_append_blanks (kept ++ (init ++ [last]) ++ after)
  rw [hleft]
  rcases List.append_eq_append_iff.1 hright with ⟨as, has, -⟩ | ⟨as, has, hafter⟩
  · exact ⟨kept, as, has.symm⟩
  · -- Nothing of the part is dropped, since it does not end with a blank.
    rcases List.eq_nil_or_concat' as with rfl | ⟨as, a, rfl⟩
    · exact ⟨kept, [], (List.append_nil _).trans (has.trans (List.append_nil _))⟩
    · rw [← List.append_assoc, ← List.append_assoc] at has
      cases (List.append_inj' has rfl).2
      have hlast : isBlank last = false := hpart.2 last (by simp)
      rw [hbs last (by rw [hafter]; simp)] at hlast
      cases hlast

/-- Whether no blank stands at a separator, of two characters that follow one another. -/
def BareAt (sep a b : Char) : Prop := (a = sep → isBlank b = false) ∧ (b = sep → isBlank a = false)

instance (sep : Char) : DecidableRel (BareAt sep) := fun _ _ => inferInstanceAs (Decidable (_ ∧ _))

/-- Every part of a text without blanks at its ends and at its separators is without blanks at its
ends. -/
theorem hasBareEnds_pieces {sep : Char} {cs : List Char} (h : HasBareEnds cs)
    (hsep : cs.IsChain (BareAt sep)) : ∀ p ∈ pieces sep cs, HasBareEnds p := by
  -- By induction on the length: the text is cut at its first separator.
  induction hn : cs.length using Nat.strongRecOn generalizing cs with
  | ind n ih =>
      by_cases hmem : sep ∈ cs
      · obtain ⟨before, after, rfl, hnot⟩ := List.eq_append_cons_of_mem hmem
        obtain ⟨-, hrest, hlast⟩ := List.isChain_append.1 hsep
        obtain ⟨hfirst, hafter⟩ := List.isChain_cons.1 hrest
        rw [pieces_append_sep, pieces_of_not_mem hnot, List.singleton_append, List.forall_mem_cons]
        refine ⟨⟨?_, ?_⟩, ih after.length ?_ ⟨?_, ?_⟩ hafter rfl⟩
        · intro c hc
          cases before with
          | nil => cases hc
          | cons d ds => exact h.1 c hc
        · intro c hc
          exact (hlast c hc sep rfl).2 rfl
        · rw [← hn, List.length_append, List.length_cons]
          omega
        · intro c hc
          exact (hfirst c hc).1 rfl
        · intro c hc
          cases after with
          | nil => cases hc
          | cons d ds => exact h.2 c (by simpa using hc)
      · rw [pieces_of_not_mem hmem, List.forall_mem_singleton]
        exact h

/-- Texts that are joined by a separator are taken apart again, if none of them holds it. -/
theorem pieces_intercalate {sep : Char} {ps : List (List Char)} (hne : ps ≠ [])
    (h : ∀ p ∈ ps, sep ∉ p) : pieces sep ([sep].intercalate ps) = ps := by
  induction ps with
  | nil => exact absurd rfl hne
  | cons p ps ih =>
      rw [List.forall_mem_cons] at h
      cases ps with
      | nil => rw [List.intercalate_singleton, pieces_of_not_mem h.1]
      | cons q qs =>
          rw [List.intercalate_cons_cons, List.append_assoc, List.singleton_append, pieces_append_sep,
            pieces_of_not_mem h.1, ih (List.cons_ne_nil q qs) h.2]
          rfl

/-- Whether a text is blank and within a line. -/
def isIndent (cs : List Char) : Bool := cs.all fun c => isBlank c && decide (c ≠ '\n')

theorem isIndent_iff {cs : List Char} :
    isIndent cs = true ↔ ∀ c ∈ cs, isBlank c = true ∧ c ≠ '\n' := by
  simp only [isIndent, List.all_eq_true, Bool.and_eq_true, decide_eq_true_eq]

/-! ### Numbers -/

theorem natOfDigits_eq (ds : List Char) (hds : ∀ c ∈ ds, c.isDigit = true) (n : Nat) :
    natOfDigits n ds = some (Nat.ofDigitChars 10 ds n) := by
  induction ds generalizing n with
  | nil => rfl
  | cons c ds ih =>
      obtain ⟨hc, hds⟩ := List.forall_mem_cons.1 hds
      have hdigit : '0' ≤ c ∧ c ≤ '9' := by
        rw [Char.isDigit, Bool.and_eq_true, decide_eq_true_eq, decide_eq_true_eq] at hc
        exact hc
      rw [natOfDigits, if_pos hdigit, ih hds, Nat.mul_comm]
      rfl

theorem isDigit_of_mem_toString {n : Nat} {c : Char} (h : c ∈ (toString n).toList) :
    c.isDigit = true := by
  rw [Nat.toString_eq_ofList_toDigits, String.toList_ofList] at h
  exact Nat.isDigit_of_mem_toDigits (by omega) (by omega) h

theorem toString_ne_nil (n : Nat) : (toString n).toList ≠ [] := by
  rw [Nat.toString_eq_ofList_toDigits, String.toList_ofList]
  exact Nat.toDigits_ne_nil

/-- A number of 32 bits that is written is read back. -/
theorem nat32?_toString {n : Nat} (h : n < 2 ^ 32) : nat32? (toString n).toList = some n := by
  have hdigits : natOfDigits 0 (toString n).toList = some n := by
    rw [natOfDigits_eq _ fun c hc => isDigit_of_mem_toString hc, Nat.toString_eq_ofList_toDigits,
      String.toList_ofList, Nat.ofDigitChars_ten_toDigits]
  have hempty : (toString n).toList.isEmpty = false := by
    rw [List.isEmpty_eq_false_iff]
    exact toString_ne_nil n
  have hsign : ∀ rest, (toString n).toList ≠ '+' :: rest := by
    intro rest hplus
    have hdigit := isDigit_of_mem_toString (n := n) (c := '+') (by rw [hplus]; exact List.mem_cons_self)
    cases hdigit
  have hnat : nat32? (toString n).toList = if (toString n).toList.isEmpty = true then none
      else (natOfDigits 0 (toString n).toList).filter (· < Nat.pow 2 32) := by
    rw [nat32?]
    exact hsign
  rw [hnat, hempty, if_neg Bool.false_ne_true, hdigits]
  exact Option.filter_eq_some_iff.2 ⟨rfl, decide_eq_true h⟩

theorem not_isBlank_of_isDigit {c : Char} (h : c.isDigit = true) : isBlank c = false := by
  have hrange : 48 ≤ c.toNat ∧ c.toNat ≤ 57 := by
    rw [Char.isDigit, Bool.and_eq_true, decide_eq_true_eq, decide_eq_true_eq] at h
    exact ⟨UInt32.le_iff_toNat_le.1 h.1, UInt32.le_iff_toNat_le.1 h.2⟩
  simp only [isBlank, Bool.or_eq_false_iff, Bool.and_eq_false_iff, decide_eq_false_iff_not,
    beq_eq_false_iff_ne]
  omega

theorem hasBareEnds_toString (n : Nat) : HasBareEnds (toString n).toList :=
  ⟨fun _ hc => not_isBlank_of_isDigit (isDigit_of_mem_toString (List.mem_of_mem_head? hc)),
    fun _ hc => not_isBlank_of_isDigit (isDigit_of_mem_toString (List.mem_of_mem_getLast? hc))⟩

end Text

namespace Frame

open Text (HasBareEnds pieces)

/-! ### Trimming -/

theorem trimmed_append {bs cs : List Char} (hbs : ∀ b ∈ bs, Text.isBlank b = true)
    (hcs : HasBareEnds cs) : trimmed (bs ++ cs) = cs := by
  rw [trimmed, Text.dropBlanksLeft_append hbs hcs.1, Text.dropBlanksRight_eq_self hcs.2]

theorem trimmed_eq_self {cs : List Char} (h : HasBareEnds cs) : trimmed cs = cs :=
  @trimmed_append [] cs nofun h

/-! ### Places -/

/-- The paths that can be told from the text of a place: blanks stand neither at their ends nor at a
colon. -/
structure IsPath (path : List Char) : Prop where
  inLine : '\n' ∉ path
  ends : HasBareEnds path
  colons : path.IsChain (Text.BareAt ':')

variable {path name : List Char} {line column : Nat}

/-- The text of a place with a line and a column. -/
def placeText (path : List Char) (line column : Nat) : List Char :=
  path ++ ':' :: ((toString line).toList ++ ':' :: (toString column).toList)

/-- A place ends with its column. -/
theorem getLast?_placeText (path : List Char) (line column : Nat) :
    (placeText path line column).getLast? = (toString column).toList.getLast? := by
  have htext : placeText path line column =
      (path ++ ':' :: ((toString line).toList ++ [':'])) ++ (toString column).toList := by
    simp only [placeText, List.append_assoc, List.cons_append, List.nil_append]
  rw [htext, List.getLast?_append_of_ne_nil _ (Text.toString_ne_nil column)]

theorem hasBareEnds_placeText (h : IsPath path) : HasBareEnds (placeText path line column) := by
  constructor
  · intro c hc
    cases path with
    | nil => cases hc; rfl
    | cons d ds => exact h.ends.1 c hc
  · intro c hc
    rw [getLast?_placeText] at hc
    exact (Text.hasBareEnds_toString column).2 c hc

theorem not_mem_toString {c : Char} (h : c.isDigit = false) (n : Nat) : c ∉ (toString n).toList := by
  intro hmem
  rw [Text.isDigit_of_mem_toString hmem] at h
  cases h

/-- Beyond its path a place has colons and digits only. -/
theorem not_mem_placeText {c : Char} (hdigit : c.isDigit = false) (hcolon : c ≠ ':') (h : c ∉ path) :
    c ∉ placeText path line column := by
  simp only [placeText, List.mem_append, List.mem_cons, not_or]
  exact ⟨h, hcolon, not_mem_toString hdigit line, hcolon, not_mem_toString hdigit column⟩

theorem pieces_placeText (path : List Char) (line column : Nat) :
    pieces ':' (placeText path line column) =
      pieces ':' path ++ [(toString line).toList, (toString column).toList] := by
  rw [placeText, Text.pieces_append_sep, Text.pieces_append_sep,
    Text.pieces_of_not_mem (not_mem_toString rfl line),
    Text.pieces_of_not_mem (not_mem_toString rfl column)]
  rfl

/-- **A place is taken apart**: the last two of its parts are its line and its column, and the parts before
them are those of its path. -/
theorem ofLocator_place (h : IsPath path) (hline : line < 2 ^ 32) (hcolumn : column < 2 ^ 32) :
    ofLocator (placeText path line column) = ⟨none, String.ofList path, some line, some column⟩ := by
  have hparts : (pieces ':' path).map trimmed = pieces ':' path := by
    refine (List.map_congr_left fun p hp => ?_).trans (List.map_id _)
    exact trimmed_eq_self (Text.hasBareEnds_pieces h.ends h.colons p hp)
  have hreverse : ((pieces ':' (placeText path line column)).map trimmed).reverse =
      (toString column).toList :: (toString line).toList :: (pieces ':' path).reverse := by
    rw [pieces_placeText, List.map_append, hparts, List.map_cons, List.map_singleton,
      trimmed_eq_self (Text.hasBareEnds_toString line),
      trimmed_eq_self (Text.hasBareEnds_toString column), List.reverse_append]
    rfl
  obtain ⟨p, ps, hps⟩ := List.exists_cons_of_ne_nil
    (List.reverse_ne_nil_iff.2 (Text.pieces_ne_nil ':' path))
  have hpath : [':'].intercalate (p :: ps).reverse = path := by
    rw [← hps, List.reverse_reverse, Text.intercalate_pieces]
  rw [ofLocator, trimmed_eq_self (hasBareEnds_placeText h), hreverse, hps, ofParts,
    Text.nat32?_toString hcolumn, Text.nat32?_toString hline]
  dsimp only
  rw [hpath]

/-! ### Frames -/

/-- The frames that can be told from what is written of them. -/
structure IsLegible (f : Frame) : Prop where
  placed : ∃ line column, f.line? = some line ∧ f.column? = some column ∧
    line < 2 ^ 32 ∧ column < 2 ^ 32
  path : IsPath f.file.toList
  name : ∀ name ∈ f.function?, '(' ∉ name.toList ∧ '\n' ∉ name.toList ∧ HasBareEnds name.toList
  bare : f.function? = none → '(' ∉ f.file.toList

theorem splitFirst_append {c : Char} {as : List Char} (bs : List Char) (h : c ∉ as) :
    splitFirst c (as ++ c :: bs) = some (as, bs) := by
  have hne : ∀ a ∈ as, decide (a ≠ c) = true := fun a ha =>
    decide_eq_true fun hac => h (hac ▸ ha)
  rw [splitFirst, List.dropWhile_append_of_pos hne, List.takeWhile_append_of_pos hne]
  simp

theorem splitFirst_of_not_mem {c : Char} {as : List Char} (h : c ∉ as) : splitFirst c as = none := by
  have hall : as.dropWhile (· ≠ c) = [] :=
    List.dropWhile_eq_nil_iff.2 fun a ha => decide_eq_true fun hac => h (hac ▸ ha)
  rw [splitFirst, hall]

theorem beforeLast_concat (c : Char) (as : List Char) : beforeLast c (as ++ [c]) = some as := by
  have hsplit : splitFirst c (c :: as.reverse) = some ([], as.reverse) :=
    splitFirst_append as.reverse List.not_mem_nil
  rw [beforeLast, List.reverse_append, List.reverse_singleton, List.singleton_append, hsplit,
    Option.map_some, List.reverse_reverse]

/-- A text that ends with a digit is not what stands for an unknown place. -/
theorem placeText_ne_anonymous : placeText path line column ≠ anonymous := by
  intro h
  have hlast := getLast?_placeText path line column
  rw [h] at hlast
  have hdigit : '>'.isDigit = true :=
    Text.isDigit_of_mem_toString (List.mem_of_mem_getLast? hlast.symm)
  cases hdigit

/-- A place without a name. -/
theorem ofText_place (h : IsPath path) (hbare : '(' ∉ path) (hline : line < 2 ^ 32)
    (hcolumn : column < 2 ^ 32) :
    ofText (placeText path line column) = ⟨none, String.ofList path, some line, some column⟩ := by
  have hnone : splitFirst '(' (placeText path line column) = none :=
    splitFirst_of_not_mem (not_mem_placeText rfl (by decide) hbare)
  rw [ofText, trimmed_eq_self (hasBareEnds_placeText h), if_neg placeText_ne_anonymous, hnone]
  exact ofLocator_place h hline hcolumn

theorem isBlank_getLast?_parenthesized (as bs : List Char) :
    ∀ c ∈ (as ++ '(' :: (bs ++ [')'])).getLast?, Text.isBlank c = false := by
  intro c hc
  rw [← List.cons_append, ← List.append_assoc, List.getLast?_concat] at hc
  cases hc
  rfl

/-- A place in parentheses behind a name. -/
theorem ofText_named (h : IsPath path) (hline : line < 2 ^ 32) (hcolumn : column < 2 ^ 32)
    (hname : '(' ∉ name) (hends : HasBareEnds name) :
    ofText (name ++ ' ' :: '(' :: (placeText path line column ++ [')'])) =
      ⟨some (String.ofList name), String.ofList path, some line, some column⟩ := by
  -- Without a name the blank before the parenthesis is trimmed away.
  obtain ⟨before, hbefore, hopen, htext⟩ : ∃ before, trimmed before = name ∧ '(' ∉ before ∧
      trimmed (name ++ ' ' :: '(' :: (placeText path line column ++ [')'])) =
        before ++ '(' :: (placeText path line column ++ [')']) := by
    cases name with
    | nil =>
        refine ⟨[], rfl, List.not_mem_nil, ?_⟩
        refine @trimmed_append [' '] _ (List.forall_mem_singleton.2 rfl)
          ⟨?_, isBlank_getLast?_parenthesized [] _⟩
        intro c hc
        cases hc
        rfl
    | cons c cs =>
        have hblank : trimmed (c :: cs ++ [' ']) = c :: cs := by
          have hleft : Text.dropBlanksLeft (c :: cs ++ [' ']) = c :: cs ++ [' '] :=
            @Text.dropBlanksLeft_append [] _ nofun fun d hd => hends.1 d hd
          rw [trimmed, hleft, Text.dropBlanksRight_append (List.forall_mem_singleton.2 rfl),
            Text.dropBlanksRight_eq_self hends.2]
        refine ⟨c :: cs ++ [' '], hblank, ?_, ?_⟩
        · rw [List.mem_append, List.mem_singleton, not_or]
          exact ⟨hname, by decide⟩
        · rw [List.append_cons]
          exact trimmed_eq_self ⟨fun d hd => hends.1 d hd, isBlank_getLast?_parenthesized _ _⟩
  have hanonymous : before ++ '(' :: (placeText path line column ++ [')']) ≠ anonymous := by
    intro h
    have hmem : '(' ∈ anonymous := by
      rw [← h]
      exact List.mem_append_right _ List.mem_cons_self
    revert hmem
    decide
  rw [ofText, htext, if_neg hanonymous, splitFirst_append _ hopen]
  dsimp only
  rw [beforeLast_concat]
  dsimp only
  rw [trimmed_eq_self (hasBareEnds_placeText h), if_neg placeText_ne_anonymous,
    ofLocator_place h hline hcolumn, hbefore]

/-- What is written of a legible frame behind its mark. -/
theorem IsLegible.exists_write {f : Frame} (h : f.IsLegible) :
    ∃ text, f.write.toList = "at ".toList ++ text ∧ HasBareEnds f.write.toList ∧ '\n' ∉ text ∧
      ofText text = f := by
  obtain ⟨⟨line, column, hline?, hcolumn?, hline, hcolumn⟩, hpath, hname, hbare⟩ := h
  obtain ⟨function?, file, line?, column?⟩ := f
  dsimp only at hline? hcolumn? hpath hname hbare
  subst hline? hcolumn?
  have hplace : (place ⟨function?, file, some line, some column⟩).toList =
      placeText file.toList line column := by
    simp only [place, placeText, String.toList_append, List.append_assoc]
    rfl
  have hinLine : '\n' ∉ placeText file.toList line column :=
    not_mem_placeText rfl (by decide) hpath.inLine
  have hstart : ∀ text : List Char, ∀ c ∈ ("at ".toList ++ text).head?, Text.isBlank c = false := by
    intro text c hc
    cases hc
    rfl
  cases function? with
  | none =>
      have htext : (write ⟨none, file, some line, some column⟩).toList =
          "at ".toList ++ placeText file.toList line column := by
        rw [write, String.toList_append, hplace]
      refine ⟨_, htext, ⟨?_, ?_⟩, hinLine, ?_⟩
      · rw [htext]
        exact hstart _
      · have hne : placeText file.toList line column ≠ [] := by
          rw [placeText]
          exact List.append_ne_nil_of_right_ne_nil _ (List.cons_ne_nil _ _)
        rw [htext, List.getLast?_append_of_ne_nil _ hne]
        exact (hasBareEnds_placeText hpath).2
      · rw [ofText_place hpath (hbare rfl) hline hcolumn, String.ofList_toList]
  | some name =>
      obtain ⟨hopen, hbreak, hends⟩ := hname name rfl
      have htext : (write ⟨some name, file, some line, some column⟩).toList = "at ".toList ++
          (name.toList ++ ' ' :: '(' :: (placeText file.toList line column ++ [')'])) := by
        simp only [write, String.toList_append, hplace, List.append_assoc]
        rfl
      refine ⟨_, htext, ⟨?_, ?_⟩, ?_, ?_⟩
      · rw [htext]
        exact hstart _
      · rw [htext, List.append_cons name.toList, ← List.append_assoc]
        exact isBlank_getLast?_parenthesized _ _
      · simp only [List.mem_append, List.mem_cons, List.not_mem_nil, not_or]
        exact ⟨hbreak, by decide, by decide, hinLine, by decide, not_false⟩
      · rw [ofText_named hpath hline hcolumn hopen hends, String.ofList_toList, String.ofList_toList]

end Frame

/-! ### Traces -/

/-- A line of a trace. -/
inductive TraceLine where
  | frame (indent : String) (f : Frame)
  | other (text : String)

namespace TraceLine

/-- What is written of a line. -/
def text : TraceLine → String
  | frame indent f => indent ++ f.write
  | other text => text

/-- The frame of a line. -/
def frame? : TraceLine → Option Frame
  | frame _ f => some f
  | other _ => none

/-- The lines that can be told apart: the indentation of a frame is blank, and no other line starts as
that of a frame does. -/
def IsLegible : TraceLine → Prop
  | frame indent f => Text.isIndent indent.toList = true ∧ f.IsLegible
  | other text => '\n' ∉ text.toList ∧ ¬ "at ".toList <+: Frame.trimmed text.toList

end TraceLine

/-- Lines, written one below the other. -/
def writeTrace (lines : List TraceLine) : String := "\n".intercalate (lines.map TraceLine.text)

theorem TraceLine.toList_text_frame (indent : String) (f : Frame) :
    (frame indent f).text.toList = indent.toList ++ f.write.toList := String.toList_append

/-- A legible line is no two lines. -/
theorem TraceLine.IsLegible.inLine {l : TraceLine} (h : l.IsLegible) : '\n' ∉ l.text.toList := by
  cases l with
  | frame indent f =>
      obtain ⟨hindent, hf⟩ := h
      rw [Text.isIndent_iff] at hindent
      obtain ⟨text, htext, -, hbreak, -⟩ := hf.exists_write
      rw [toList_text_frame, htext, List.mem_append, List.mem_append, not_or, not_or]
      exact ⟨fun hmem => (hindent _ hmem).2 rfl, by decide, hbreak⟩
  | other text => exact h.1

/-- What is read of a legible line is its frame. -/
theorem TraceLine.IsLegible.read {l : TraceLine} (h : l.IsLegible) :
    (Frame.textOfLine? l.text.toList).map Frame.ofText = l.frame? := by
  cases l with
  | frame indent f =>
      obtain ⟨hindent, hf⟩ := h
      rw [Text.isIndent_iff] at hindent
      obtain ⟨text, htext, hends, -, hread⟩ := hf.exists_write
      have htrimmed : Frame.trimmed (frame indent f).text.toList = "at ".toList ++ text := by
        rw [toList_text_frame, Frame.trimmed_append (fun b hb => (hindent b hb).1) hends, htext]
      rw [Frame.textOfLine?, htrimmed, Text.dropStart?_eq_some_iff.2 rfl, Option.map_some, hread]
      rfl
  | other text =>
      have hnone : Frame.textOfLine? text.toList = none := by
        rw [Option.eq_none_iff_forall_ne_some]
        intro rest hrest
        exact h.2 ⟨rest, (Text.dropStart?_eq_some_iff.1 hrest).symm⟩
      exact congrArg (Option.map Frame.ofText) hnone

/-- **The frames of a trace are read back.**  Take any lines, each a frame with an indentation or some other
text, written one below the other.  The frames that are read are exactly those that were written, in order,
with their names, paths, lines and columns. -/
theorem Frame.ofTrace_writeTrace (lines : List TraceLine) (h : ∀ l ∈ lines, l.IsLegible) :
    Frame.ofTrace (writeTrace lines) = lines.filterMap TraceLine.frame? := by
  have htext : (writeTrace lines).toList =
      ['\n'].intercalate (lines.map fun l => l.text.toList) := by
    rw [writeTrace, String.toList_intercalate, List.map_map]
    rfl
  have hread : (lines.map fun l => l.text.toList).filterMap
      (fun line => (textOfLine? line).map ofText) = lines.filterMap TraceLine.frame? := by
    rw [List.filterMap_map]
    exact List.filterMap_congr fun l hl => (h l hl).read
  rw [ofTrace, htext]
  cases hlines : lines with
  | nil => rfl
  | cons l ls =>
      rw [← hlines, Text.pieces_intercalate, hread]
      · rw [hlines]
        exact List.cons_ne_nil _ _
      · rw [List.forall_mem_map]
        exact fun l hl => (h l hl).inLine

/-- A trace as an engine writes it, with a path with a drive, numbers and blanks, and one with
parentheses. -/
def mixedTrace : List TraceLine :=
  [.other "Error: at last", .frame "    " ⟨some "run", "C:\\my (old) files\\a:7:b.js", some 4, some 58⟩,
    .other "", .frame "\t" ⟨none, "deep stack:12:3", some 17, some 5⟩, .other "  atlas:1:2"]

theorem Frame.ofTrace_mixedTrace :
    (∀ l ∈ mixedTrace, l.IsLegible) ∧ Frame.ofTrace (writeTrace mixedTrace) =
      [⟨some "run", "C:\\my (old) files\\a:7:b.js", some 4, some 58⟩,
        ⟨none, "deep stack:12:3", some 17, some 5⟩] := by
  have hlegible : ∀ l ∈ mixedTrace, l.IsLegible := by
    simp only [mixedTrace, List.forall_mem_cons, TraceLine.IsLegible]
    refine ⟨by decide, ⟨by decide, ⟨⟨4, 58, rfl, rfl, by decide, by decide⟩, ⟨?_, ?_, ?_⟩, ?_, nofun⟩⟩,
      by decide, ⟨by decide, ⟨⟨17, 5, rfl, rfl, by decide, by decide⟩, ⟨?_, ?_, ?_⟩, nofun, ?_⟩⟩,
      by decide, nofun⟩
    all_goals decide
  exact ⟨hlegible, Frame.ofTrace_writeTrace mixedTrace hlegible⟩

end NotebookEngine
