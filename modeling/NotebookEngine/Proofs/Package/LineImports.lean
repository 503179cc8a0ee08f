/-
**Imports of a line, and of the text around it.**

Imports are moved to the head of a program line by line, but what a text needs is looked for in the text
as a whole.  The two agree on calls of `require`: such a call holds one opening parenthesis, so that no
two of them overlap, and a call on a line is found wherever the line stands.  Declarations can overlap.
The quoted name of one may hold line ends, so a quotation mark that is opened on an earlier line, behind
the word `import`, can close on a later one; a declaration that the match runs into is then not found.

This is the only way in which a line's imports are missed.

Main definitions:

* `Text.lineStart` — the place at which a line starts;
* `Specifier.Sees` — a specifier is found in a text, and its package is needed.

Main results:

* `Specifier.isLocal_requireAt`, `Specifier.isLocal_importAt` — matches do not depend on what follows;
* `Specifier.requireAt_disjoint` — calls do not overlap;
* `Specifier.mem_spans_importAt` — the declarations of a line that nothing runs into;
* `Specifier.line_seen` — **what a line holds by itself is found in the whole text unless a declaration
  runs into it**.
-/

import Mathlib.Algebra.GroupWithZero.Nat
import Mathlib.Data.List.TakeWhile
import NotebookEngine.Package.Name
import NotebookEngine.Proofs.Package.Scan
import NotebookEngine.Proofs.Text.Closed

set_option autoImplicit false

namespace NotebookEngine

namespace Specifier

/-! ### Quoted names -/

theorem not_isNameChar_of_isMark {c : Char} (h : isMark c = true) : isNameChar c = false := by
  rw [isNameChar, h]
  rfl

theorem not_isBlank_of_isMark {c : Char} (h : isMark c = true) : Text.isBlank c = false := by
  have hc : c = '\'' ∨ c = '"' := by simpa [isMark] using h
  rcases hc with rfl | rfl <;> rfl

/-- A quoted name stands between two marks, and holds none itself. -/
theorem quotedName_eq_some {cs name after : List Char} (h : quotedName cs = some (name, after)) :
    ∃ opening closing, cs = opening :: (name ++ closing :: after) ∧ isMark opening = true ∧
      isMark closing = true ∧ ∀ c ∈ name, isNameChar c = true := by
  cases cs with
  | nil => cases h
  | cons opening cs =>
      rw [quotedName] at h
      split at h
      next hopening =>
        have hwhole := List.takeWhile_append_dropWhile (p := isNameChar) (l := cs)
        have hname : ∀ c ∈ cs.takeWhile isNameChar, isNameChar c = true :=
          fun c hc => List.mem_takeWhile_imp hc
        split at h
        next => cases h
        next closing after' hrest _ =>
          split at h
          next hclosing =>
            injection h with h
            injection h with hsame hafter
            subst hsame hafter
            rw [hrest] at hwhole
            exact ⟨opening, closing, by rw [hwhole], hopening, hclosing, hname⟩
          next => cases h
        next => cases h
      next => cases h

/-- What follows the end of a quoted name does not matter to it. -/
theorem quotedName_append {c : Char} {cs : List Char} (hstop : ∃ m ∈ cs, isMark m = true)
    (rest : List Char) : quotedName (c :: cs ++ rest) =
      (quotedName (c :: cs)).map fun (name, after) => (name, after ++ rest) := by
  obtain ⟨m, hm, hmark⟩ := hstop
  have hdrop : cs.dropWhile isNameChar ≠ [] := by
    intro hnil
    have hall := List.dropWhile_eq_nil_iff.1 hnil m hm
    rw [not_isNameChar_of_isMark hmark] at hall
    cases hall
  have htake : (cs.takeWhile isNameChar).length ≠ cs.length := by
    intro hlen
    have hsum := congrArg List.length (List.takeWhile_append_dropWhile (p := isNameChar) (l := cs))
    rw [List.length_append] at hsum
    exact hdrop (List.length_eq_zero_iff.1 (by omega))
  have hmore : (cs ++ rest).dropWhile isNameChar = cs.dropWhile isNameChar ++ rest := by
    rw [List.dropWhile_append, if_neg (by rwa [List.isEmpty_iff])]
  rw [List.cons_append, quotedName, quotedName, List.takeWhile_append, if_neg htake, hmore]
  split
  · cases cs.takeWhile isNameChar with
    | nil => rfl
    | cons n name =>
        cases hrest : cs.dropWhile isNameChar with
        | nil => exact absurd hrest hdrop
        | cons closing after =>
            rw [List.cons_append]
            cases hclosing : isMark closing <;> simp [hclosing]
  · rfl

/-- A quoted name is found when the text goes on. -/
theorem quotedName_append_of_eq_some {cs name after : List Char}
    (h : quotedName cs = some (name, after)) (rest : List Char) :
    quotedName (cs ++ rest) = some (name, after ++ rest) := by
  obtain ⟨opening, closing, rfl, -, hclosing, -⟩ := quotedName_eq_some h
  rw [quotedName_append ⟨closing, by simp, hclosing⟩, h]
  rfl

/-! ### Calls -/

theorem dropWhile_isBlank_append {gap quoted : List Char} (hgap : ∀ b ∈ gap, Text.isBlank b = true)
    (hquoted : ∀ c ∈ quoted.head?, Text.isBlank c = false) :
    (gap ++ quoted).dropWhile Text.isBlank = quoted := by
  rw [List.dropWhile_append_of_pos hgap]
  cases quoted with
  | nil => rfl
  | cons c quoted => rw [List.dropWhile_cons_of_neg (by simpa using hquoted c rfl)]

/-- The parts of a call: a quoted name between blanks and parentheses. -/
theorem requireAt_eq_some {cs : List Char} {m : Match} (h : requireAt cs = some m) :
    ∃ gap quoted name gap' after, cs = "require(".toList ++ (gap ++ quoted) ∧
      (∀ b ∈ gap, Text.isBlank b = true) ∧ quotedName quoted = some (name, gap' ++ ')' :: after) ∧
      (∀ b ∈ gap', Text.isBlank b = true) ∧
      m = ⟨cs.length - quoted.length + 1, name, cs.length - after.length⟩ := by
  simp only [requireAt, Option.bind_eq_bind, Option.bind_eq_some_iff] at h
  obtain ⟨rest, hstart, ⟨name, closed⟩, hquoted, h⟩ := h
  have hcs := Text.dropStart?_eq_some_iff.1 hstart
  split at h
  next after hclosed =>
    injection h with h
    have hgap : ∀ l : List Char, ∀ b ∈ l.takeWhile Text.isBlank, Text.isBlank b = true :=
      fun l b hb => List.mem_takeWhile_imp hb
    refine ⟨rest.takeWhile Text.isBlank, rest.dropWhile Text.isBlank, name,
      closed.takeWhile Text.isBlank, after, ?_, hgap rest, ?_, hgap closed, h.symm⟩
    · rw [List.takeWhile_append_dropWhile, hcs]
    · rw [← hclosed, List.takeWhile_append_dropWhile, hquoted]
  next => cases h

/-- Whatever has these parts is a call. -/
theorem requireAt_of_parts {gap quoted name gap' after : List Char}
    (hgap : ∀ b ∈ gap, Text.isBlank b = true)
    (hquoted : quotedName quoted = some (name, gap' ++ ')' :: after))
    (hgap' : ∀ b ∈ gap', Text.isBlank b = true) :
    let cs := "require(".toList ++ (gap ++ quoted)
    requireAt cs = some ⟨cs.length - quoted.length + 1, name, cs.length - after.length⟩ := by
  intro cs
  obtain ⟨opening, closing, hshape, hopening, -, -⟩ := quotedName_eq_some hquoted
  have hblank : (gap ++ quoted).dropWhile Text.isBlank = quoted := by
    refine dropWhile_isBlank_append hgap ?_
    rw [hshape]
    simpa using not_isBlank_of_isMark hopening
  have hclosed : (gap' ++ ')' :: after).dropWhile Text.isBlank = ')' :: after :=
    dropWhile_isBlank_append hgap' (by simp; rfl)
  have hstart : Text.dropStart? "require(".toList cs = some (gap ++ quoted) :=
    Text.dropStart?_eq_some_iff.2 rfl
  simp only [requireAt, Option.bind_eq_bind, hstart, Option.bind_some, hblank, hquoted, hclosed]

theorem isLocal_requireAt : IsLocal requireAt := by
  intro cs rest m h
  obtain ⟨gap, quoted, name, gap', after, rfl, hgap, hquoted, hgap', rfl⟩ := requireAt_eq_some h
  have hmore := quotedName_append_of_eq_some hquoted rest
  rw [List.append_assoc, List.cons_append] at hmore
  have hcall := requireAt_of_parts hgap hmore hgap'
  have hwhole : "require(".toList ++ (gap ++ quoted) ++ rest =
      "require(".toList ++ (gap ++ (quoted ++ rest)) := by simp
  rw [hwhole, hcall]
  simp only [List.length_append]
  congr 2 <;> omega

/-- A call holds one opening parenthesis, that of its first word, and ends with the closing one. -/
theorem requireAt_shape {cs : List Char} {m : Match} (h : requireAt cs = some m) :
    ∃ body after, cs = "require(".toList ++ (body ++ ')' :: after) ∧ '(' ∉ body ∧
      m.length = body.length + 9 := by
  obtain ⟨gap, quoted, name, gap', after, rfl, hgap, hquoted, hgap', rfl⟩ := requireAt_eq_some h
  obtain ⟨opening, closing, rfl, hopening, hclosing, hname⟩ := quotedName_eq_some hquoted
  refine ⟨gap ++ opening :: (name ++ closing :: gap'), after, by simp, ?_, by simp; omega⟩
  have hblank : ∀ l : List Char, (∀ b ∈ l, Text.isBlank b = true) → '(' ∉ l := by
    intro l hl hmem
    exact absurd (hl _ hmem) (by decide)
  have hmark : ∀ c, isMark c = true → '(' ≠ c := by
    rintro c hc rfl
    cases hc
  have hin : '(' ∉ name := fun hmem => absurd (hname _ hmem) (by decide)
  simp [hblank gap hgap, hblank gap' hgap', hin, hmark opening hopening, hmark closing hclosing]

/-- No call starts inside another one. -/
theorem requireAt_disjoint {cs : List Char} {m n : Match} {k : Nat} (hn : requireAt cs = some n)
    (hm : requireAt (cs.drop k) = some m) (hk : 0 < k) : n.length ≤ k := by
  obtain ⟨body, after, hcs, hbody, hlength⟩ := requireAt_shape hn
  obtain ⟨body', after', hdrop, -, -⟩ := requireAt_shape hm
  have hletter : ∀ j < 8, cs[k + j]? = "require(".toList[j]? := by
    intro j hj
    rw [← List.getElem?_drop, hdrop, List.getElem?_append_left hj]
  rw [hlength]
  by_contra hlt
  -- The second parenthesis stands after the first, so not in the body: it comes after the end.
  have hopen := hletter 7 (by decide)
  have hend : cs[body.length + 8]? = some ')' := by
    rw [hcs, List.getElem?_append_right (by simp)]
    simp
  rcases Nat.lt_or_ge (k + 7) (body.length + 8) with hin | hout
  · rw [hcs, List.getElem?_append_right (by simp; omega),
      List.getElem?_append_left (by simp; omega)] at hopen
    exact hbody (List.mem_of_getElem? hopen)
  · -- So the closing parenthesis of the first is a letter of the word that starts the second.
    have hwithin := hletter (body.length + 8 - k) (by omega)
    have hplace : k + (body.length + 8 - k) = body.length + 8 := by omega
    rw [hplace, hend] at hwithin
    exact absurd (List.mem_of_getElem? hwithin.symm) (by decide)

/-! ### Declarations -/

/-- A quoted name on a line is found when the line goes on: no name that is opened before it and closed
after the end of the line comes first, because a name holds no mark. -/
theorem nameOnLine_append {cs quoted name after : List Char}
    (h : nameOnLine cs = some (quoted, name, after)) (rest : List Char) :
    (∃ m ∈ cs, isMark m = true) ∧
      nameOnLine (cs ++ rest) = some (quoted ++ rest, name, after ++ rest) := by
  induction cs with
  | nil => cases h
  | cons c cs ih =>
      rw [nameOnLine] at h
      cases hquoted : quotedName (c :: cs) with
      | some found =>
          obtain ⟨name', after'⟩ := found
          rw [hquoted] at h
          cases h
          obtain ⟨opening, closing, hshape, hopening, -, -⟩ := quotedName_eq_some hquoted
          refine ⟨⟨opening, by rw [hshape]; exact List.mem_cons_self, hopening⟩, ?_⟩
          have hmore := quotedName_append_of_eq_some hquoted rest
          rw [List.cons_append] at hmore ⊢
          rw [nameOnLine, hmore]
      | none =>
          rw [hquoted] at h
          dsimp only at h
          split at h
          next => cases h
          next hbreak =>
            obtain ⟨⟨m, hm, hmark⟩, hrest⟩ := ih h
            have hnone := quotedName_append (c := c) ⟨m, hm, hmark⟩ rest
            rw [hquoted, List.cons_append] at hnone
            refine ⟨⟨m, List.mem_cons_of_mem c hm, hmark⟩, ?_⟩
            rw [List.cons_append, nameOnLine, hnone]
            dsimp only [Option.map_none]
            rw [if_neg hbreak, hrest]

/-- A line holds a quoted name if its end does. -/
theorem nameOnLine_of_drop {cs : List Char} (hline : '\n' ∉ cs) {k : Nat}
    (h : (nameOnLine (cs.drop k)).isSome = true) : (nameOnLine cs).isSome = true := by
  induction k generalizing cs with
  | zero => exact h
  | succ k ih =>
      cases cs with
      | nil => cases h
      | cons c cs =>
          rw [List.mem_cons, not_or] at hline
          rw [nameOnLine]
          split
          · rfl
          · rw [if_neg (Ne.symm hline.1)]
            exact ih hline.2 h

/-- The parts of a declaration: its word, a blank, and a quoted name on the line that follows. -/
theorem importAt_eq_some {cs : List Char} {m : Match} (h : importAt cs = some m) :
    ∃ b rest quoted name after, cs = "import".toList ++ b :: rest ∧ Text.isBlank b = true ∧
      nameOnLine rest = some (quoted, name, after) ∧
      m = ⟨cs.length - quoted.length + 1, name, cs.length - after.length⟩ := by
  simp only [importAt, Option.bind_eq_bind, Option.bind_eq_some_iff] at h
  obtain ⟨rest, hstart, h⟩ := h
  have hcs := Text.dropStart?_eq_some_iff.1 hstart
  split at h
  next => cases h
  next b rest =>
    split at h
    next hblank =>
      rw [Option.bind_eq_some_iff] at h
      obtain ⟨⟨quoted, name, after⟩, hname, h⟩ := h
      injection h with h
      exact ⟨b, rest, quoted, name, after, hcs, hblank, hname, h.symm⟩
    next => cases h

/-- Whatever has these parts is a declaration. -/
theorem importAt_of_parts {b : Char} {rest quoted name after : List Char}
    (hblank : Text.isBlank b = true) (hname : nameOnLine rest = some (quoted, name, after)) :
    let cs := "import".toList ++ b :: rest
    importAt cs = some ⟨cs.length - quoted.length + 1, name, cs.length - after.length⟩ := by
  intro cs
  have hstart : Text.dropStart? "import".toList cs = some (b :: rest) :=
    Text.dropStart?_eq_some_iff.2 rfl
  simp only [importAt, Option.bind_eq_bind, hstart, Option.bind_some, if_pos hblank, hname]

theorem isLocal_importAt : IsLocal importAt := by
  intro cs rest m h
  obtain ⟨b, line, quoted, name, after, rfl, hblank, hname, rfl⟩ := importAt_eq_some h
  have hmore := importAt_of_parts hblank (nameOnLine_append hname rest).2
  rw [List.append_assoc, List.cons_append, hmore]
  simp only [List.length_append, List.length_cons]
  congr 2 <;> omega

/-- A declaration that starts on a line is found on the line alone if another one is found later on the
line: the quoted name of the later one is there for the earlier one. -/
theorem importAt_of_later {cs after : List Char} {k : Nat} {n m : Match} (hline : '\n' ∉ cs)
    (hn : importAt (cs ++ after) = some n) (hm : importAt (cs.drop k) = some m) :
    importAt cs = some n := by
  obtain ⟨b', rest', quoted', name', after', hdrop, -, hname', -⟩ := importAt_eq_some hm
  obtain ⟨b, rest, quoted, name, after'', hwhole, hblank, -, -⟩ := importAt_eq_some hn
  have hlong : k + 7 ≤ cs.length := by
    have hlength := congrArg List.length hdrop
    simp at hlength
    omega
  -- The line is long enough to hold the word and the blank.
  have hcs : cs = "import".toList ++ b :: cs.drop 7 := by
    have htake : cs.take 7 = "import".toList ++ [b] := by
      have hseven := congrArg (List.take 7) hwhole
      rw [List.take_append_of_le_length (by omega)] at hseven
      exact hseven
    have hsplit := (List.take_append_drop 7 cs).symm
    rw [htake] at hsplit
    exact hsplit
  have hrest : (cs.drop 7).drop k = rest' := by
    have hlater := congrArg (List.drop 7) hdrop
    rw [List.drop_drop] at hlater ⊢
    rw [Nat.add_comm 7 k, hlater]
    rfl
  have hfound : (nameOnLine (cs.drop 7)).isSome = true := by
    refine nameOnLine_of_drop (fun hmem => hline (List.mem_of_mem_drop hmem)) (k := k) ?_
    rw [hrest, hname']
    rfl
  obtain ⟨⟨q, x, a⟩, hx⟩ := Option.isSome_iff_exists.1 hfound
  have halone := importAt_of_parts hblank hx
  rw [← hcs] at halone
  have hsame := isLocal_importAt cs after _ halone
  rw [hn] at hsame
  rw [hsame]
  exact halone

/-! ### A line of a text -/

/-- Every call on a line is taken in the whole text. -/
theorem mem_spans_requireAt (before after : List Char) {line : List Char} {p : Nat} {m : Match}
    (h : (p, m) ∈ spans requireAt 0 0 line) :
    (before.length + p, m) ∈ spans requireAt 0 0 (before ++ line ++ after) := by
  rw [mem_spans_part_iff isLocal_requireAt rfl before after h]
  intro q n hq hlt
  have hform := form_of_mem_part isLocal_requireAt before after h
  obtain ⟨k, hk, -, hn⟩ := spans_sound hq
  rw [Nat.zero_add] at hk
  subst hk
  have hplace : before.length + p = q + (before.length + p - q) := by omega
  rw [hplace, ← List.drop_drop] at hform
  have hends := requireAt_disjoint hn hform (by omega)
  omega

/-- Every declaration on a line is taken in the whole text if none runs into the line. -/
theorem mem_spans_importAt {before line after : List Char} (hline : '\n' ∉ line)
    (hnone : NoneBeyond importAt 0 0 (before ++ line ++ after) before.length) {p : Nat} {m : Match}
    (h : (p, m) ∈ spans importAt 0 0 line) :
    (before.length + p, m) ∈ spans importAt 0 0 (before ++ line ++ after) := by
  -- By induction on the place: what is taken on the line before it is taken in the whole text.
  induction p using Nat.strong_induction_on generalizing m with
  | _ p ih =>
      rw [mem_spans_part_iff isLocal_importAt rfl before after h]
      intro q n hq hlt
      rcases Nat.lt_or_ge q before.length with hbefore | hin
      · have hends := hnone q n hq hbefore
        omega
      · obtain ⟨k, rfl⟩ : ∃ k, q = before.length + k := ⟨q - before.length, by omega⟩
        obtain ⟨place, hplace, -, hn⟩ := spans_sound hq
        obtain ⟨place', hplace', -, hm⟩ := spans_sound h
        rw [Nat.zero_add] at hplace hplace'
        subst hplace hplace'
        have hlength : p < line.length := by
          rcases Nat.lt_or_ge p line.length with hlt | hge
          · exact hlt
          · rw [List.drop_eq_nil_of_le hge] at hm
            cases hm
        have hdrop : (before ++ line ++ after).drop (before.length + k) = line.drop k ++ after := by
          rw [List.append_assoc, List.drop_length_add_append, List.drop_append_of_le_length (by omega)]
        have hpm : importAt ((line.drop k).drop (p - k)) = some m := by
          rw [List.drop_drop, Nat.add_sub_of_le (by omega)]
          exact hm
        rw [hdrop] at hn
        have hfound := importAt_of_later (fun hmem => hline (List.mem_of_mem_drop hmem)) hn hpm
        -- So the earlier one is taken on the line as well, and it ends before this one starts.
        have htaken : (k, n) ∈ spans importAt 0 0 line := by
          refine (mem_spans_iff (by omega)).2 ⟨hfound, ?_⟩
          intro s l hs hsk
          have hwhole := ih s (by omega) hs
          have hends := noneBeyond_of_mem hq _ l hwhole (by omega)
          omega
        have hends := noneBeyond_of_mem h k n htaken (by omega)
        omega

end Specifier

namespace Text

/-- The place at which a line of a text starts. -/
def lineStart (source : String) (i : Nat) : Nat :=
  (((pieces '\n' source.toList).take i).map fun line => line.length + 1).sum

/-- A piece stands behind the pieces before it and their separators. -/
theorem pieces_place {sep : Char} {cs piece : List Char} {i : Nat}
    (h : (pieces sep cs)[i]? = some piece) : ∃ before after, cs = before ++ piece ++ after ∧
      before.length = (((pieces sep cs).take i).map fun p => p.length + 1).sum := by
  induction cs generalizing i piece with
  | nil =>
      cases i with
      | zero => cases h; exact ⟨[], [], rfl, rfl⟩
      | succ i => cases h
  | cons c cs ih =>
      rw [pieces] at h ⊢
      split at h
      next hsep =>
        rw [if_pos hsep]
        cases i with
        | zero => cases h; exact ⟨[], c :: cs, rfl, rfl⟩
        | succ i =>
            obtain ⟨before, after, hcs, hlength⟩ := ih h
            refine ⟨c :: before, after, by rw [hcs]; rfl, ?_⟩
            rw [List.take_succ_cons, List.map_cons, List.sum_cons, ← hlength]
            simp [Nat.add_comm]
      next hsep =>
        rw [if_neg hsep]
        cases hp : pieces sep cs with
        | nil => exact absurd hp (pieces_ne_nil sep cs)
        | cons first others =>
            rw [hp] at h ih
            cases i with
            | zero =>
                obtain ⟨before, after, hcs, hlength⟩ := ih (i := 0) rfl
                rw [List.length_eq_zero_iff.1 hlength] at hcs
                cases h
                exact ⟨[], after, by rw [hcs]; rfl, rfl⟩
            | succ i =>
                obtain ⟨before, after, hcs, hlength⟩ := ih (i := i + 1) h
                refine ⟨c :: before, after, by rw [hcs]; rfl, ?_⟩
                rw [List.take_succ_cons, List.map_cons, List.sum_cons] at hlength ⊢
                rw [List.length_cons, hlength, List.length_cons]
                omega

/-- A line of a text, whole or without its blank end, stands at its place in the text. -/
theorem line_place {source line text : String} {i : Nat}
    (hline : (splitOnChar '\n' source)[i]? = some line) (htext : text = line ∨ text = trimRight line) :
    '\n' ∉ text.toList ∧ ∃ before after, source.toList = before ++ text.toList ++ after ∧
      before.length = lineStart source i := by
  have hnot := not_mem_splitOnChar (List.mem_of_getElem? hline)
  rw [splitOnChar, List.getElem?_map, Option.map_eq_some_iff] at hline
  obtain ⟨cs, hcs, rfl⟩ := hline
  obtain ⟨before, after, hsource, hlength⟩ := pieces_place hcs
  rcases htext with rfl | rfl
  · exact ⟨hnot, before, after, by rw [hsource, String.toList_ofList], hlength⟩
  · obtain ⟨blanks, hblanks, -⟩ := dropBlanksRight_append_blanks cs
    refine ⟨fun hmem => hnot (mem_of_mem_trimRight hmem), before, blanks ++ after, ?_, hlength⟩
    have htrim : (trimRight (String.ofList cs)).toList = dropBlanksRight cs := by
      rw [trimRight, String.toList_ofList, String.toList_ofList]
    have hwhole : before ++ cs ++ after = before ++ (dropBlanksRight cs ++ blanks) ++ after := by
      rw [← hblanks]
    rw [hsource, htrim, hwhole]
    simp only [List.append_assoc]

end Text

namespace Specifier

/-! ### What a text is found to need -/

theorem mem_firsts {α : Type} [BEq α] [LawfulBEq α] {seen as : List α} {a : α} :
    a ∈ firsts seen as ↔ a ∈ as ∧ a ∉ seen := by
  induction as generalizing seen with
  | nil => simp [firsts]
  | cons b as ih =>
      rw [firsts]
      split
      next hseen =>
        have hb : b ∈ seen := List.contains_iff_mem.1 hseen
        rw [ih, List.mem_cons]
        constructor
        · rintro ⟨ha, hnot⟩
          exact ⟨Or.inr ha, hnot⟩
        · rintro ⟨rfl | ha, hnot⟩
          · exact absurd hb hnot
          · exact ⟨ha, hnot⟩
      next hseen =>
        have hb : b ∉ seen := fun hmem => hseen (List.contains_iff_mem.2 hmem)
        rw [List.mem_cons, ih, List.mem_cons, List.mem_cons]
        constructor
        · rintro (rfl | ⟨ha, hnot⟩)
          · exact ⟨Or.inl rfl, hb⟩
          · rw [not_or] at hnot
            exact ⟨Or.inr ha, hnot.2⟩
        · rintro ⟨hab, hnot⟩
          rcases hab with rfl | ha
          · exact Or.inl rfl
          · by_cases hsame : a = b
            · exact Or.inl hsame
            · exact Or.inr ⟨ha, by rw [not_or]; exact ⟨hsame, hnot⟩⟩

/-- The specifier that a match names. -/
def Match.specifier (m : Match) : String := Text.trim (String.ofList m.name)

/-- The specifiers of a text are those that its matches name. -/
theorem mem_find_iff {source specifier : String} : specifier ∈ find source ↔
    ∃ p m, ((p, m) ∈ spans requireAt 0 0 source.toList ∨ (p, m) ∈ spans importAt 0 0 source.toList) ∧
      specifier = m.specifier := by
  rw [find, mem_firsts, occurrences, scan_eq_map_spans, scan_eq_map_spans]
  simp only [List.mem_map, List.mem_mergeSort, List.mem_append, List.not_mem_nil, not_false_eq_true,
    and_true, Prod.exists]
  constructor
  · rintro ⟨_, _, ⟨p, m, hm, heq⟩ | ⟨p, m, hm, heq⟩, rfl⟩
    · cases heq
      exact ⟨p, m, Or.inl hm, rfl⟩
    · cases heq
      exact ⟨p, m, Or.inr hm, rfl⟩
  · rintro ⟨p, m, hm | hm, rfl⟩
    · exact ⟨_, _, Or.inl ⟨p, m, hm, rfl⟩, rfl⟩
    · exact ⟨_, _, Or.inr ⟨p, m, hm, rfl⟩, rfl⟩

/-- A source text is found to hold a specifier, and to need the package that it names. -/
structure Sees (source specifier : String) : Prop where
  found : specifier ∈ find source
  needed : ∀ package, Package.name? specifier = some package → package ∈ Package.required source

theorem sees_of_mem_find {source specifier : String} (h : specifier ∈ find source) :
    Sees source specifier where
  found := h
  needed package hname := by
    rw [Package.required, mem_firsts]
    exact ⟨List.mem_filterMap.2 ⟨specifier, h, hname⟩, List.not_mem_nil⟩

/-- **What a line holds by itself is found in the whole text unless a declaration runs into it.**  Take
any line of a source text, whole or without its blank end.  What is called on it is always found.  A
declaration on it is taken in the whole text exactly if none that starts before it runs beyond its start,
and all that the line holds is found if no declaration from an earlier line runs into the line. -/
theorem line_seen (source : String) (i : Nat) (line text : String)
    (hline : (Text.splitOnChar '\n' source)[i]? = some line)
    (htext : text = line ∨ text = Text.trimRight line) :
    let start := Text.lineStart source i
    (∀ p m, (p, m) ∈ spans requireAt 0 0 text.toList → Sees source m.specifier) ∧
    (∀ p m, (p, m) ∈ spans importAt 0 0 text.toList →
      ((start + p, m) ∈ spans importAt 0 0 source.toList ↔
        NoneBeyond importAt 0 0 source.toList (start + p))) ∧
    (NoneBeyond importAt 0 0 source.toList start → ∀ specifier ∈ find text, Sees source specifier) := by
  intro start
  obtain ⟨hnot, before, after, hsource, hstart⟩ := Text.line_place hline htext
  have hcalls : ∀ p m, (p, m) ∈ spans requireAt 0 0 text.toList → Sees source m.specifier := by
    intro p m hm
    have hwhole := mem_spans_requireAt before after hm
    rw [← hsource] at hwhole
    exact sees_of_mem_find (mem_find_iff.2 ⟨_, m, Or.inl hwhole, rfl⟩)
  refine ⟨hcalls, ?_, ?_⟩
  · intro p m hm
    have hiff := mem_spans_part_iff isLocal_importAt rfl before after hm
    rwa [← hsource, hstart] at hiff
  · intro hnone specifier hspecifier
    obtain ⟨p, m, hm | hm, rfl⟩ := mem_find_iff.1 hspecifier
    · exact hcalls p m hm
    · change NoneBeyond importAt 0 0 source.toList (Text.lineStart source i) at hnone
      rw [hsource, ← hstart] at hnone
      have hwhole := mem_spans_importAt hnot hnone hm
      rw [← hsource] at hwhole
      exact sees_of_mem_find (mem_find_iff.2 ⟨_, m, Or.inr hwhole, rfl⟩)

/-- A comment that looks like a declaration, and a declaration on the next line. -/
def openComment : String := "// import './x first\nimport a from 'b'"

/-- The comment runs into the declaration, which is then not taken. -/
theorem line_unseen :
    (Text.splitOnChar '\n' openComment)[1]? = some "import a from 'b'" ∧
      (0, ⟨15, "b".toList, 17⟩) ∈ spans importAt 0 0 "import a from 'b'".toList ∧
      (Text.lineStart openComment 1 + 0, ⟨15, "b".toList, 17⟩) ∉ spans importAt 0 0 openComment.toList := by
  have hline : (Text.splitOnChar '\n' openComment)[1]? = some "import a from 'b'" := by rfl
  have hspans : spans importAt 0 0 "import a from 'b'".toList = [(0, ⟨15, "b".toList, 17⟩)] := by rfl
  have hwhole : spans importAt 0 0 openComment.toList =
      [(3, ⟨8, "./x first\nimport a from ".toList, 33⟩)] := by rfl
  obtain ⟨-, hiff, -⟩ := line_seen openComment 1 _ _ hline (Or.inl rfl)
  have hmem : (0, ⟨15, "b".toList, 17⟩) ∈ spans importAt 0 0 "import a from 'b'".toList := by
    rw [hspans]
    exact List.mem_singleton_self _
  refine ⟨hline, hmem, ?_⟩
  rw [hiff 0 _ hmem]
  intro hnone
  have hends := hnone 3 _ (by rw [hwhole]; exact List.mem_singleton_self _) (by decide)
  exact absurd hends (by decide)

end Specifier

end NotebookEngine
