/-
**Data that is met again.**

An object that is written as data is noted when it is met, and where it is met again a mark is written in
its place, by which circles are told.  But an object may be met again without lying within itself, if it is
a part of two others: then it is written the first time only, and what the second place holds is lost.

Data is taken as the tree that it unfolds to, where an object stands at every place at which it is met.

Main definitions:

* `Engine.Shown`, `Engine.Parts` — data as a tree;
* `Engine.Shown.text` — the text that writes it in full;
* `Engine.Shown.marked` — the data with marks where objects are met again.

Main results:

* `Engine.Shown.marked_eq_self_iff` — marks are put unless every object is met once;
* `Engine.Shown.text_marked_eq_iff` — **the text tells**.
-/

import NotebookEngine.Engine.Library.JsonData

set_option autoImplicit false

namespace NotebookEngine

namespace Engine

/-! ### Trees -/

/-- How the parts of an object are written. -/
inductive Form where
  | list
  | record
  deriving DecidableEq

mutual

/-- Data as a tree. -/
inductive Shown where
  /-- What is left out. -/
  | nothing
  /-- Data without parts, by its text. -/
  | leaf (text : String)
  | object (ref : Ref) (form : Form) (parts : Parts)

/-- The parts of an object, with their names. -/
inductive Parts where
  | nil
  | cons (name : String) (value : Shown) (rest : Parts)

end

open Library

mutual

/-- The text that writes the data, none if it is left out. -/
def Shown.text? : Shown → Option String
  | .nothing => none
  | .leaf text => some text
  | .object _ .list parts => some (bracketed "" "" "[" "]" parts.items)
  | .object _ .record parts => some (bracketed "" "" "\x7b" "\x7d" parts.fields)

/-- The texts of the items of a list. -/
def Parts.items : Parts → List String
  | .nil => []
  | .cons _ value rest => value.text?.getD "null" :: rest.items

/-- The texts of the fields of a record. -/
def Parts.fields : Parts → List String
  | .nil => []
  | .cons name value rest =>
    match value.text? with
    | some text => (quoteText name ++ ":" ++ text) :: rest.fields
    | none => rest.fields

end

/-- The text that writes the data; what is left out is written as null. -/
def Shown.text (x : Shown) : String := x.text?.getD "null"

mutual

/-- The objects of the data, once for every place where they are met. -/
def Shown.refs : Shown → List Ref
  | .nothing | .leaf _ => []
  | .object ref _ parts => ref :: parts.refs

/-- The objects of the parts. -/
def Parts.refs : Parts → List Ref
  | .nil => []
  | .cons _ value rest => value.refs ++ rest.refs

end

/-- What is written in the place of an object that was met before. -/
def circular : Shown := .leaf (quoteText "[Circular]")

mutual

/-- The data with marks where objects are met again, after some were met, and the objects met then. -/
def Shown.marked : Shown → List Ref → Shown × List Ref
  | .object ref form parts, seen =>
    if ref ∈ seen then (circular, seen)
    else (.object ref form (parts.marked (ref :: seen)).1, (parts.marked (ref :: seen)).2)
  | x, seen => (x, seen)

/-- The parts with marks. -/
def Parts.marked : Parts → List Ref → Parts × List Ref
  | .nil, seen => (.nil, seen)
  | .cons name value rest, seen =>
    (.cons name (value.marked seen).1 (rest.marked (value.marked seen).2).1,
      (rest.marked (value.marked seen).2).2)

end

/-! ### Where marks are put -/

mutual

/-- The objects that were met are those that are left. -/
theorem Shown.mem_marked (x : Shown) (seen : List Ref) (ref : Ref) :
    ref ∈ (x.marked seen).2 ↔ ref ∈ (x.marked seen).1.refs ∨ ref ∈ seen := by
  cases x with
  | nothing => simp [Shown.marked, Shown.refs]
  | leaf text => simp [Shown.marked, Shown.refs]
  | object r form parts =>
      rw [Shown.marked]
      split
      · simp [circular, Shown.refs]
      · rw [parts.mem_marked, Shown.refs, List.mem_cons, List.mem_cons, or_left_comm, or_assoc]

theorem Parts.mem_marked (parts : Parts) (seen : List Ref) (ref : Ref) :
    ref ∈ (parts.marked seen).2 ↔ ref ∈ (parts.marked seen).1.refs ∨ ref ∈ seen := by
  cases parts with
  | nil => simp [Parts.marked, Parts.refs]
  | cons name value rest =>
      rw [Parts.marked, rest.mem_marked, value.mem_marked, Parts.refs, List.mem_append, or_left_comm, or_assoc]

end

mutual

/-- No mark is put just if no object is met that was met before. -/
theorem Shown.marked_eq_self_iff (x : Shown) (seen : List Ref) :
    (x.marked seen).1 = x ↔ x.refs.Nodup ∧ ∀ ref ∈ x.refs, ref ∉ seen := by
  cases x with
  | nothing => simp [Shown.marked, Shown.refs]
  | leaf text => simp [Shown.marked, Shown.refs]
  | object r form parts =>
      rw [Shown.marked]
      split
      next hseen => simp [circular, Shown.refs, hseen]
      next hseen =>
        rw [Shown.object.injEq, Shown.refs, List.nodup_cons, List.forall_mem_cons, parts.marked_eq_self_iff]
        simp only [List.mem_cons, not_or]
        constructor
        · rintro ⟨-, -, hnodup, hapart⟩
          exact ⟨⟨fun hmem => (hapart r hmem).1 rfl, hnodup⟩, hseen, fun ref href => (hapart ref href).2⟩
        · rintro ⟨⟨hnot, hnodup⟩, -, hapart⟩
          exact ⟨trivial, trivial, hnodup, fun ref href => ⟨fun h => hnot (h ▸ href), hapart ref href⟩⟩

theorem Parts.marked_eq_self_iff (parts : Parts) (seen : List Ref) :
    (parts.marked seen).1 = parts ↔ parts.refs.Nodup ∧ ∀ ref ∈ parts.refs, ref ∉ seen := by
  cases parts with
  | nil => simp [Parts.marked, Parts.refs]
  | cons name value rest =>
      have hmet := value.mem_marked seen
      rw [Parts.marked, Parts.cons.injEq, rest.marked_eq_self_iff, Parts.refs, List.nodup_append,
        List.forall_mem_append]
      constructor
      · rintro ⟨-, hvalue, hnodup, hapart⟩
        rw [hvalue] at hmet
        obtain ⟨hnodup', hapart'⟩ := (value.marked_eq_self_iff seen).1 hvalue
        refine ⟨⟨hnodup', hnodup, ?_⟩, hapart', fun ref href hmem => hapart ref href ((hmet ref).2 (.inr hmem))⟩
        rintro ref hleft _ hright rfl
        exact hapart ref hright ((hmet ref).2 (.inl hleft))
      · rintro ⟨⟨hnodup', hnodup, hdisjoint⟩, hapart', hapart⟩
        have hvalue := (value.marked_eq_self_iff seen).2 ⟨hnodup', hapart'⟩
        rw [hvalue] at hmet
        refine ⟨rfl, hvalue, hnodup, fun ref href hmem => ?_⟩
        rcases (hmet ref).1 hmem with h | h
        · exact hdisjoint ref h ref href rfl
        · exact hapart ref href h

end

/-! ### Texts that differ -/

/-- Two texts that differ at some place up to which they are the same. -/
def Apart (s s' : String) : Prop :=
  ∃ before c c' after after', s.toList = before ++ c :: after ∧ s'.toList = before ++ c' :: after' ∧ c ≠ c'

/-- Two lists of texts that are the same up to two texts that differ so. -/
def ApartIn (texts texts' : List String) : Prop :=
  ∃ before s s' after after', texts = before ++ s :: after ∧ texts' = before ++ s' :: after' ∧ Apart s s'

variable {s s' : String}

theorem Apart.ne (h : Apart s s') : s ≠ s' := by
  rintro rfl
  obtain ⟨before, c, c', after, after', hs, hs', hne⟩ := h
  rw [hs, List.append_cancel_left_eq, List.cons.injEq] at hs'
  exact hne hs'.1

/-- Texts that begin with different letters. -/
theorem Apart.of_first {c c' : Char} {cs cs' : List Char} (hs : s.toList = c :: cs) (hs' : s'.toList = c' :: cs')
    (hne : c ≠ c') : Apart s s' := ⟨[], c, c', cs, cs', hs, hs', hne⟩

theorem Apart.within (h : Apart s s') (front back back' : String) :
    Apart (front ++ s ++ back) (front ++ s' ++ back') := by
  obtain ⟨before, c, c', after, after', hs, hs', hne⟩ := h
  refine ⟨front.toList ++ before, c, c', after ++ back.toList, after' ++ back'.toList, ?_, ?_, hne⟩
  · simp [hs]
  · simp [hs']

theorem ApartIn.cons {texts texts' : List String} (h : ApartIn texts texts') (text : String) :
    ApartIn (text :: texts) (text :: texts') := by
  obtain ⟨before, s, s', after, after', rfl, rfl, hapart⟩ := h
  exact ⟨text :: before, s, s', after, after', rfl, rfl, hapart⟩

theorem ApartIn.intercalate {texts texts' : List String} (h : ApartIn texts texts') (separator : String) :
    Apart (separator.intercalate texts) (separator.intercalate texts') := by
  obtain ⟨before, s, s', after, after', rfl, rfl, hapart⟩ := h
  have hlast : ∀ (t : String) (rest : List String),
      ∃ more, separator.intercalate (t :: rest) = t ++ more := by
    intro t rest
    cases rest with
    | nil => exact ⟨"", by simp⟩
    | cons u rest => exact ⟨_, by rw [String.intercalate_cons_cons, String.append_assoc]⟩
  obtain ⟨more, hmore⟩ := hlast s after
  obtain ⟨more', hmore'⟩ := hlast s' after'
  cases before with
  | nil =>
      rw [List.nil_append, List.nil_append, hmore, hmore']
      simpa using hapart.within "" more more'
  | cons b before =>
      rw [String.intercalate_append_of_ne_nil (List.cons_ne_nil _ _) (List.cons_ne_nil _ _),
        String.intercalate_append_of_ne_nil (List.cons_ne_nil _ _) (List.cons_ne_nil _ _), hmore, hmore',
        ← String.append_assoc, ← String.append_assoc]
      exact hapart.within _ more more'

/-- Texts between brackets, on one line. -/
theorem bracketed_line (indent opening closing : String) (parts : List String) :
    bracketed "" indent opening closing parts = opening ++ ",".intercalate parts ++ closing := by
  rw [bracketed]
  cases parts with
  | nil => simp
  | cons part parts => rfl

theorem ApartIn.bracketed {texts texts' : List String} (h : ApartIn texts texts') (opening closing : String) :
    Apart (bracketed "" "" opening closing texts) (bracketed "" "" opening closing texts') := by
  rw [bracketed_line, bracketed_line]
  exact (h.intercalate ",").within opening closing closing

/-! ### The text tells -/

theorem exists_toList_bracketed {opening : String} {c : Char} (hopening : opening.toList = [c])
    (closing : String) (texts : List String) :
    ∃ cs, (bracketed "" "" opening closing texts).toList = c :: cs := by
  rw [bracketed_line, String.toList_append, String.toList_append, hopening]
  exact ⟨_, rfl⟩

/-- A mark is never the text of an object. -/
theorem apart_circular (ref : Ref) (form : Form) (parts : Parts) :
    ∃ s s', circular.text? = some s ∧ (Shown.object ref form parts).text? = some s' ∧ Apart s s' := by
  have hmark : (quoteText "[Circular]").toList = '"' :: _ := String.toList_ofList
  cases form with
  | list =>
      obtain ⟨cs, hcs⟩ := exists_toList_bracketed (show "[".toList = ['['] from rfl) "]" parts.items
      exact ⟨_, _, rfl, rfl, .of_first hmark hcs (by decide)⟩
  | record =>
      obtain ⟨cs, hcs⟩ := exists_toList_bracketed (show "\x7b".toList = ['\x7b'] from rfl) "\x7d" parts.fields
      exact ⟨_, _, rfl, rfl, .of_first hmark hcs (by decide)⟩

mutual

/-- Where a mark is put, the texts differ. -/
theorem Shown.apart_marked (x : Shown) (seen : List Ref) (h : (x.marked seen).1 ≠ x) :
    ∃ s s', (x.marked seen).1.text? = some s ∧ x.text? = some s' ∧ Apart s s' := by
  cases x with
  | nothing => exact absurd rfl h
  | leaf text => exact absurd rfl h
  | object r form parts =>
      rw [Shown.marked] at h ⊢
      split at h
      next hseen => exact (if_pos hseen ▸ apart_circular r form parts)
      next hseen =>
        rw [if_neg hseen]
        have hparts := parts.apart_marked (r :: seen) (fun heq => h (by rw [heq]))
        cases form with
        | list => exact ⟨_, _, rfl, rfl, hparts.1.bracketed "[" "]"⟩
        | record => exact ⟨_, _, rfl, rfl, hparts.2.bracketed "\x7b" "\x7d"⟩

theorem Parts.apart_marked (parts : Parts) (seen : List Ref) (h : (parts.marked seen).1 ≠ parts) :
    ApartIn (parts.marked seen).1.items parts.items ∧ ApartIn (parts.marked seen).1.fields parts.fields := by
  -- The first part that holds a mark decides: up to it the texts are the same, and behind it anything may stand.
  cases parts with
  | nil => exact absurd rfl h
  | cons name value rest =>
      rw [Parts.marked] at h ⊢
      by_cases hvalue : (value.marked seen).1 = value
      · rw [hvalue] at h ⊢
        obtain ⟨hitems, hfields⟩ := rest.apart_marked _ (fun heq => h (by rw [heq]))
        refine ⟨hitems.cons _, ?_⟩
        rw [Parts.fields, Parts.fields]
        cases value.text? with
        | none => exact hfields
        | some text => exact hfields.cons _
      · obtain ⟨s, s', hs, hs', hapart⟩ := value.apart_marked seen hvalue
        rw [Parts.items, Parts.items, Parts.fields, Parts.fields, hs, hs']
        refine ⟨⟨[], s, s', _, _, rfl, rfl, hapart⟩, [], _, _, _, _, rfl, rfl, ?_⟩
        simpa using hapart.within (quoteText name ++ ":") "" ""

end

/-- **The text tells.**  The data with marks is written like the data in full just if no object is met at two
places. -/
theorem Shown.text_marked_eq_iff (x : Shown) :
    (x.marked []).1.text = x.text ↔ x.refs.Nodup := by
  have hiff := x.marked_eq_self_iff []
  simp only [List.not_mem_nil, not_false_eq_true, implies_true, and_true] at hiff
  rw [← hiff]
  constructor
  · intro htext
    refine Classical.byContradiction fun hne => ?_
    obtain ⟨s, s', hs, hs', hapart⟩ := x.apart_marked [] hne
    rw [Shown.text, Shown.text, hs, hs'] at htext
    exact hapart.ne htext
  · intro heq
    rw [heq]

end Engine

end NotebookEngine
