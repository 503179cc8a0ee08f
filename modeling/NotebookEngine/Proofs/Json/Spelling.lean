/-
**The texts of a JSON value.**

A value can be written in many ways, which differ in the gaps between tokens.  The two layouts are among
them, so what readers do with every text of a value they do with what is printed.

Main definitions:

* `Json.Spells` — whether a text writes a value, with any gaps between its tokens;
* `Json.Series` — items that are written one after the other, with commas between them.

Main results:

* `Json.spells_compact`, `Json.spells_pretty` — **both layouts write the value**.
-/

import Mathlib.Data.List.Forall2
import NotebookEngine.Proofs.Json.Reading

set_option autoImplicit false

namespace NotebookEngine

namespace Json

open Reader (Gap)

/-! ### Items one after the other -/

/-- What stands before an item: a gap, in which there is a comma unless the item is the first. -/
def Lead : Bool → List Char → Prop
  | true, cs => Gap cs
  | false, cs => ∃ before after, Gap before ∧ Gap after ∧ cs = before ++ ',' :: after

/-- A colon with gaps around it. -/
def Colon (cs : List Char) : Prop := ∃ before after, Gap before ∧ Gap after ∧ cs = before ++ ':' :: after

/-- Items one after the other, of which each is written as `one` has it. -/
def Series {γ : Type} (one : γ → List Char → Prop) : Bool → List γ → List Char → Prop
  | _, [], cs => Gap cs
  | first, a :: as, cs => ∃ lead text rest,
      Lead first lead ∧ one a text ∧ Series one false as rest ∧ cs = lead ++ text ++ rest

/-! ### Values -/

mutual

/-- Whether a text writes a value, with any gaps between its tokens. -/
def Spells : Json → List Char → Prop
  | .arr items, cs => ∃ inner, SpellsItems true items inner ∧ cs = '[' :: (inner ++ [']'])
  | .obj fields, cs => ∃ inner, SpellsFields true fields inner ∧ cs = '\x7b' :: (inner ++ ['\x7d'])
  | .null, cs => cs = (compact .null).toList
  | .bool b, cs => cs = (compact (.bool b)).toList
  | .int n, cs => cs = (compact (.int n)).toList
  | .float x, cs => cs = (compact (.float x)).toList
  | .str s, cs => cs = (compact (.str s)).toList

/-- Whether a text writes items one after the other. -/
def SpellsItems : Bool → List Json → List Char → Prop
  | _, [], cs => Gap cs
  | first, v :: vs, cs => ∃ lead text rest,
      Lead first lead ∧ Spells v text ∧ SpellsItems false vs rest ∧ cs = lead ++ text ++ rest

/-- Whether a text writes fields one after the other. -/
def SpellsFields : Bool → List (String × Json) → List Char → Prop
  | _, [], cs => Gap cs
  | first, (k, v) :: fields, cs => ∃ lead colon text rest,
      Lead first lead ∧ Colon colon ∧ Spells v text ∧ SpellsFields false fields rest ∧
        cs = lead ++ (quoteChars k.toList ++ colon ++ text) ++ rest

end

/-- Whether a text writes a field. -/
def SpellsField (field : String × Json) (cs : List Char) : Prop :=
  ∃ colon text, Colon colon ∧ Spells field.2 text ∧ cs = quoteChars field.1.toList ++ colon ++ text

theorem spellsItems_eq (first : Bool) (vs : List Json) : SpellsItems first vs = Series Spells first vs := by
  funext cs
  induction vs generalizing first cs with
  | nil => rw [SpellsItems, Series]
  | cons v vs ih =>
      rw [SpellsItems, Series]
      simp only [ih]

theorem spellsFields_iff (first : Bool) (fields : List (String × Json)) (cs : List Char) :
    SpellsFields first fields cs ↔ Series SpellsField first fields cs := by
  induction fields generalizing first cs with
  | nil => rw [SpellsFields, Series]
  | cons field fields ih =>
      obtain ⟨k, v⟩ := field
      simp only [SpellsFields, Series, ih, SpellsField]
      constructor
      · rintro ⟨lead, colon, text, rest, hlead, hcolon, htext, hrest, rfl⟩
        exact ⟨lead, _, rest, hlead, ⟨colon, text, hcolon, htext, rfl⟩, hrest, rfl⟩
      · rintro ⟨lead, _, rest, hlead, ⟨colon, text, hcolon, htext, rfl⟩, hrest, rfl⟩
        exact ⟨lead, colon, text, rest, hlead, hcolon, htext, hrest, rfl⟩

/-! ### Layouts -/

section Layouts

variable {γ : Type} {one : γ → List Char → Prop}

/-- Texts that are joined by a comma and a gap. -/
theorem series_intercalate {as : List γ} {texts : List String}
    (h : List.Forall₂ (fun a t => one a t.toList) as texts) {inner : String} (hinner : Gap inner.toList)
    {tail : List Char} (htail : Gap tail) {first : Bool} {lead : List Char} (hlead : Lead first lead)
    (hne : as ≠ []) :
    Series one first as (lead ++ (("," ++ inner).intercalate texts).toList ++ tail) := by
  induction h generalizing first lead with
  | nil => exact absurd rfl hne
  | @cons a text as texts ha has ih =>
      cases has with
      | nil =>
          refine ⟨lead, text.toList, tail, hlead, ha, htail, ?_⟩
          rw [String.intercalate_singleton]
      | @cons b text' as texts hb has =>
          have hcomma : Lead false (("," ++ inner).toList) :=
            ⟨[], inner.toList, Reader.gap_nil, hinner, String.toList_append⟩
          refine ⟨lead, text.toList, _, hlead, ha, ih hcomma (List.cons_ne_nil b as), ?_⟩
          rw [String.intercalate_cons_cons, String.toList_append, String.toList_append]
          simp only [List.append_assoc]

theorem gap_indentation (depth : Nat) : Gap ("\n" ++ indentation depth).toList := by
  intro c hc
  simp only [String.toList_append, indentation, String.toList_ofList, List.mem_append] at hc
  rcases hc with hc | hc
  · rw [List.mem_singleton.1 hc]
    rfl
  · rw [List.eq_of_mem_replicate hc]
    rfl

/-- Entries between brackets on one line. -/
theorem exists_series_line {as : List γ} {texts : List String}
    (h : List.Forall₂ (fun a t => one a t.toList) as texts) (opening closing : String) :
    ∃ inner, Series one true as inner ∧
      (opening ++ ",".intercalate texts ++ closing).toList = opening.toList ++ inner ++ closing.toList := by
  refine ⟨(",".intercalate texts).toList, ?_, by rw [String.toList_append, String.toList_append]⟩
  cases h with
  | nil => exact Reader.gap_nil
  | cons ha has =>
      have hlead : Lead true [] := Reader.gap_nil
      have hinner : Gap "".toList := Reader.gap_nil
      have hseries := series_intercalate (.cons ha has) hinner Reader.gap_nil hlead
        (List.cons_ne_nil _ _)
      rwa [String.append_empty, List.nil_append, List.append_nil] at hseries

/-- Entries between brackets, each on a line of its own. -/
theorem exists_series_block {as : List γ} {texts : List String}
    (h : List.Forall₂ (fun a t => one a t.toList) as texts) (opening closing : String) (depth : Nat) :
    ∃ inner, Series one true as inner ∧
      (block opening closing depth texts).toList = opening.toList ++ inner ++ closing.toList := by
  cases h with
  | nil => exact ⟨[], Reader.gap_nil, by
      rw [block, List.isEmpty_nil, if_pos rfl, String.toList_append, List.append_nil]⟩
  | cons ha has =>
      have hlead : Lead true ("\n" ++ indentation (depth + 1)).toList := gap_indentation (depth + 1)
      refine ⟨_, series_intercalate (.cons ha has) (gap_indentation (depth + 1)) (gap_indentation depth)
        hlead (List.cons_ne_nil _ _), ?_⟩
      rw [block, if_neg (by simp)]
      simp only [String.toList_append, List.append_assoc]

end Layouts

/-- A list between its brackets. -/
theorem spells_arr {vs : List Json} {cs inner : List Char} (h : Series Spells true vs inner)
    (hcs : cs = ['['] ++ inner ++ [']']) : Spells (.arr vs) cs := by
  rw [Spells, spellsItems_eq]
  exact ⟨inner, h, hcs⟩

/-- An object between its brackets. -/
theorem spells_obj {fields : List (String × Json)} {cs inner : List Char}
    (h : Series SpellsField true fields inner) (hcs : cs = ['\x7b'] ++ inner ++ ['\x7d']) :
    Spells (.obj fields) cs := by
  rw [Spells]
  exact ⟨inner, (spellsFields_iff true fields inner).2 h, hcs⟩

theorem toList_quote (s : String) : (quote s).toList = quoteChars s.toList := String.toList_ofList

mutual

/-- **The text without blanks writes the value.** -/
theorem spells_compact : (v : Json) → Spells v (compact v).toList
  | .null => by rw [Spells]
  | .bool b => by rw [Spells]
  | .int n => by rw [Spells]
  | .float x => by rw [Spells]
  | .str s => by rw [Spells]
  | .arr vs => by
      obtain ⟨inner, hseries, htext⟩ := exists_series_line (spells_compactItems vs) "[" "]"
      exact spells_arr hseries (by rw [compact, htext]; rfl)
  | .obj fields => by
      obtain ⟨inner, hseries, htext⟩ := exists_series_line (spells_compactFields fields) "\x7b" "\x7d"
      exact spells_obj hseries (by rw [compact, htext]; rfl)

theorem spells_compactItems : (vs : List Json) →
    List.Forall₂ (fun v t => Spells v t.toList) vs (compactItems vs)
  | [] => by rw [compactItems]; exact .nil
  | v :: vs => by rw [compactItems]; exact .cons (spells_compact v) (spells_compactItems vs)

theorem spells_compactFields : (fields : List (String × Json)) →
    List.Forall₂ (fun field t => SpellsField field t.toList) fields (compactFields fields)
  | [] => by rw [compactFields]; exact .nil
  | (k, v) :: fields => by
      rw [compactFields]
      refine .cons ⟨[':'], _, ⟨[], [], Reader.gap_nil, Reader.gap_nil, rfl⟩, spells_compact v, ?_⟩
        (spells_compactFields fields)
      rw [String.toList_append, String.toList_append, toList_quote]
      rfl

end

mutual

/-- **The indented text writes the value.** -/
theorem spells_prettyAt : (v : Json) → (depth : Nat) → Spells v (prettyAt depth v).toList
  | .null, depth => by rw [prettyAt, Spells]; all_goals nofun
  | .bool b, depth => by rw [prettyAt, Spells]; all_goals nofun
  | .int n, depth => by rw [prettyAt, Spells]; all_goals nofun
  | .float x, depth => by rw [prettyAt, Spells]; all_goals nofun
  | .str s, depth => by rw [prettyAt, Spells]; all_goals nofun
  | .arr vs, depth => by
      obtain ⟨inner, hseries, htext⟩ :=
        exists_series_block (spells_prettyItems vs (depth + 1)) "[" "]" depth
      exact spells_arr hseries (by rw [prettyAt, htext]; rfl)
  | .obj fields, depth => by
      obtain ⟨inner, hseries, htext⟩ :=
        exists_series_block (spells_prettyFields fields (depth + 1)) "\x7b" "\x7d" depth
      exact spells_obj hseries (by rw [prettyAt, htext]; rfl)

theorem spells_prettyItems : (vs : List Json) → (depth : Nat) →
    List.Forall₂ (fun v t => Spells v t.toList) vs (prettyItems depth vs)
  | [], depth => by rw [prettyItems]; exact .nil
  | v :: vs, depth => by
      rw [prettyItems]
      exact .cons (spells_prettyAt v depth) (spells_prettyItems vs depth)

theorem spells_prettyFields : (fields : List (String × Json)) → (depth : Nat) →
    List.Forall₂ (fun field t => SpellsField field t.toList) fields (prettyFields depth fields)
  | [], depth => by rw [prettyFields]; exact .nil
  | (k, v) :: fields, depth => by
      rw [prettyFields]
      have hblank : Gap [' '] := by
        intro c hc
        rw [List.mem_singleton.1 hc]
        rfl
      refine .cons ⟨[':', ' '], _, ⟨[], [' '], Reader.gap_nil, hblank, rfl⟩, spells_prettyAt v depth, ?_⟩
        (spells_prettyFields fields depth)
      rw [String.toList_append, String.toList_append, toList_quote]
      rfl

end

theorem spells_pretty (v : Json) : Spells v (pretty v).toList := spells_prettyAt v 0

end Json

end NotebookEngine
