/-
**Notebook documents: saving and loading.**

A notebook whose cells have identities is read back from the document that is written for it, whatever the
texts in it.  A notebook that was loaded is such a notebook, since loading gives an identity to every cell
that has none and changes nothing else, so saving it and loading it again changes nothing.

Main definitions:

* `Cell.IdentifiedBy` — one cell is the other with an identity, which is its own if it has one.

Main results:

* `Notebook.decodes_toJson` — **the document of a notebook is read back as the notebook**;
* `Notebook.version_lt_of_readPlain` — a document that is read has a version of 32 bits;
* `Notebook.read_write_and_resave` — **documents round-trip**, for notebooks that are saved and for documents
  that are loaded.
-/

import Mathlib.Algebra.Group.Nat.Defs
import NotebookEngine.Document.Printer
import NotebookEngine.Document.Reader
import NotebookEngine.Proofs.Json.Decoding
import NotebookEngine.Proofs.Json.Results

set_option autoImplicit false

namespace NotebookEngine

open Json (Spells Colon)
open Json.Reader

/-! ### Cells -/

theorem CellKind.decodes_word (kind : CellKind) : Decodes CellKind.reader (.str kind.word) kind where
  opens := opens_str kind.word
  gives {gap cs rest} hgap hcs hrest := by
    have hword : ["code", "markdown"].contains kind.word = true := by cases kind <;> decide
    have hkind : (if kind.word = "markdown" then CellKind.markdown else CellKind.code) = kind := by
      cases kind <;> decide
    have hread := ((decodes_variant hword "\x60code\x60 or \x60markdown\x60").gives hgap hcs hrest).map
      (f := fun w => if w = "markdown" then CellKind.markdown else CellKind.code)
    rwa [hkind] at hread

/-- An identity or a text that is left out leaves the field unread. -/
theorem gathers_optionalField {σ : Type} {field : String → σ → Json.Reader σ} {name : String} {s : σ}
    {u : σ → Option (Option String) → σ} (hnone : u s none = s)
    (hfield : field name s = do return u s (← known name none optionalText)) (value : Option String) :
    Gathers field (Json.optionalField name value) s (u s (value.map some)) := by
  cases value with
  | none => exact hnone.symm ▸ .nil s
  | some text =>
      refine .cons (t := u s (some (some text))) ?_ (.nil _)
      intro colon cs rest hcolon hcs hrest
      rw [hfield]
      exact ((decodes_text text).optional.known name hcolon hcs hrest).map

theorem Cell.decodes_toJson (c : Cell) : Decodes Cell.reader c.toJson c := by
  have hid : Gathers Cell.field (Json.optionalField "instanceId" c.id?) ⟨none, none, none⟩
      ⟨c.id?.map some, none, none⟩ :=
    gathers_optionalField (u := fun (s : Cell.Fields) id => ⟨id, s.kind, s.source⟩) rfl rfl c.id?
  have hkind : Takes Cell.field ("cellType", .str c.kind.word) ⟨c.id?.map some, none, none⟩
      ⟨c.id?.map some, some c.kind, none⟩ := fun hcolon hcs hrest =>
    (c.kind.decodes_word.known "cellType" hcolon hcs hrest).map
  have hsource : Gathers Cell.field (Json.optionalField "code" c.source?) ⟨c.id?.map some, some c.kind, none⟩
      ⟨c.id?.map some, some c.kind, c.source?.map some⟩ :=
    gathers_optionalField (u := fun (s : Cell.Fields) source => ⟨s.id, s.kind, source⟩) rfl rfl c.source?
  refine decodes_record ((hid.append (.cons hkind (.nil _))).append hsource) (fun cs => ?_) _ _
  have hjoin : ∀ value : Option String, (value.map some).join = value := by
    intro value
    cases value <;> rfl
  have hfinish : Cell.finish ⟨c.id?.map some, some c.kind, c.source?.map some⟩ = pure c := by
    rw [Cell.finish]
    dsimp only
    rw [hjoin, hjoin]
  exact hfinish ▸ gives_pure c cs

/-- The second cell is the first with an identity, which is the identity of the first if it has one. -/
structure Cell.IdentifiedBy (c d : Cell) : Prop where
  hasId : d.hasId = true
  kind : d.kind = c.kind
  source : d.source? = c.source?
  keeps : c.hasId = true → d.id? = c.id?

namespace Notebook

/-! ### What is written -/

/-- **The document of a notebook is read back as the notebook.** -/
theorem decodes_toJson {n : Notebook} (h : n.version < 2 ^ 32) : Decodes reader n.toJson n := by
  have hmax : n.version ≤ maxSignificand := Nat.le_trans (Nat.le_of_lt h) (by decide)
  have hcells : List.Forall₂ (Decodes Cell.reader) (n.cells.map Cell.toJson) n.cells := by
    rw [List.forall₂_map_left_iff]
    exact List.forall₂_same.2 fun c _ => c.decodes_toJson
  have hversion : Takes field ("version", .int n.version) ⟨none, none, none⟩ ⟨some n.version, none, none⟩ :=
    fun hcolon hcs hrest => ((decodes_natBelow h hmax "u32").known "version" hcolon hcs hrest).map
  have hlanguage : Takes field ("language", .str n.language) ⟨some n.version, none, none⟩
      ⟨some n.version, some n.language, none⟩ :=
    fun hcolon hcs hrest => ((decodes_text n.language).known "language" hcolon hcs hrest).map
  have hlist : Takes field ("cells", .arr (n.cells.map Cell.toJson)) ⟨some n.version, some n.language, none⟩
      ⟨some n.version, some n.language, some n.cells⟩ :=
    fun hcolon hcs hrest => ((decodes_listOf hcells).known "cells" hcolon hcs hrest).map
  exact decodes_record (.cons hversion (.cons hlanguage (.cons hlist (.nil _)))) (gives_pure n) _ _

theorem readPlain_write {n : Notebook} (h : n.version < 2 ^ 32) : readPlain n.write = .ok n :=
  run_wholeDocument (decodes_toJson h) (Json.spells_pretty n.toJson)

/-- A notebook whose cells have identities is read back, whatever identities would be given. -/
theorem read_write {n : Notebook} (h : n.version < 2 ^ 32) (hids : ∀ c ∈ n.cells, c.hasId = true)
    (fresh : Nat → String) : read fresh n.write = .ok n := by
  rw [read, readPlain_write h]
  dsimp only
  rw [withIds_eq_self fresh n hids]

/-! ### What is loaded -/

theorem forall₂_assignIds {fresh : Nat → String} (hfresh : ∀ i, fresh i ≠ "") (i : Nat) (cells : List Cell) :
    List.Forall₂ Cell.IdentifiedBy cells (assignIds fresh i cells) := by
  induction cells generalizing i with
  | nil => exact .nil
  | cons c cells ih =>
      refine .cons ?_ (ih (i + 1))
      cases hc : c.hasId with
      | true => exact ⟨hc, rfl, rfl, fun _ => rfl⟩
      | false =>
          have hnew : ({ c with id? := some (fresh i) } : Cell).hasId = true := by
            simp [Cell.hasId, Cell.id, hfresh i]
          exact ⟨hnew, rfl, rfl, fun h => absurd (hc.symm.trans h) Bool.false_ne_true⟩

/-- What is read of the fields has a version of 32 bits. -/
def Fields.Bounded (s : Fields) : Prop := ∀ v ∈ s.version, v < 2 ^ 32

theorem ensures_finish {s : Fields} (h : s.Bounded) : Ensures (finish s) (·.version < 2 ^ 32) := by
  refine ensures_pure ?_
  obtain ⟨version, language, cells⟩ := s
  cases version with
  | none => exact (by decide : defaultVersion < 2 ^ 32)
  | some v => exact h v rfl

theorem ensures_field (name : String) {s : Fields} (h : s.Bounded) :
    Ensures (field name s) Fields.Bounded := by
  unfold field
  split
  · exact ((ensures_natBelow _ _).known _ _).bind fun _ hv => ensures_pure hv
  · exact ensures_bind fun _ => ensures_pure h
  · exact ensures_bind fun _ => ensures_pure h
  · exact ensures_bind fun _ => ensures_pure h

/-- A document that is read has a version of 32 bits. -/
theorem version_lt_of_readPlain {s : String} {n : Notebook} (h : readPlain s = .ok n) :
    n.version < 2 ^ 32 := by
  have hpositional : Ensures positional (·.version < 2 ^ 32) := by
    refine ((ensures_natBelow _ _).nextItem true).bind fun version hversion => ?_
    have hfinish : ∀ language cells, Ensures (finish ⟨version, language, cells⟩) (·.version < 2 ^ 32) :=
      fun _ _ => ensures_finish hversion
    have hcells : ∀ language : Option String, Ensures (do
        let cells ← if language.isSome then nextItem false (listOf Cell.reader) else pure none
        finish ⟨version, language, cells⟩) (·.version < 2 ^ 32) := by
      intro language
      dsimp only
      split
      · exact ensures_bind fun cells => hfinish language cells
      · exact ensures_bind fun cells => hfinish language cells
    dsimp only
    split
    · exact ensures_bind hcells
    · exact ensures_bind hcells
  have hreader : Ensures reader (·.version < 2 ^ 32) :=
    ensures_record nofun (fun name _ hs => ensures_field name hs) (fun _ hs => ensures_finish hs) hpositional
  exact hreader.of_run_wholeDocument h

/-- **Documents round-trip.**  A notebook whose cells have identities is read back from its document.  A
document that is loaded gives the notebook that is written in it, with an identity for every cell, and
saving and loading that notebook again changes nothing. -/
theorem read_write_and_resave {fresh : Nat → String} (hfresh : ∀ i, fresh i ≠ "") :
    (∀ n : Notebook, n.version < 2 ^ 32 → (∀ c ∈ n.cells, c.hasId = true) → read fresh n.write = .ok n) ∧
      ∀ (s : String) (n : Notebook), read fresh s = .ok n →
        (∃ plain, readPlain s = .ok plain ∧ n.version = plain.version ∧ n.language = plain.language ∧
          List.Forall₂ Cell.IdentifiedBy plain.cells n.cells) ∧
        ∀ fresh' : Nat → String, read fresh' n.write = .ok n := by
  refine ⟨fun n hversion hids => read_write hversion hids fresh, fun s n hread => ?_⟩
  rw [read] at hread
  split at hread
  next plain hplain =>
    obtain rfl := Except.ok.inj hread
    refine ⟨⟨plain, hplain, rfl, rfl, forall₂_assignIds hfresh 0 plain.cells⟩, fun fresh' => ?_⟩
    have hversion : plain.version < 2 ^ 32 := version_lt_of_readPlain hplain
    exact read_write (n := plain.withIds fresh) hversion (hasId_of_mem_withIds hfresh plain) fresh'
  next => cases hread

/-- A notebook with marks, control characters and letters beyond the first 128 in its texts. -/
def annotated : Notebook :=
  ⟨3, "typescript", [⟨some "c\u0001é", .code, some "let s = \"\\\";\r\n\t// €"⟩, ⟨some "m", .markdown, none⟩]⟩

/-- A document whose cells have no identity, an empty one and one of their own. -/
def untitled : String :=
  "\x7b\"cells\": [\x7b\"cellType\": \"code\", \"code\": \"1\"\x7d, \x7b\"cellType\": \"code\", \"instanceId\": \"\"\x7d," ++
    "\n\x7b\"extra\": [1.5], \"instanceId\": \"x\", \"cellType\": \"markdown\"\x7d]\x7d"

/-- Identities to be given. -/
def givenId (i : Nat) : String := "3f2504e0-4f89-41d3-9a0c-0305e82c330" ++ toString i

/-- The notebook that is loaded from the document. -/
def titled : Notebook :=
  ⟨1, "javascript", [⟨some "3f2504e0-4f89-41d3-9a0c-0305e82c3300", .code, some "1"⟩,
    ⟨some "3f2504e0-4f89-41d3-9a0c-0305e82c3301", .code, none⟩, ⟨some "x", .markdown, none⟩]⟩

set_option maxRecDepth 4000 in
theorem read_untitled : read givenId untitled = .ok titled := rfl

theorem read_write_annotated :
    (∀ i, givenId i ≠ "") ∧ read givenId annotated.write = .ok annotated ∧
      read givenId untitled = .ok titled ∧ ∀ fresh, read fresh titled.write = .ok titled := by
  have hgiven : ∀ i, givenId i ≠ "" := by
    intro i h
    have hempty := (String.append_eq_empty_iff.1 h).1
    exact absurd hempty (by decide)
  obtain ⟨hsaved, hloaded⟩ := read_write_and_resave hgiven
  exact ⟨hgiven, hsaved annotated (by decide) (by decide), read_untitled, (hloaded _ _ read_untitled).2⟩

end Notebook

end NotebookEngine
