/-
**Reading what was written.**

A reader decodes a value if it reads every text of it, whatever gaps stand between the tokens.  The readers
of lists, records and words decode the values that their parts decode piece by piece, so a record that is
written field by field is read back by a proof that names each field once.

Main definitions:

* `Json.Reader.Decodes` — what a reader makes of all texts of a value;
* `Json.Reader.Takes`, `Json.Reader.Gathers` — what a record gathers from a field, and from all fields.

Main results:

* `Json.Reader.decodes_text`, `Json.Reader.decodes_natBelow`, `Json.Reader.decodes_variant`,
  `Json.Reader.Decodes.optional`, `Json.Reader.decodes_listOf`, `Json.Reader.decodes_record` — what the
  readers decode;
* `Json.Reader.run_wholeDocument` — **a document is read by whatever decodes its value**.
-/

import NotebookEngine.Proofs.Json.Spelling

set_option autoImplicit false

namespace NotebookEngine

namespace Json

namespace Reader

variable {α β σ : Type}

/-! ### Ends and beginnings -/

theorem ends_cons {c : Char} (h : isGap c = true ∨ c = ',' ∨ c = ']' ∨ c = '\x7d') (cs : List Char) :
    Ends (c :: cs) := by
  intro d hd
  obtain rfl := Option.mem_some.1 hd
  exact h

theorem Gap.ends_append {gap : List Char} (hgap : Gap gap) {cs : List Char} (hcs : Ends cs) :
    Ends (gap ++ cs) := by
  cases gap with
  | nil => exact hcs
  | cons c gap => exact ends_cons (Or.inl (hgap c List.mem_cons_self)) (gap ++ cs)

/-- What follows an item ends it: a gap, a comma, or what closes the items. -/
theorem ends_series {γ : Type} {one : γ → List Char → Prop} {as : List γ} {cs : List Char}
    (h : Series one false as cs) {rest : List Char} (hrest : Ends rest) : Ends (cs ++ rest) := by
  cases as with
  | nil => exact Gap.ends_append h hrest
  | cons a as =>
      obtain ⟨lead, text, more, ⟨before, after, hbefore, -, rfl⟩, -, -, rfl⟩ := h
      simp only [List.append_assoc, List.cons_append]
      exact hbefore.ends_append (ends_cons (by simp) _)

/-- The texts of the value begin with a character that is no gap, closes no list and begins no `null`. -/
def Opens (v : Json) : Prop :=
  ∀ cs, Spells v cs → ∃ c rest, cs = c :: rest ∧ isGap c = false ∧ c ≠ ']' ∧ c ≠ 'n'

theorem opens_str (s : String) : Opens (.str s) := by
  intro cs h
  rw [Spells, compact, toList_quote] at h
  exact ⟨'"', _, h, rfl, by decide, by decide⟩

theorem opens_arr (vs : List Json) : Opens (.arr vs) := by
  intro cs h
  rw [Spells] at h
  obtain ⟨inner, -, rfl⟩ := h
  exact ⟨'[', _, rfl, rfl, by decide, by decide⟩

theorem opens_obj (fields : List (String × Json)) : Opens (.obj fields) := by
  intro cs h
  rw [Spells] at h
  obtain ⟨inner, -, rfl⟩ := h
  exact ⟨'\x7b', _, rfl, rfl, by decide, by decide⟩

theorem spells_nat {n : Nat} {cs : List Char} (h : Spells (.int n) cs) : cs = (toString n).toList := by
  rw [Spells, compact] at h
  exact h

/-- A natural number is written by digits. -/
theorem exists_digit_of_spells {n : Nat} {cs : List Char} (h : Spells (.int n) cs) :
    ∃ c rest, cs = c :: rest ∧ c.isDigit = true := by
  rw [spells_nat h, Nat.toString_eq_ofList_toDigits, String.toList_ofList]
  cases hdigits : Nat.toDigits 10 n with
  | nil => exact absurd hdigits Nat.toDigits_ne_nil
  | cons c rest =>
      refine ⟨c, rest, rfl, Nat.isDigit_of_mem_toDigits (b := 10) (n := n) (by omega) (by omega) ?_⟩
      rw [hdigits]
      exact List.mem_cons_self

theorem isGap_of_isDigit {c : Char} (h : c.isDigit = true) : isGap c = false := by
  rw [Bool.eq_false_iff]
  intro hgap
  simp only [isGap, Bool.or_eq_true, decide_eq_true_eq] at hgap
  rcases hgap with ((rfl | rfl) | rfl) | rfl <;> cases h

theorem opens_nat (n : Nat) : Opens (.int n) := by
  intro cs h
  obtain ⟨c, rest, rfl, hc⟩ := exists_digit_of_spells h
  refine ⟨c, rest, rfl, isGap_of_isDigit hc, ?_, ?_⟩ <;> rintro rfl <;> cases hc

/-! ### What readers decode -/

/-- The reader reads every text of `v` as `a`, wherever it stands. -/
structure Decodes (r : Reader α) (v : Json) (a : α) : Prop where
  opens : Opens v
  gives : ∀ {gap cs rest : List Char}, Gap gap → Spells v cs → Ends rest →
    Gives r (gap ++ (cs ++ rest)) a rest

/-- **A string is read back.** -/
theorem decodes_text (s : String) : Decodes text (.str s) s where
  opens := opens_str s
  gives {gap cs rest} hgap h _ := by
    rw [Spells, compact, toList_quote] at h
    subst h
    exact (gives_start hgap (c := '"') rfl _).bind (gives_skip_string s rest)

/-- **So is a natural number below the bound.** -/
theorem decodes_natBelow {n bound : Nat} (h : n < bound) (hmax : n ≤ maxSignificand) (kind : String) :
    Decodes (natBelow bound kind) (.int n) n where
  opens := opens_nat n
  gives {gap cs rest} hgap hcs hrest := by
    obtain ⟨c, digits, rfl, hc⟩ := exists_digit_of_spells hcs
    have hnumber := gives_number hmax hrest
    rw [← spells_nat hcs] at hnumber
    refine (gives_start hgap (isGap_of_isDigit hc) (digits ++ rest)).bind ?_
    have hminus : c ≠ '-' := by rintro rfl; cases hc
    rw [if_neg hminus, digitValue_of_isDigit hc, Option.isSome_some, if_pos rfl]
    refine Gives.located (hnumber.bind ?_)
    dsimp only
    rw [if_pos ⟨Int.natCast_nonneg n, by exact_mod_cast h⟩]
    exact gives_pure _ rest

/-- What is no `null` is read by the reader of what may be one. -/
theorem Decodes.optional {r : Reader α} {v : Json} {a : α} (h : Decodes r v a) :
    Decodes (optional r) v (some a) where
  opens := h.opens
  gives {gap cs rest} hgap hcs hrest := by
    obtain ⟨c, text, rfl, hc, -, hn⟩ := h.opens cs hcs
    refine (gives_skipGaps_cons hgap hc (text ++ rest)).bind ?_
    rw [if_neg fun hnull => hn (Option.some.inj hnull)]
    exact (h.gives gap_nil hcs hrest).map

/-! ### Lists -/

/-- The items are read one by one, up to what closes them. -/
theorem gives_items {r : Reader α} {vs : List Json} {as : List α} (h : List.Forall₂ (Decodes r) vs as)
    {n : Nat} (hn : vs.length < n) {first : Bool} {cs : List Char} (hcs : Series Spells first vs cs)
    (rest : List Char) : Gives (items r n first) (cs ++ ']' :: rest) as (']' :: rest) := by
  induction h generalizing n first cs with
  | nil =>
      obtain ⟨n, rfl⟩ := Nat.exists_eq_succ_of_ne_zero (Nat.ne_zero_of_lt hn)
      have hmore : Gives (moreItems first) (cs ++ ']' :: rest) false (']' :: rest) :=
        (gives_skipGaps_cons hcs rfl rest).bind (gives_pure false _)
      exact hmore.bind (gives_pure [] _)
  | @cons v a vs as hv hvs ih =>
      obtain ⟨n, rfl⟩ := Nat.exists_eq_succ_of_ne_zero (Nat.ne_zero_of_lt hn)
      obtain ⟨lead, text, more, hlead, htext, hmore, rfl⟩ := hcs
      have hends : Ends (more ++ ']' :: rest) := ends_series hmore (ends_cons (by simp) rest)
      obtain ⟨c, tail, htail, hc, hclose, -⟩ := hv.opens text htext
      simp only [List.append_assoc]
      have hread : Gives r (text ++ (more ++ ']' :: rest)) a (more ++ ']' :: rest) :=
        hv.gives gap_nil htext hends
      have hmoreItems : Gives (moreItems first) (lead ++ (text ++ (more ++ ']' :: rest))) true
          (text ++ (more ++ ']' :: rest)) := by
        subst htail
        cases first with
        | true =>
            refine (gives_skipGaps_cons hlead hc _).bind ?_
            split
            next h => cases h
            next h => exact absurd (Option.some.inj h) hclose
            next => exact gives_pure true _
        | false =>
            obtain ⟨before, after, hbefore, hafter, rfl⟩ := hlead
            simp only [List.append_assoc, List.cons_append]
            refine (gives_skipGaps_cons hbefore rfl _).bind ?_
            refine (gives_skip _ _).bind ((gives_skipGaps_cons hafter hc _).bind ?_)
            split
            next h => exact absurd (Option.some.inj h) hclose
            next => exact gives_pure true _
            next h => cases h
      refine hmoreItems.bind (hread.bind ?_)
      exact (ih (Nat.lt_of_succ_lt_succ hn) hmore).map

/-- There are fewer items than characters, since commas divide them. -/
theorem length_le_of_series {γ : Type} {one : γ → List Char → Prop} {as : List γ} {cs : List Char}
    (h : Series one false as cs) : as.length ≤ cs.length := by
  induction as generalizing cs with
  | nil => exact Nat.zero_le _
  | cons a as ih =>
      obtain ⟨lead, text, rest, ⟨before, after, -, -, rfl⟩, -, hrest, rfl⟩ := h
      have hle := ih hrest
      simp only [List.length_append, List.length_cons]
      omega

theorem length_lt_of_series {γ : Type} {one : γ → List Char → Prop} {as : List γ} {cs : List Char}
    (h : Series one true as cs) (c : Char) (rest : List Char) :
    as.length < (cs ++ c :: rest).length + 1 := by
  cases as with
  | nil => exact Nat.succ_pos _
  | cons a as =>
      obtain ⟨lead, text, more, -, -, hmore, rfl⟩ := h
      have hle := length_le_of_series hmore
      simp only [List.length_append, List.length_cons]
      omega

/-- **A list is read back item by item.** -/
theorem decodes_listOf {r : Reader α} {vs : List Json} {as : List α}
    (h : List.Forall₂ (Decodes r) vs as) : Decodes (listOf r) (.arr vs) as where
  opens := opens_arr vs
  gives {gap cs rest} hgap hcs _ := by
    rw [Spells, spellsItems_eq] at hcs
    obtain ⟨inner, hinner, rfl⟩ := hcs
    rw [List.cons_append, List.append_assoc, List.singleton_append]
    have hitems : Gives (do items r (← fuel) true) (inner ++ ']' :: rest) as (']' :: rest) :=
      (gives_fuel _).bind (gives_items h (length_lt_of_series hinner ']' rest) hinner rest)
    have hclose : Gives endOfList (']' :: rest) () rest :=
      (gives_skipGaps_cons gap_nil rfl rest).bind (gives_skip _ _)
    refine (gives_start hgap (c := '[') rfl _).bind (Gives.located ?_)
    exact (gives_skip _ _).bind (hitems.thenClose hclose)

/-! ### Records -/

/-- What the fields read so far become when a field of this name and value is read. -/
def Takes (field : String → σ → Reader σ) (entry : String × Json) (s s' : σ) : Prop :=
  ∀ {colon cs rest : List Char}, Colon colon → Spells entry.2 cs → Ends rest →
    Gives (field entry.1 s) (colon ++ (cs ++ rest)) s' rest

/-- What the fields read so far become when these fields are read. -/
inductive Gathers (field : String → σ → Reader σ) : List (String × Json) → σ → σ → Prop
  | nil (s : σ) : Gathers field [] s s
  | cons {entry : String × Json} {entries : List (String × Json)} {s t u : σ}
      (h : Takes field entry s t) (hrest : Gathers field entries t u) :
      Gathers field (entry :: entries) s u

theorem Gathers.append {field : String → σ → Reader σ} {entries more : List (String × Json)}
    {s s' s'' : σ} (h : Gathers field entries s s') (hmore : Gathers field more s' s'') :
    Gathers field (entries ++ more) s s'' := by
  induction h with
  | nil => exact hmore
  | cons hentry _ ih => exact .cons hentry (ih hmore)

/-- The value of a field that was not read before. -/
theorem Decodes.known {r : Reader α} {v : Json} {a : α} (h : Decodes r v a) (name : String)
    {colon cs rest : List Char} (hcolon : Colon colon) (hcs : Spells v cs) (hrest : Ends rest) :
    Gives (known name none r) (colon ++ (cs ++ rest)) (some a) rest := by
  obtain ⟨before, after, hbefore, hafter, rfl⟩ := hcolon
  simp only [List.append_assoc, List.cons_append]
  have hread : Gives Reader.colon (before ++ ':' :: (after ++ (cs ++ rest))) () (after ++ (cs ++ rest)) :=
    (gives_skipGaps_cons hbefore rfl _).bind (gives_skip _ _)
  rw [Reader.known, Option.isSome_none, if_neg Bool.false_ne_true]
  exact hread.bind (h.gives hafter hcs hrest).map

/-- The fields are read one by one, up to what closes them. -/
theorem gives_fields {field : String → σ → Reader σ} {entries : List (String × Json)} {s s' : σ}
    (h : Gathers field entries s s') {n : Nat} (hn : entries.length < n) {first : Bool} {cs : List Char}
    (hcs : Series SpellsField first entries cs) (rest : List Char) :
    Gives (fields field n first s) (cs ++ '\x7d' :: rest) s' ('\x7d' :: rest) := by
  induction h generalizing n first cs with
  | nil =>
      obtain ⟨n, rfl⟩ := Nat.exists_eq_succ_of_ne_zero (Nat.ne_zero_of_lt hn)
      have hmore : Gives (moreFields first) (cs ++ '\x7d' :: rest) false ('\x7d' :: rest) :=
        (gives_skipGaps_cons hcs rfl rest).bind (gives_pure false _)
      exact hmore.bind (gives_pure _ _)
  | @cons entry entries s s' s'' hentry hentries ih =>
      obtain ⟨n, rfl⟩ := Nat.exists_eq_succ_of_ne_zero (Nat.ne_zero_of_lt hn)
      obtain ⟨lead, _, more, hlead, ⟨colon, text, hcolon, htext, rfl⟩, hmore, rfl⟩ := hcs
      have hends : Ends (more ++ '\x7d' :: rest) := ends_series hmore (ends_cons (by simp) rest)
      have hname := gives_skip_string entry.1 (colon ++ (text ++ (more ++ '\x7d' :: rest)))
      have hread := hentry hcolon htext hends
      have hmoreFields : ∀ ds : List Char, Gives (moreFields first) (lead ++ (quoteChars entry.1.toList ++ ds))
          true (quoteChars entry.1.toList ++ ds) := by
        intro ds
        rw [quoteChars, List.cons_append]
        cases first with
        | true => exact (gives_skipGaps_cons hlead (c := '"') rfl _).bind (gives_pure true _)
        | false =>
            obtain ⟨before, after, hbefore, hafter, rfl⟩ := hlead
            simp only [List.append_assoc, List.cons_append]
            refine (gives_skipGaps_cons hbefore (c := ',') rfl _).bind ((gives_skip _ _).bind ?_)
            exact (gives_skipGaps_cons hafter (c := '"') rfl _).bind (gives_pure true _)
      simp only [List.append_assoc]
      refine (hmoreFields _).bind (hname.bind (hread.bind ?_))
      exact ih (Nat.lt_of_succ_lt_succ hn) hmore

/-- **A record is read back field by field.** -/
theorem decodes_record {field : String → σ → Reader σ} {finish : σ → Reader α}
    {entries : List (String × Json)} {empty s : σ} {a : α} (h : Gathers field entries empty s)
    (hfinish : ∀ cs, Gives (finish s) cs a cs) (expected : String) (positional : Reader α) :
    Decodes (record expected empty field finish positional) (.obj entries) a where
  opens := opens_obj entries
  gives {gap cs rest} hgap hcs _ := by
    rw [Spells] at hcs
    obtain ⟨inner, hinner, rfl⟩ := hcs
    rw [spellsFields_iff] at hinner
    rw [List.cons_append, List.append_assoc, List.singleton_append]
    have hfields : Gives (do finish (← fields field (← fuel) true empty)) (inner ++ '\x7d' :: rest) a
        ('\x7d' :: rest) :=
      (gives_fuel _).bind
        ((gives_fields h (length_lt_of_series hinner '\x7d' rest) hinner rest).bind (hfinish _))
    have hclose : Gives endOfObject ('\x7d' :: rest) () rest :=
      (gives_skipGaps_cons gap_nil rfl rest).bind (gives_skip _ _)
    refine (gives_start hgap (c := '\x7b') rfl _).bind (Gives.located ?_)
    exact (gives_skip _ _).bind (hfields.thenClose hclose)

/-! ### Words -/

/-- **One of the words is read back.** -/
theorem decodes_variant {w : String} {words : List String} (h : words.contains w = true)
    (expected : String) : Decodes (variant words expected) (.str w) w where
  opens := opens_str w
  gives {gap cs rest} hgap hcs _ := by
    rw [Spells, compact, toList_quote] at hcs
    subst hcs
    rw [quoteChars, List.cons_append, List.append_assoc]
    refine (gives_start hgap (c := '"') rfl _).bind ?_
    refine (gives_start gap_nil (c := '"') rfl _).bind (Gives.located ?_)
    refine (gives_skip _ _).bind ((gives_string w rest).bind ?_)
    rw [if_pos h]
    exact gives_pure w rest

/-! ### Documents -/

/-- **A document is read by whatever decodes its value.** -/
theorem run_wholeDocument {r : Reader α} {v : Json} {a : α} (h : Decodes r v a) {s : String}
    (hs : Spells v s.toList) : run (wholeDocument r) s = .ok a := by
  have hread := h.gives gap_nil hs ends_nil
  rw [List.nil_append, List.append_nil] at hread
  have hend : Gives skipGaps [] none [] := fun line column => ⟨line, column, rfl⟩
  exact run_of_gives (hread.bind (hend.bind (gives_pure a [])))

end Reader

end Json

end NotebookEngine
