/-
**Readers on written text.**

What a reader does with a text is told by what it gives and what it leaves of the text, wherever the text
stands in its document: lines and columns matter for faults only.  Readers that are put together give what
their parts give one after the other.

Main definitions:

* `Json.Reader.Gives` — what a reader gives on a text, and what it leaves;
* `Json.Reader.Gap` — characters between tokens;
* `Json.Reader.Ends` — what may follow a token.

Main results:

* `Json.Reader.gives_string` — **a string that is written is read back**;
* `Json.Reader.gives_number` — **so is a natural number**.
-/

import NotebookEngine.Json.Record
import NotebookEngine.Json.Printer

set_option autoImplicit false

namespace NotebookEngine

namespace Json

namespace Reader

variable {α β : Type}

/-! ### What readers give -/

/-- The reader gives `a` on the text `cs` and leaves `ds`, wherever the text stands in its document. -/
def Gives (r : Reader α) (cs : List Char) (a : α) (ds : List Char) : Prop :=
  ∀ line column, ∃ line' column', r ⟨cs, line, column⟩ = (.ok a, ⟨ds, line', column'⟩)

theorem gives_pure (a : α) (cs : List Char) : Gives (pure a) cs a cs :=
  fun line column => ⟨line, column, rfl⟩

/-- One reader after another. -/
theorem Gives.bind {r : Reader α} {f : α → Reader β} {cs ds es : List Char} {a : α} {b : β}
    (hr : Gives r cs a ds) (hf : Gives (f a) ds b es) : Gives (r >>= f) cs b es := by
  intro line column
  obtain ⟨line', column', hfirst⟩ := hr line column
  obtain ⟨line'', column'', hsecond⟩ := hf line' column'
  refine ⟨line'', column'', ?_⟩
  rw [← hsecond]
  simp only [Bind.bind, ExceptT.bind, ExceptT.mk, StateT.bind, hfirst]
  rfl

/-- A result that is only changed. -/
theorem Gives.map {r : Reader α} {f : α → β} {cs ds : List Char} {a : α} (hr : Gives r cs a ds) :
    Gives (do return f (← r)) cs (f a) ds := hr.bind (gives_pure (f a) ds)

theorem gives_peek (cs : List Char) : Gives peek cs cs.head? cs :=
  fun line column => ⟨line, column, rfl⟩

theorem gives_skip (c : Char) (cs : List Char) : Gives skip (c :: cs) () cs := by
  intro line column
  by_cases hc : c = '\n'
  · exact ⟨line + 1, 0, by subst hc; rfl⟩
  · refine ⟨line, column + c.utf8Size, ?_⟩
    show (Except.ok (), Cursor.step ⟨c :: cs, line, column⟩) = _
    simp only [Cursor.step, if_neg hc]

theorem gives_fuel (cs : List Char) : Gives fuel cs (cs.length + 1) cs :=
  fun line column => ⟨line, column, rfl⟩

theorem Gives.located {r : Reader α} {cs ds : List Char} {a : α} (hr : Gives r cs a ds) :
    Gives (located r) cs a ds := by
  intro line column
  obtain ⟨line', column', hr⟩ := hr line column
  exact ⟨line', column', by rw [Reader.located, hr]⟩

theorem Gives.thenClose {r : Reader α} {close : Reader Unit} {cs ds es : List Char} {a : α}
    (hr : Gives r cs a ds) (hclose : Gives close ds () es) : Gives (thenClose r close) cs a es := by
  intro line column
  obtain ⟨line', column', hr⟩ := hr line column
  obtain ⟨line'', column'', hclose⟩ := (hclose.map (f := fun _ => a)) line' column'
  exact ⟨line'', column'', by rw [Reader.thenClose, hr]; exact hclose⟩

/-- What a reader gives on a whole document. -/
theorem run_of_gives {r : Reader α} {s : String} {a : α} {ds : List Char}
    (h : Gives r s.toList a ds) : run r s = .ok a := by
  obtain ⟨line, column, h⟩ := h 1 0
  rw [run, Cursor.start, h]

/-! ### Gaps -/

/-- The characters may stand between tokens. -/
def Gap (cs : List Char) : Prop := ∀ c ∈ cs, isGap c = true

@[simp] theorem gap_nil : Gap [] := nofun

theorem dropGaps_append {gap : List Char} (hgap : Gap gap) {cs : List Char}
    (hcs : ∀ c ∈ cs.head?, isGap c = false) (line column : Nat) :
    ∃ line' column', dropGaps (gap ++ cs) line column = ⟨cs, line', column'⟩ := by
  induction gap generalizing line column with
  | nil =>
      cases cs with
      | nil => exact ⟨line, column, rfl⟩
      | cons c cs =>
          have hc : isGap c = false := hcs c rfl
          have hne : c ≠ '\n' := fun h => by rw [h] at hc; cases hc
          exact ⟨line, column, by rw [List.nil_append, dropGaps, if_neg hne, if_neg (by simp [hc])]⟩
  | cons g gap ih =>
      obtain ⟨hg, hgap⟩ := List.forall_mem_cons.1 hgap
      rw [List.cons_append, dropGaps, if_pos hg]
      split
      · exact ih hgap _ _
      · exact ih hgap _ _

/-- Gaps are consumed up to the first character that is none. -/
theorem gives_skipGaps {gap : List Char} (hgap : Gap gap) {cs : List Char}
    (hcs : ∀ c ∈ cs.head?, isGap c = false) : Gives skipGaps (gap ++ cs) cs.head? cs := by
  intro line column
  obtain ⟨line', column', hdrop⟩ := dropGaps_append hgap hcs line column
  refine ⟨line', column', ?_⟩
  show (Except.ok (dropGaps (gap ++ cs) line column).rest.head?, dropGaps (gap ++ cs) line column) = _
  rw [hdrop]

/-- Gaps before a token are consumed. -/
theorem gives_skipGaps_cons {gap : List Char} (hgap : Gap gap) {c : Char} (hc : isGap c = false)
    (cs : List Char) : Gives skipGaps (gap ++ c :: cs) (some c) (c :: cs) :=
  gives_skipGaps hgap fun _ hd => Option.mem_some.1 hd ▸ hc

theorem gives_start {gap : List Char} (hgap : Gap gap) {c : Char} (hc : isGap c = false)
    (cs : List Char) : Gives start (gap ++ c :: cs) c (c :: cs) :=
  (gives_skipGaps_cons hgap hc cs).bind (gives_pure c (c :: cs))

/-! ### Strings -/

/-- A reader that looks at where it is. -/
theorem gives_get {f : Cursor → Reader α} {cs ds : List Char} {a : α}
    (h : ∀ line column, Gives (f ⟨cs, line, column⟩) cs a ds) : Gives (get >>= f) cs a ds :=
  fun line column => h line column line column

theorem gives_skipMany (cs ds : List Char) : Gives (skipMany cs.length) (cs ++ ds) () ds := by
  induction cs with
  | nil => exact gives_pure () ds
  | cons c cs ih => exact (gives_skip c (cs ++ ds)).bind ih

/-- A digit that is written is read back. -/
theorem hexValue_hexDigit {n : Nat} (h : n < 16) : hexValue (hexDigit n) = some n := by
  have hall : ∀ m : Fin 16, hexValue (hexDigit m.1) = some m.1 := by decide
  exact hall ⟨n, h⟩

/-- The escape of a control character. -/
theorem gives_unicodeEscape {n : Nat} (h : n < 256) (cs : List Char) :
    Gives unicodeEscape ('0' :: '0' :: hexDigit (n / 16) :: hexDigit (n % 16) :: cs) (Char.ofNat n)
      cs := by
  have hvalue : ((0 * 16 + 0) * 16 + n / 16) * 16 + n % 16 = n := by omega
  have hdigits : Gives hexEscape ('0' :: '0' :: hexDigit (n / 16) :: hexDigit (n % 16) :: cs) n cs := by
    have hhigh : hexValue (hexDigit (n / 16)) = some (n / 16) := hexValue_hexDigit (by omega)
    have hlow : hexValue (hexDigit (n % 16)) = some (n % 16) := hexValue_hexDigit (by omega)
    have hzero : hexValue '0' = some 0 := by decide
    refine gives_get fun line column => ?_
    simp only [List.take_succ_cons, List.take_zero, List.map_cons, List.map_nil, hhigh, hlow, hzero]
    have hskip := gives_skipMany ['0', '0', hexDigit (n / 16), hexDigit (n % 16)] cs
    rw [hvalue]
    exact hskip.bind (gives_pure n cs)
  refine hdigits.bind ?_
  rw [if_neg (by omega), if_pos (by omega)]
  exact gives_pure _ cs

/-- A character is written by itself or by an escape, which is read back. -/
theorem escapeChar_cases (c : Char) :
    (escapeChar c = [c] ∧ 32 ≤ c.toNat ∧ c ≠ '"' ∧ c ≠ '\\') ∨
      ∃ cs, escapeChar c = '\\' :: cs ∧ ∀ ds, Gives escape (cs ++ ds) c ds := by
  have hmark : ∀ (mark : Char) (d : Char) (ds : List Char), Gives (do skip; return d) (mark :: ds) d ds :=
    fun mark d ds => (gives_skip mark ds).bind (gives_pure d ds)
  unfold escapeChar
  split
  · exact Or.inr ⟨['"'], rfl, fun ds => (gives_peek _).bind (hmark _ _ ds)⟩
  · exact Or.inr ⟨['\\'], rfl, fun ds => (gives_peek _).bind (hmark _ _ ds)⟩
  · exact Or.inr ⟨['n'], rfl, fun ds => (gives_peek _).bind (hmark _ _ ds)⟩
  · exact Or.inr ⟨['r'], rfl, fun ds => (gives_peek _).bind (hmark _ _ ds)⟩
  · exact Or.inr ⟨['t'], rfl, fun ds => (gives_peek _).bind (hmark _ _ ds)⟩
  · next hquote hslash _ _ _ =>
    have hself : Char.ofNat c.toNat = c := Char.ofNat_toNat c
    split
    next hback =>
      obtain rfl : '\x08' = c := by rw [← hself, hback]
      exact Or.inr ⟨['b'], rfl, fun ds => (gives_peek _).bind (hmark _ _ ds)⟩
    next =>
      split
      next hfeed =>
        obtain rfl : '\x0c' = c := by rw [← hself, hfeed]
        exact Or.inr ⟨['f'], rfl, fun ds => (gives_peek _).bind (hmark _ _ ds)⟩
      next =>
        split
        next hcontrol =>
          refine Or.inr ⟨_, rfl, fun ds => (gives_peek _).bind ((gives_skip _ _).bind ?_)⟩
          have hcode := gives_unicodeEscape (n := c.toNat) (by omega) ds
          rwa [hself] at hcode
        next hplain =>
          exact Or.inl ⟨rfl, by omega, hquote, hslash⟩

theorem length_le_flatMap_escapeChar (s : List Char) : s.length ≤ (s.flatMap escapeChar).length := by
  induction s with
  | nil => exact Nat.le_refl _
  | cons c s ih =>
      have hc : 0 < (escapeChar c).length := by
        rcases escapeChar_cases c with ⟨h, -⟩ | ⟨cs, h, -⟩ <;> simp [h]
      rw [List.flatMap_cons, List.length_append, List.length_cons]
      omega

/-- The characters of a string are read one by one. -/
theorem gives_stringChars (s : List Char) {n : Nat} (hn : s.length < n) (acc cs : List Char) :
    Gives (stringChars n acc) (s.flatMap escapeChar ++ '"' :: cs) (String.ofList (acc.reverse ++ s)) cs := by
  induction s generalizing n acc with
  | nil =>
      obtain ⟨n, rfl⟩ := Nat.exists_eq_succ_of_ne_zero (Nat.ne_zero_of_lt hn)
      rw [stringChars, List.append_nil]
      exact (gives_peek _).bind ((gives_skip _ _).bind (gives_pure _ cs))
  | cons c s ih =>
      obtain ⟨n, rfl⟩ := Nat.exists_eq_succ_of_ne_zero (Nat.ne_zero_of_lt hn)
      have hrest := ih (n := n) (by simpa using hn) (c :: acc)
      rw [List.reverse_cons, List.append_assoc, List.singleton_append] at hrest
      rw [stringChars, List.flatMap_cons, List.append_assoc]
      refine (gives_peek _).bind ?_
      rcases escapeChar_cases c with ⟨hself, hplain, hquote, hslash⟩ | ⟨cs', hescape, hread⟩
      · rw [hself]
        simp only [List.singleton_append, List.head?_cons]
        rw [if_neg (by omega)]
        exact (gives_skip _ _).bind hrest
      · rw [hescape]
        exact (gives_skip _ _).bind ((hread _).bind hrest)

/-- **A string that is written is read back.**  Its opening mark has been consumed. -/
theorem gives_string (s : String) (cs : List Char) :
    Gives string (s.toList.flatMap escapeChar ++ '"' :: cs) s cs := by
  have hlong := length_le_flatMap_escapeChar s.toList
  have h := gives_stringChars s.toList (n := (s.toList.flatMap escapeChar ++ '"' :: cs).length + 1)
    (by rw [List.length_append]; omega) [] cs
  rw [List.reverse_nil, List.nil_append, String.ofList_toList] at h
  exact (gives_fuel _).bind h

/-- **A string that is written is read back.** -/
theorem gives_skip_string (s : String) (cs : List Char) :
    Gives (do skip; string) (quoteChars s.toList ++ cs) s cs := by
  rw [quoteChars, List.cons_append, List.append_assoc]
  exact (gives_skip _ _).bind (gives_string s cs)

/-! ### Numbers -/

theorem digitValue_of_isDigit {c : Char} (h : c.isDigit = true) : digitValue c = some (c.toNat - 48) := by
  rw [Char.isDigit, Bool.and_eq_true, decide_eq_true_eq, decide_eq_true_eq] at h
  exact if_pos h

theorem digitValue_eq_none {c : Char} (h : c.isDigit = false) : digitValue c = none := by
  refine if_neg fun hdigit => ?_
  have hpos : c.isDigit = true := by
    rw [Char.isDigit, Bool.and_eq_true, decide_eq_true_eq, decide_eq_true_eq]
    exact hdigit
  rw [hpos] at h
  cases h

/-- What may follow a token: a gap, a sign of a list or an object, or nothing. -/
def Ends (cs : List Char) : Prop :=
  ∀ c ∈ cs.head?, isGap c = true ∨ c = ',' ∨ c = ']' ∨ c = '\x7d'

theorem ends_nil : Ends [] := nofun

theorem Ends.cases {cs : List Char} (h : Ends cs) : cs = [] ∨ ∃ c rest, cs = c :: rest ∧
    c.isDigit = false ∧ c ≠ '.' ∧ c ≠ 'e' ∧ c ≠ 'E' := by
  cases cs with
  | nil => exact Or.inl rfl
  | cons c rest =>
      refine Or.inr ⟨c, rest, rfl, ?_⟩
      have hc := h c rfl
      simp only [isGap, Bool.or_eq_true, decide_eq_true_eq] at hc
      rcases hc with ((((rfl | rfl) | rfl) | rfl) | rfl | rfl | rfl) <;> decide


theorem gives_peekDigit (c : Char) (cs : List Char) : Gives peekDigit (c :: cs) (digitValue c) (c :: cs) :=
  (gives_peek _).bind (gives_pure _ _)

theorem Ends.gives_peekDigit {cs : List Char} (h : Ends cs) : Gives peekDigit cs none cs := by
  rcases h.cases with rfl | ⟨c, rest, rfl, hdigit, -⟩
  · exact (gives_peek _).bind (gives_pure _ _)
  · exact digitValue_eq_none hdigit ▸ Reader.gives_peekDigit c rest

/-- A number ends where no further part of it comes. -/
theorem Ends.gives_afterInteger {cs : List Char} (h : Ends cs) (m : Nat) :
    Gives (afterInteger true m) cs (.int m) cs := by
  refine (gives_peek cs).bind ?_
  rcases h.cases with rfl | ⟨c, rest, rfl, -, hpoint, he, hE⟩
  · exact gives_pure _ _
  · rw [List.head?_cons]
    split
    next h => exact absurd (Option.some.inj h) hpoint
    next h => exact absurd (Option.some.inj h) he
    next h => exact absurd (Option.some.inj h) hE
    next => exact gives_pure _ _

theorem le_ofDigitChars (ds : List Char) (m : Nat) : m ≤ Nat.ofDigitChars 10 ds m := by
  induction ds generalizing m with
  | nil => exact Nat.le_refl m
  | cons c ds ih =>
      have hrest := ih (10 * m + (c.toNat - '0'.toNat))
      rw [Nat.ofDigitChars, List.foldl_cons]
      rw [Nat.ofDigitChars] at hrest
      omega

/-- Digits are gathered while their number is not too large. -/
theorem gives_integerDigits (ds : List Char) (hds : ∀ c ∈ ds, c.isDigit = true) {n : Nat}
    (hn : ds.length < n) (m : Nat) (hmax : Nat.ofDigitChars 10 ds m ≤ maxSignificand) {cs : List Char}
    (hcs : Ends cs) :
    Gives (integerDigits true n m) (ds ++ cs) (.int (Nat.ofDigitChars 10 ds m)) cs := by
  induction ds generalizing n m with
  | nil =>
      obtain ⟨n, rfl⟩ := Nat.exists_eq_succ_of_ne_zero (Nat.ne_zero_of_lt hn)
      rw [integerDigits]
      exact hcs.gives_peekDigit.bind (hcs.gives_afterInteger m)
  | cons c ds ih =>
      obtain ⟨n, rfl⟩ := Nat.exists_eq_succ_of_ne_zero (Nat.ne_zero_of_lt hn)
      obtain ⟨hc, hds⟩ := List.forall_mem_cons.1 hds
      have hnext : 10 * m + (c.toNat - '0'.toNat) = m * 10 + (c.toNat - 48) := by
        rw [Nat.mul_comm]
        rfl
      rw [Nat.ofDigitChars, List.foldl_cons, hnext] at hmax ⊢
      have hle := Nat.le_trans (le_ofDigitChars ds (m * 10 + (c.toNat - 48))) hmax
      rw [integerDigits]
      refine (gives_peekDigit c _).bind ?_
      rw [digitValue_of_isDigit hc]
      dsimp only
      rw [if_neg (Nat.not_lt.2 hle)]
      exact (gives_skip _ _).bind (ih hds (by simpa using hn) _ hmax)

/-- The digits of a positive number do not begin with a zero. -/
theorem toDigits_eq_cons {n : Nat} (h : 0 < n) :
    ∃ c ds, Nat.toDigits 10 n = c :: ds ∧ c ≠ '0' := by
  induction n using Nat.strongRecOn with
  | ind n ih =>
      by_cases hlt : n < 10
      · refine ⟨n.digitChar, [], Nat.toDigits_of_lt_base hlt, ?_⟩
        have hall : ∀ m : Fin 10, 0 < m.1 → m.1.digitChar ≠ '0' := by decide
        exact hall ⟨n, hlt⟩ h
      · obtain ⟨c, ds, heq, hc⟩ := ih (n / 10) (by omega) (by omega)
        refine ⟨c, ds ++ [(n % 10).digitChar], ?_, hc⟩
        rw [Nat.toDigits_of_base_le (by omega) (by omega), heq, List.cons_append]

/-- **A natural number that is written is read back**, if it is not too large. -/
theorem gives_number {n : Nat} (hn : n ≤ maxSignificand) {cs : List Char} (hcs : Ends cs) :
    Gives (number true) ((toString n).toList ++ cs) (.int n) cs := by
  have htext : (toString n).toList = Nat.toDigits 10 n := by
    rw [Nat.toString_eq_ofList_toDigits, String.toList_ofList]
  have hdigits : ∀ c ∈ Nat.toDigits 10 n, c.isDigit = true := fun c hc =>
    Nat.isDigit_of_mem_toDigits (by omega) (by omega) hc
  rw [htext, number]
  refine (gives_peek _).bind ?_
  by_cases hzero : n = 0
  · subst hzero
    exact (gives_skip _ _).bind (hcs.gives_peekDigit.bind (hcs.gives_afterInteger 0))
  · obtain ⟨c, ds, heq, hc⟩ := toDigits_eq_cons (Nat.pos_of_ne_zero hzero)
    have hvalue : Nat.ofDigitChars 10 ds (c.toNat - 48) = n := by
      have hall := Nat.ofDigitChars_ten_toDigits (n := n)
      rw [heq, Nat.ofDigitChars, List.foldl_cons, Nat.mul_zero, Nat.zero_add] at hall
      exact hall
    rw [heq] at hdigits ⊢
    obtain ⟨hfirst, hrest⟩ := List.forall_mem_cons.1 hdigits
    rw [List.cons_append, List.head?_cons]
    split
    next h => cases h
    next h => exact absurd (Option.some.inj h) hc
    next d _ h =>
      obtain rfl := Option.some.inj h
      rw [digitValue_of_isDigit hfirst]
      refine (gives_skip _ _).bind ((gives_fuel _).bind ?_)
      have hgathered := gives_integerDigits ds hrest (n := (ds ++ cs).length + 1)
        (by rw [List.length_append]; omega) (c.toNat - 48) (by rwa [hvalue]) hcs
      rwa [hvalue] at hgathered

end Reader

end Json

end NotebookEngine
