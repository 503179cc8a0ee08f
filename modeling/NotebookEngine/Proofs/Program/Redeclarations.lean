/-
**Names that a compiled program declares twice.**

Each cell runs in a function of its own, so two cells may declare one name.  Their import lines do not stay
in these functions: they are moved to the start of the program, those of all cells one after the other, and
what they bind is declared there, in one list.  So a name that the import lines of two cells bind is
declared twice in the compiled program, and the program does not run.

This is the only way in which a name comes to be declared twice, but for the name of the function around
the cells.  The passes of the compiler keep the constants and variables of each list one by one, so if no
cell binds a name twice, no list of statements of a cell does so when it is compiled.

Main definitions:

* `Program.lexicalsOf`, `Program.Redeclares` — the constants and variables of a list, and those that it
  declares more than once;
* `Program.Nests`, `Program.Encloses` — the lists of statements of the cells that a program runs;
* `Program.importNames`, `Program.ownNames` — what the import lines and the statements of a cell bind;
* `Program.Stands` — the lists of a program that is read as it is written;
* `Program.Clashes` — the names that the import lines of two cells bind;
* `Program.readEnclosed?` — the lists of a program;
* `Program.standing?` — the program of some cells, if it is read as it is written.

Main results:

* `Program.sameLexicals_lower`, `Program.Encloses.lower` — the lists of a program that is compiled;
* `Program.duplicate_flatMap_iff` — what stands twice in lists that follow one another;
* `Program.stands_of_standing` — reading the program of some cells tells whether it is read as it is written;
* `Program.redeclared_compiled` — **which names a compiled program declares twice**.
-/

import Mathlib.Data.List.Duplicate
import NotebookEngine.Proofs.Program.Captures
import NotebookEngine.Proofs.Script.Lexical

set_option autoImplicit false

namespace NotebookEngine

namespace Program

open Script

/-! ### Lists of statements -/

/-- The names that statements declare as constants or as variables of their list. -/
def lexicalsOf (ss : List Node) : List String := (ss.flatMap lexicalNames).map Node.nameText

/-- The names that statements may declare so when their types are gone. -/
def bindingsOf (ss : List Node) : List String := (ss.flatMap bindingNames).map Node.nameText

/-- Whether a list of statements declares a name more than once, as a constant or as a variable of the
list. -/
def Redeclares (ss : List Node) (w : String) : Prop := List.Duplicate w (lexicalsOf ss)

/-- A statement that runs cells, each within the one before, given by their lists of statements. -/
inductive Nests : List (List Node) → Node → Prop
  | done {n : Node} : n.form = .expression → Nests [] n
  | cell {ls : List (List Node)} {before after : List Node} {next f index id : Node} {params : List Node}
      {isAsync : Bool} {whole called arrowed span : Span} : Nests ls next →
      Nests ((before ++ next :: after) :: ls) (.mk .expression whole [.mk (.call false) called
        [f, index, id, .mk (.arrow isAsync) arrowed (.mk .block span (before ++ next :: after) :: params)]])

/-- The statement that declares the function of a program that runs cells, given by the list of statements
of the function and those of the cells. -/
inductive Encloses : List (List Node) → Node → Prop
  | function {ls : List (List Node)} {kind : Declaration} {mode : FunctionMode}
      {whole bound closed made span : Span} {name own first : Node} {more params : List Node} :
      Nests ls first →
      Encloses ((first :: more) :: ls) (.mk (.declare kind) whole [.mk .declarator bound [name,
        .mk .paren closed [.mk (.function mode) made (own :: .mk .block span (first :: more) :: params)]]])

theorem Nests.form {ls : List (List Node)} {n : Node} (h : Nests ls n) : n.form = .expression := by
  cases h with
  | done hform => exact hform
  | cell => rfl

theorem Encloses.form {ls : List (List Node)} {n : Node} (h : Encloses ls n) :
    ∃ kind, n.form = .declare kind := by
  cases h
  exact ⟨_, rfl⟩

variable {names : Names}

theorem Nests.erased {ls : List (List Node)} {n m : Node} (h : Nests ls n)
    (hbound : ∀ ss ∈ ls, ∀ n ∈ ss, bindsPatterns n = true) (hm : Script.Erased names n m) :
    ∃ ls', Nests ls' m ∧ List.Forall₂ SameLexicals ls ls' := by
  -- By induction on the cells: what becomes of the rest of a list is what becomes of its statements.
  induction h generalizing m with
  | @done n hform =>
      obtain ⟨form, span, parts⟩ := n
      cases hform
      obtain ⟨_, rfl, -⟩ := keeps_erased names rfl hm
      exact ⟨[], .done rfl, .nil⟩
  | cell hnext ih =>
      rw [List.forall_mem_cons] at hbound
      obtain ⟨_, rfl, hwhole⟩ := keeps_erased names rfl hm
      obtain _ | ⟨he, _ | _⟩ := hwhole
      obtain ⟨_, rfl, hcalled⟩ := keeps_erased names rfl he
      obtain _ | ⟨-, _ | ⟨-, _ | ⟨-, _ | ⟨harrow, _ | _⟩⟩⟩⟩ := hcalled
      obtain ⟨_, rfl, hparts⟩ := keeps_erased names rfl harrow
      obtain _ | ⟨hblock, -⟩ := hparts
      obtain ⟨out, more, rfl, hout, hbare⟩ := erased_list_bare rfl hblock
      have hsame := (hout.sameLexicals hbound.1).append (sameLexicals_bare hbare)
      obtain ⟨first, rest, rfl, -, hrest⟩ := hout.append_left
      obtain _ | ⟨hlast, hmore⟩ := hrest
      obtain ⟨next, rfl, hnext'⟩ := hlast.of_isCarrier (by rw [hnext.form]; rfl)
      obtain ⟨ls', hnests, hls⟩ := ih hbound.2 hnext'
      rw [List.append_nil, List.append_assoc] at hsame
      rw [List.append_assoc]
      exact ⟨_, .cell hnests, .cons hsame hls⟩

theorem Encloses.erased {ls : List (List Node)} {n m : Node} (h : Encloses ls n)
    (hbound : ∀ ss ∈ ls, ∀ n ∈ ss, bindsPatterns n = true) (hm : Script.Erased names n m) :
    ∃ ls', Encloses ls' m ∧ List.Forall₂ SameLexicals ls ls' := by
  cases h with
  | function hnests =>
      rw [List.forall_mem_cons] at hbound
      obtain ⟨_, rfl, hwhole⟩ := keeps_erased names rfl hm
      obtain _ | ⟨hdeclared, _ | _⟩ := hwhole
      obtain ⟨_, rfl, hbinding⟩ := keeps_erased names rfl hdeclared
      obtain _ | ⟨-, _ | ⟨hclosed, _ | _⟩⟩ := hbinding
      obtain ⟨_, rfl, hparen⟩ := keeps_erased names rfl hclosed
      obtain _ | ⟨hmade, _ | _⟩ := hparen
      obtain ⟨_, rfl, hfunction⟩ := keeps_erased names rfl hmade
      obtain _ | ⟨-, _ | ⟨hblock, -⟩⟩ := hfunction
      obtain ⟨out, more, rfl, hout, hbare⟩ := erased_list_bare rfl hblock
      have hsame := (hout.sameLexicals hbound.1).append (sameLexicals_bare hbare)
      obtain _ | ⟨hfirst, hmore⟩ := hout
      obtain ⟨first, rfl, hkept⟩ := hfirst.of_isCarrier (by rw [hnests.form]; rfl)
      obtain ⟨ls', hnests', hls⟩ := hnests.erased hbound.2 hkept
      rw [List.append_nil] at hsame
      exact ⟨_, .function hnests', .cons hsame hls⟩

/-! ### Lists that are finished -/

theorem finishList_lexical {ss : List Node} (hss : ∀ n ∈ ss, IsBound n) (own : List Node) :
    (finishList own ss).flatMap lexicalNames = ss.flatMap lexicalNames := by
  obtain ⟨hrebuilt, -⟩ := map_rebuild_declared isStill_captureStep form_captureStep hss
  obtain ⟨hcaptured, -⟩ := captureInList_declared hrebuilt own
  rw [finishList, map_rebuild_lexical isStill_trackStep form_trackStep hcaptured,
    captureInList_lexical hrebuilt, map_rebuild_lexical isStill_captureStep form_captureStep hss]

theorem lexicalNames_finish {n : Node} (hn : IsBound n) : lexicalNames (finish n) = lexicalNames n := by
  obtain ⟨hcaptured, -⟩ := hn.rebuild isStill_captureStep form_captureStep
  exact (hcaptured.lexicalNames_rebuild isStill_trackStep form_trackStep).trans
    (hn.lexicalNames_rebuild isStill_captureStep form_captureStep)

theorem isBound_finish {n : Node} (hn : IsBound n) : IsBound (finish n) := by
  obtain ⟨hcaptured, -⟩ := hn.rebuild isStill_captureStep form_captureStep
  exact (hcaptured.rebuild isStill_trackStep form_trackStep).1

/-- Whether a list declares the same constants and variables as another. -/
def Finished (ss out : List Node) : Prop := out.flatMap lexicalNames = ss.flatMap lexicalNames

theorem Nests.finished {ls : List (List Node)} {n : Node} (h : Nests ls n)
    (hbound : ∀ ss ∈ ls, ∀ n ∈ ss, IsBound n) (own : List Node) :
    ∃ ls', Nests ls' (finishStatement own n) ∧ List.Forall₂ Finished ls ls' := by
  induction h generalizing own with
  | @done n hform =>
      refine ⟨[], .done ?_, .nil⟩
      rw [finishStatement, form_rebuild form_trackStep, form_captureInStatement,
        form_rebuild form_captureStep, hform]
  | @cell ls before after next f index id params isAsync whole called arrowed span hnext ih =>
      rw [List.forall_mem_cons] at hbound
      have hbefore : ∀ n ∈ before, IsBound n := fun n hn => hbound.1 n (List.mem_append_left _ hn)
      obtain ⟨ls', hnests, hls⟩ := ih hbound.2 (before.flatMap declaredNames)
      have hlist : finishList [] (before ++ next :: after) = finishList [] before ++
          finishStatement (before.flatMap declaredNames) next :: finishList
            (before.flatMap declaredNames ++ declaredNames (next.rebuild captureStep)) after := by
        rw [finishList_append hbefore, finishList_cons, List.nil_append]
      have hsame : Finished (before ++ next :: after) (finishList [] (before ++ next :: after)) :=
        finishList_lexical hbound.1 []
      rw [finishStatement_cell, hlist]
      rw [hlist] at hsame
      exact ⟨_, .cell hnests, .cons hsame hls⟩

theorem Encloses.finished {ls : List (List Node)} {n : Node} (h : Encloses ls n)
    (hbound : ∀ ss ∈ ls, ∀ n ∈ ss, IsBound n) :
    ∃ ls', Encloses ls' (finish n) ∧ List.Forall₂ Finished ls ls' := by
  cases h with
  | @function ls kind mode whole bound closed made span name own first more params hnests =>
      rw [List.forall_mem_cons] at hbound
      obtain ⟨ls', hnests', hls⟩ := hnests.finished hbound.2 []
      have hsame : Finished (first :: more) (finishList [] (first :: more)) :=
        finishList_lexical hbound.1 []
      rw [finishList_cons] at hsame
      rw [finish_of_isPlain _ _ rfl, List.map_singleton, finish_of_isPlain _ _ rfl, List.map_cons,
        List.map_singleton, finish_of_isPlain _ _ rfl, List.map_singleton, finish_of_isPlain _ _ rfl,
        List.map_cons, List.map_cons, finish_block, finishList_cons]
      exact ⟨_, .function hnests', .cons hsame hls⟩

/-! ### Programs -/

/-- What is done with an export leaves declarations of variables as they are, and forms in any case. -/
theorem eraseExport_cases (types : List String) (n : Node) :
    eraseExport types n = some n ∨
    (∀ kind, n.form ≠ .declare kind) ∧ ∀ m ∈ eraseExport types n, m.form = n.form := by
  rw [eraseExport]
  split
  next hform =>
    refine .inr ⟨by simp [hform], fun m hm => ?_⟩
    dsimp only at hm
    split at hm <;> cases hm
    rfl
  next hform =>
    refine .inr ⟨by simp [hform], fun m hm => ?_⟩
    dsimp only at hm
    split at hm <;> cases hm
    rfl
  next hform =>
    refine .inr ⟨by simp [hform], fun m hm => ?_⟩
    split at hm
    · split at hm <;> cases hm
      rfl
    · cases hm
      rfl
  next => exact .inl rfl

theorem filterMap_eraseExport_lexical (types : List String) {items : List Node}
    (hbound : ∀ n ∈ items, IsBound n) :
    (∀ m ∈ items.filterMap (eraseExport types), IsBound m) ∧
      (items.filterMap (eraseExport types)).flatMap lexicalNames = items.flatMap lexicalNames := by
  refine ⟨fun m hm => ?_, ?_⟩
  · obtain ⟨n, hn, hnm⟩ := List.mem_filterMap.1 hm
    rcases eraseExport_cases types n with hself | ⟨hnone, hform⟩
    · obtain rfl : n = m := Option.some.inj (hself.symm.trans hnm)
      exact hbound n hn
    · exact isBound_of_ne (by rwa [hform m hnm])
  · rw [List.filterMap_eq_flatMap_toList, List.flatMap_assoc]
    refine List.flatMap_congr fun n _ => ?_
    rcases eraseExport_cases types n with hself | ⟨hnone, hform⟩
    · rw [hself, Option.toList_some, List.flatMap_singleton]
    · rw [lexicalNames_of_form hnone, List.flatMap_eq_nil_iff]
      exact fun m hm => lexicalNames_of_form (by rwa [hform m (Option.mem_toList.1 hm)])

theorem exportLast_lexical {items : List Node} (hbound : ∀ n ∈ items, IsBound n) :
    (∀ m ∈ exportLast items, IsBound m) ∧
      (exportLast items).flatMap lexicalNames = items.flatMap lexicalNames := by
  have hassign : ∀ m ∈ ((items.filter fun n => n.form = .exportAssign).map fun n =>
      Node.mk .expression n.span [.mk (.assign "=") n.span [memberOf "module" "exports", n.part 0]]),
      ∀ kind, m.form ≠ .declare kind := by
    intro m hm
    obtain ⟨n, -, rfl⟩ := List.mem_map.1 hm
    simp [Node.form]
  have hkept : (items.filter fun n => !decide (n.form = .exportAssign)).flatMap lexicalNames =
      items.flatMap lexicalNames := by
    clear hbound hassign
    induction items with
    | nil => rfl
    | cons n ns ih =>
        by_cases hform : n.form = .exportAssign
        · have hnone : lexicalNames n = [] := lexicalNames_of_form (by simp [hform])
          rw [List.filter_cons_of_neg (by simp [hform]), ih, List.flatMap_cons, hnone, List.nil_append]
        · rw [List.filter_cons_of_pos (by simp [hform]), List.flatMap_cons, List.flatMap_cons, ih]
  refine ⟨fun m hm => ?_, ?_⟩
  · rcases List.mem_append.1 hm with hm | hm
    · exact hbound m (List.mem_filter.1 hm).1
    · exact isBound_of_ne (hassign m hm)
  · rw [exportLast, List.flatMap_append]
    refine (congrArg₂ (· ++ ·) hkept (List.flatMap_eq_nil_iff.2 fun m hm => ?_)).trans
      (List.append_nil _)
    exact lexicalNames_of_form (hassign m hm)

/-- What is added to a program behind its items exports, and declares nothing itself. -/
theorem parts_erase (program : Node) : ∃ types added closing,
    (erase program).parts =
      exportLast ((replaced program).1.parts.filterMap (eraseExport types) ++ added) ++ closing ∧
    ∀ m ∈ added ++ closing, ∀ kind, m.form ≠ .declare kind := by
  let exported := (replaced program).2.exported
  have hkept : ∀ kept : List Node, (if exported.isEmpty = true then kept else
      kept ++ [.made .exportDecl [bareVariables exported]]) =
        kept ++ if exported.isEmpty = false then [.made .exportDecl [bareVariables exported]] else [] := by
    intro kept
    cases exported.isEmpty
    · rfl
    · exact (List.append_nil _).symm
  have hsingle : ∀ {c : Prop} [Decidable c] {n m : Node}, m ∈ (if c then [n] else []) → m = n := by
    intro c _ n m hm
    split at hm
    · exact List.mem_singleton.1 hm
    · cases hm
  refine ⟨_, _, _, congrArg (exportLast · ++ _) (hkept _), fun m hm => ?_⟩
  rcases List.mem_append.1 hm with hm | hm
  · simp [hsingle hm, Node.made, Node.form]
  · simp [hsingle hm, Node.form]

/-- **A program that loses its types declares the same constants and variables.** -/
theorem sameLexicals_erase {program : Node} {shebang : Option String}
    (hprogram : program.form = .program shebang)
    (hbound : ∀ n ∈ program.parts, bindsPatterns n = true) :
    SameLexicals program.parts (erase program).parts := by
  have herased : Erased (namesOf program) program (replaced program).1 :=
    ⟨_, .inr ⟨_, rfl, rfl⟩, _, _, _, rfl⟩
  have hsame : SameLexicals program.parts (replaced program).1.parts := by
    obtain ⟨form, span, items⟩ := program
    cases hprogram
    obtain ⟨out, more, hreplaced, hout, hbare⟩ := erased_list_bare rfl herased
    have hsame := (hout.sameLexicals hbound).append (sameLexicals_bare hbare)
    rw [List.append_nil] at hsame
    rw [hreplaced]
    exact hsame
  obtain ⟨types, added, closing, hparts, hadded⟩ := parts_erase program
  obtain ⟨hkept, hsameKept⟩ := filterMap_eraseExport_lexical types hsame.bound
  have hitems := (hsame.of_eq hkept hsameKept).append
    (sameLexicals_of_form fun m hm => hadded m (List.mem_append_left _ hm))
  obtain ⟨hlast, hsameLast⟩ := exportLast_lexical hitems.bound
  have hall := (hitems.of_eq hlast hsameLast).append
    (sameLexicals_of_form fun m hm => hadded m (List.mem_append_right _ hm))
  rw [List.append_nil, List.append_nil] at hall
  rwa [hparts]

/-- **A program that is compiled declares the same constants and variables**, its imports included. -/
theorem sameLexicals_lower {program : Node} {shebang : Option String}
    (hprogram : program.form = .program shebang)
    (hbound : ∀ n ∈ (lowerImports program).parts, bindsPatterns n = true) :
    SameLexicals (lowerImports program).parts (lower program).parts := by
  have hlowered : (lowerImports program).form = .program shebang := hprogram
  have herased := sameLexicals_erase hlowered hbound
  have hparts : (Program.lower program).parts = (erase (lowerImports program)).parts.map finish :=
    parts_finish (n := erase (lowerImports program)) hlowered
  rw [hparts]
  refine herased.of_eq (fun m hm => ?_) ?_
  · obtain ⟨n, hn, rfl⟩ := List.mem_map.1 hm
    exact isBound_finish (herased.bound n hn)
  · rw [List.flatMap_map]
    exact List.flatMap_congr fun n hn => lexicalNames_finish (herased.bound n hn)

/-- The lists of a program that is compiled. -/
theorem Encloses.lower {program : Node} {shebang : Option String}
    (hprogram : program.form = .program shebang) {ls : List (List Node)} {n : Node}
    (hn : n ∈ program.parts) (h : Encloses ls n)
    (hbound : ∀ ss ∈ ls, ∀ n ∈ ss, bindsPatterns n = true) :
    ∃ ls', (∃ m ∈ (lower program).parts, Encloses ls' m) ∧
      List.Forall₂ (fun ss ss' => (lexicalsOf ss).Sublist (lexicalsOf ss') ∧
        (lexicalsOf ss').Sublist (bindingsOf ss)) ls ls' := by
  obtain ⟨kind, hkind⟩ := h.form
  have hlowered : (lowerImports program).form = .program shebang := hprogram
  obtain ⟨m, hm, hnm⟩ := mem_erase hlowered (mem_lowerImports hn hkind) hkind
  obtain ⟨erased, hencloses, herased⟩ := h.erased hbound hnm
  have hboundErased : ∀ ss ∈ erased, ∀ n ∈ ss, IsBound n := by
    clear hencloses hbound h
    induction herased with
    | nil => exact List.forall_mem_nil _
    | cons hsame _ ih => exact List.forall_mem_cons.2 ⟨hsame.bound, ih⟩
  obtain ⟨finished, hencloses', hfinished⟩ := hencloses.finished hboundErased
  refine ⟨finished, ⟨finish m, ?_, hencloses'⟩, ?_⟩
  · have hparts : (Program.lower program).parts = (erase (lowerImports program)).parts.map finish :=
      parts_finish (n := erase (lowerImports program)) hlowered
    rw [hparts]
    exact List.mem_map_of_mem hm
  · refine (forall₂_comp herased hfinished).imp ?_
    rintro ss ss' ⟨out, hsame, hout⟩
    rw [lexicalsOf, lexicalsOf, hout]
    exact ⟨hsame.kept.map _, hsame.known.map _⟩

/-! ### Programs as they are read -/

/-- What the items of an import line bind when the line stands by itself. -/
def lineNames (names : Node → List Node) (line : String) : List String :=
  match (parseModule line).result with
  | .ok program => (program.parts.flatMap names).map Node.nameText
  | .error _ => []

example : lineNames itemNames "import a, \x7b type T, b as c \x7d from './m';" = ["a", "c"] := by
  decide +kernel

/-- What the items of the import lines of a cell bind, with repetitions. -/
def importNames (names : Node → List Node) (c : Cell) : List String :=
  (bodyOf c.source).hoisted.flatMap (lineNames names)

/-- What the statements of a cell may declare as constants or as variables of their list. -/
def ownNames (c : Cell) : List String := bindingsOf (cellStatements (cellBody c))

/-- A program is read as that of some cells is written, and its lists of statements are those of the
function and of the cells.  This is not so if an import line is not complete; for given cells `standing?`
tells. -/
structure Stands (code : List Cell) (program : Node) (ls : List (List Node)) : Prop where
  shape : ∃ shebang, program.form = .program shebang
  last : ∃ n, program.parts.getLast? = some n ∧ Encloses ls n ∧ lexicalsOf [n] = ["wrapperFn"]
  /-- The items before the last one are those of the import lines. -/
  names : (program.parts.dropLast.flatMap itemNames).map Node.nameText =
    code.flatMap (importNames itemNames)
  bindings : (program.parts.dropLast.flatMap itemBindings).map Node.nameText =
    code.flatMap (importNames itemBindings)
  own : ls.map bindingsOf = [] :: code.map ownNames
  bound : ∀ n ∈ (lowerImports program).parts, bindsPatterns n = true
  boundWithin : ∀ ss ∈ ls, ∀ n ∈ ss, bindsPatterns n = true

/-- What a program binds before its types are gone: what its import lines bind, and its function. -/
theorem Stands.lexicalsOf_lowerImports {code : List Cell} {program : Node} {ls : List (List Node)}
    (h : Stands code program ls) :
    lexicalsOf (lowerImports program).parts = code.flatMap (importNames itemNames) ++ ["wrapperFn"] ∧
      bindingsOf (lowerImports program).parts =
        code.flatMap (importNames itemBindings) ++ ["wrapperFn"] := by
  obtain ⟨n, hn, hencloses, hname⟩ := h.last
  obtain ⟨kind, hkind⟩ := hencloses.form
  have hparts : (lowerImports program).parts =
      (program.parts.dropLast ++ [n]).flatMap lowerImport := by
    rw [List.dropLast_append_getLast? n hn]
    rfl
  have henum : isEnum n = false := by rw [isEnum, hkind]
  have hitem : itemNames n = lexicalNames n := by rw [itemNames, hkind]
  have hitems : itemBindings n = lexicalNames n := by rw [itemBindings, henum, ← hitem]; rfl
  rw [lexicalsOf, List.flatMap_singleton] at hname
  rw [lexicalsOf, bindingsOf, hparts, List.flatMap_assoc, List.flatMap_assoc,
    List.flatMap_congr fun n _ => (lowerImport_names n).1,
    List.flatMap_congr fun n _ => (lowerImport_names n).2]
  rw [List.flatMap_append, List.flatMap_append, List.flatMap_singleton, List.flatMap_singleton,
    List.map_append, List.map_append, hitem, hitems, hname, h.names, h.bindings]
  exact ⟨rfl, rfl⟩

/-! ### Names that stand twice -/

/-- What stands twice in two lists, one after the other, stands twice in one of them or once in each. -/
theorem duplicate_append_iff {α : Type} {as bs : List α} {x : α} :
    List.Duplicate x (as ++ bs) ↔
      List.Duplicate x as ∨ List.Duplicate x bs ∨ x ∈ as ∧ x ∈ bs := by
  induction as with
  | nil => simp [List.not_duplicate_nil]
  | cons a as ih =>
      rw [List.cons_append, List.duplicate_cons_iff, List.duplicate_cons_iff, ih, List.mem_append,
        List.mem_cons]
      grind

/-- Whether two entries of a list give the same, in a list of lists. -/
def Shared {α β : Type} (f : α → List β) (l : List α) (x : β) : Prop :=
  ∃ (i k : Nat) (a b : α), i < k ∧ l[i]? = some a ∧ l[k]? = some b ∧ x ∈ f a ∧ x ∈ f b

theorem shared_cons_iff {α β : Type} {f : α → List β} {a : α} {l : List α} {x : β} :
    Shared f (a :: l) x ↔ x ∈ f a ∧ x ∈ l.flatMap f ∨ Shared f l x := by
  constructor
  · rintro ⟨i, k, b, c, hlt, hb, hc, hxb, hxc⟩
    obtain ⟨k, rfl⟩ : ∃ k', k = k' + 1 := ⟨k - 1, by omega⟩
    rw [List.getElem?_cons_succ] at hc
    cases i with
    | zero =>
        cases hb
        exact .inl ⟨hxb, List.mem_flatMap.2 ⟨c, List.mem_of_getElem? hc, hxc⟩⟩
    | succ i => exact .inr ⟨i, k, b, c, Nat.lt_of_succ_lt_succ hlt, hb, hc, hxb, hxc⟩
  · rintro (⟨hxa, hrest⟩ | ⟨i, k, b, c, hlt, hb, hc, hxb, hxc⟩)
    · obtain ⟨c, hc, hxc⟩ := List.mem_flatMap.1 hrest
      obtain ⟨k, hk⟩ := List.getElem?_of_mem hc
      exact ⟨0, k + 1, a, c, Nat.succ_pos k, rfl, hk, hxa, hxc⟩
    · exact ⟨i + 1, k + 1, b, c, Nat.succ_lt_succ hlt, hb, hc, hxb, hxc⟩

/-- What stands twice in lists, one after the other, stands twice in one of them or is shared by two. -/
theorem duplicate_flatMap_iff {α β : Type} {f : α → List β} {l : List α} {x : β} :
    List.Duplicate x (l.flatMap f) ↔ (∃ a ∈ l, List.Duplicate x (f a)) ∨ Shared f l x := by
  induction l with
  | nil =>
      refine ⟨fun h => absurd h (List.not_duplicate_nil x), ?_⟩
      rintro (⟨a, ha, -⟩ | ⟨i, k, a, b, -, ha, -⟩)
      · cases ha
      · cases ha
  | cons a l ih =>
      rw [List.flatMap_cons, duplicate_append_iff, ih, shared_cons_iff, List.exists_mem_cons_iff]
      grind

/-! ### Redeclarations -/

/-- Whether the import lines of two cells bind a name, or those of a cell bind that of the function. -/
def Clashes (names : Node → List Node) (code : List Cell) (w : String) : Prop :=
  Shared (importNames names) code w ∨ w = "wrapperFn" ∧ ∃ c ∈ code, w ∈ importNames names c

/-- **Which names a compiled program declares twice.**  Take a program that is read as that of its code cells
is written.  A name that the import lines of two cells bind is declared twice in the list of the compiled
program; so is the name of the program's function, if an import line binds it too.  The lists of the function
and of the cells declare what they declared.  If no cell binds a name twice, no other name is declared twice
in the list of the program, and none in the lists within it.  The names of enumerations count only then: an
enumeration may become a variable, but need not. -/
theorem redeclared_compiled (cells : List Cell) (project : String) (program : Node)
    (ls : List (List Node)) (hparse : (parseModule (generate cells false).1).result = .ok program)
    (hstands : Stands (cells.filter Cell.isCode) program ls) :
    let code := cells.filter Cell.isCode
    (compile (generate cells false).1 project).text? = some (printProgram (lower program)).1 ∧
    (∀ w, Clashes itemNames code w → Redeclares (lower program).parts w) ∧
    ∃ compiled, (∃ n ∈ (lower program).parts, Encloses compiled n) ∧
      compiled.length = code.length + 1 ∧
      List.Forall₂ (fun ss ss' => (lexicalsOf ss).Sublist (lexicalsOf ss') ∧
        (lexicalsOf ss').Sublist (bindingsOf ss)) ls compiled ∧
      ((∀ c ∈ code, (importNames itemBindings c ++ ownNames c).Nodup) →
        (∀ w, Redeclares (lower program).parts w → Clashes itemBindings code w) ∧
        ∀ ss ∈ compiled, ∀ w, ¬ Redeclares ss w) := by
  intro code
  obtain ⟨shebang, hshape⟩ := hstands.shape
  obtain ⟨n, hn, hencloses, -⟩ := hstands.last
  obtain ⟨hlexical, hbindings⟩ := hstands.lexicalsOf_lowerImports
  have hsame := sameLexicals_lower hshape hstands.bound
  obtain ⟨compiled, hcompiled, hls⟩ :=
    hencloses.lower hshape (List.mem_of_getLast? hn) hstands.boundWithin
  have hlength : ls.length = code.length + 1 := by
    have h := congrArg List.length hstands.own
    rwa [List.length_map, List.length_cons, List.length_map] at h
  refine ⟨?_, ?_, compiled, hcompiled, hls.length_eq.symm.trans hlength, hls, fun honce => ⟨?_, ?_⟩⟩
  · rw [compile, hparse]
  · intro w hw
    have hkept : (code.flatMap (importNames itemNames) ++ ["wrapperFn"]).Sublist
        (lexicalsOf (lower program).parts) := hlexical ▸ hsame.kept.map Node.nameText
    refine List.Duplicate.mono_sublist ?_ hkept
    rw [duplicate_append_iff, duplicate_flatMap_iff]
    rcases hw with hshared | ⟨rfl, hc⟩
    · exact .inl (.inr hshared)
    · exact .inr (.inr ⟨List.mem_flatMap.2 hc, List.mem_singleton_self _⟩)
  · intro w hw
    have hknown : (lexicalsOf (lower program).parts).Sublist
        (code.flatMap (importNames itemBindings) ++ ["wrapperFn"]) :=
      hbindings ▸ hsame.known.map Node.nameText
    have hdup := List.Duplicate.mono_sublist hw hknown
    rw [duplicate_append_iff, duplicate_flatMap_iff] at hdup
    rcases hdup with (⟨c, hc, hdup⟩ | hshared) | hdup | ⟨hmem, hname⟩
    · exact absurd (honce c hc).of_append_left hdup.not_nodup
    · exact .inl hshared
    · exact absurd hdup (List.not_duplicate_singleton _ _)
    · exact .inr ⟨List.mem_singleton.1 hname, List.mem_flatMap.1 hmem⟩
  · intro ss' hss' w hw
    obtain ⟨i, hi, rfl⟩ := List.getElem_of_mem hss'
    have hi' : i < ls.length := hls.length_eq.symm ▸ hi
    obtain ⟨-, hknown⟩ := hls.get hi' hi
    have hdup : List.Duplicate w (bindingsOf ls[i]) := List.Duplicate.mono_sublist hw hknown
    have hown : bindingsOf ls[i] ∈ [] :: code.map ownNames :=
      hstands.own ▸ List.mem_map_of_mem (List.getElem_mem hi')
    rcases List.mem_cons.1 hown with hnil | hcell
    · rw [hnil] at hdup
      exact List.not_duplicate_nil w hdup
    · obtain ⟨c, hc, hnames⟩ := List.mem_map.1 hcell
      rw [← hnames] at hdup
      exact hdup.not_nodup (honce c hc).of_append_right

/-! ### Programs that can be read -/

/-- The lists of statements of the first cells that a statement runs, so many of them.  The last statement
of a cell is the one that runs the cells after it. -/
def readLists? : Nat → Node → Option (List (List Node))
  | 0, n => if n.form = .expression then some [] else none
  | k + 1, .mk .expression _ [.mk (.call false) _ [_, _, _, .mk (.arrow _) _ (.mk .block _ ss :: _)]] =>
    match ss.reverse with
    | next :: _ => (readLists? k next).map (ss :: ·)
    | [] => none
  | _ + 1, _ => none

/-- The list of statements of a program's function and those of the first cells that it runs. -/
def readEnclosed? (count : Nat) : Node → Option (List (List Node))
  | .mk (.declare _) _ [.mk .declarator _ [_, .mk .paren _
      [.mk (.function _) _ (_ :: .mk .block _ (first :: more) :: _)]]] =>
    (readLists? count first).map ((first :: more) :: ·)
  | _ => none

theorem nests_of_readLists {count : Nat} {n : Node} {ls : List (List Node)}
    (h : readLists? count n = some ls) : Nests ls n := by
  induction count generalizing n ls with
  | zero =>
      unfold readLists? at h
      split at h
      next hform => cases h; exact .done hform
      next => cases h
  | succ count ih =>
      unfold readLists? at h
      split at h
      · cases ‹_ + 1 = 0›
      next hcount =>
        split at h
        next next before hss =>
          obtain ⟨rest, hrest, rfl⟩ := Option.map_eq_some_iff.1 h
          cases hcount
          rw [List.reverse_eq_iff, List.reverse_cons] at hss
          rw [hss]
          exact .cell (ih hrest)
        next => cases h
      · cases h

theorem encloses_of_readEnclosed {count : Nat} {n : Node} {ls : List (List Node)}
    (h : readEnclosed? count n = some ls) : Encloses ls n := by
  unfold readEnclosed? at h
  split at h
  · obtain ⟨rest, hrest, rfl⟩ := Option.map_eq_some_iff.1 h
    exact .function (nests_of_readLists hrest)
  · cases h

/-- Whether a program is read as that of some code cells is written, with lists that were read of its last
item. -/
def isStanding (code : List Cell) (program n : Node) (ls : List (List Node)) : Bool :=
  (program.form matches .program _) && decide (lexicalsOf [n] = ["wrapperFn"]) &&
    decide ((program.parts.dropLast.flatMap itemNames).map Node.nameText =
      code.flatMap (importNames itemNames)) &&
    decide ((program.parts.dropLast.flatMap itemBindings).map Node.nameText =
      code.flatMap (importNames itemBindings)) &&
    decide (ls.map bindingsOf = [] :: code.map ownNames) &&
    (lowerImports program).parts.all bindsPatterns && ls.all fun ss => ss.all bindsPatterns

theorem stands_of_isStanding {code : List Cell} {program n : Node} {ls : List (List Node)}
    (hlast : program.parts.getLast? = some n) (hread : readEnclosed? code.length n = some ls)
    (h : isStanding code program n ls = true) : Stands code program ls := by
  simp only [isStanding, Bool.and_eq_true, decide_eq_true_iff, List.all_eq_true] at h
  obtain ⟨⟨⟨⟨⟨⟨hshape, hname⟩, hnames⟩, hbindings⟩, hown⟩, hbound⟩, hwithin⟩ := h
  refine ⟨?_, ⟨n, hlast, encloses_of_readEnclosed hread, hname⟩, hnames, hbindings, hown, hbound, hwithin⟩
  split at hshape
  next shebang hform => exact ⟨shebang, hform⟩
  next => cases hshape

/-- The program of some cells, and the lists that are read of it, if it is read as it is written.  For given
cells this is computed: their program is generated, parsed and compared with them. -/
def standing? (cells : List Cell) : Option (Node × List (List Node)) :=
  match (parseModule (generate cells false).1).result with
  | .error _ => none
  | .ok program => do
    let n ← program.parts.getLast?
    let ls ← readEnclosed? (cells.filter Cell.isCode).length n
    if isStanding (cells.filter Cell.isCode) program n ls then some (program, ls) else none

/-- **Whether the lists of a program are those of its cells can be told from the cells.** -/
theorem stands_of_standing {cells : List Cell} {program : Node} {ls : List (List Node)}
    (h : standing? cells = some (program, ls)) :
    (parseModule (generate cells false).1).result = .ok program ∧
      Stands (cells.filter Cell.isCode) program ls := by
  rw [standing?] at h
  split at h
  next => cases h
  next program' hparse =>
    obtain ⟨n, hlast, h⟩ := Option.bind_eq_some_iff.1 h
    obtain ⟨ls', hread, h⟩ := Option.bind_eq_some_iff.1 h
    split at h
    next hstanding =>
      cases h
      exact ⟨hparse, stands_of_isStanding hlast hread hstanding⟩
    next => cases h

/-- Two cells that need the same module by the same line. -/
def sharingCells : List Cell :=
  [⟨some "a", .code, some "const m = require('./m');"⟩, ⟨some "b", .code, some "const m = require('./m');"⟩]

/-- The constant of the line is declared twice, although each cell declares it once. -/
theorem shared_line_redeclared :
    ∃ program ls, (parseModule (generate sharingCells false).1).result = .ok program ∧
      Stands sharingCells program ls ∧
      (∀ c ∈ sharingCells, (importNames itemBindings c ++ ownNames c).Nodup) ∧
      Redeclares (lower program).parts "m" := by
  have hcheck : (standing? sharingCells).isSome = true := by decide +kernel
  have honce : ∀ c ∈ sharingCells, (importNames itemBindings c ++ ownNames c).Nodup := by
    decide +kernel
  have hname : "m" ∈ importNames itemNames ⟨some "a", .code, some "const m = require('./m');"⟩ := by
    decide +kernel
  obtain ⟨⟨program, ls⟩, hstanding⟩ := Option.isSome_iff_exists.1 hcheck
  obtain ⟨hparse, hstands⟩ := stands_of_standing hstanding
  obtain ⟨-, hclashes, -⟩ := redeclared_compiled sharingCells "." program ls hparse hstands
  refine ⟨program, ls, hparse, hstands, honce, hclashes "m" (.inl ?_)⟩
  exact ⟨0, 1, _, _, Nat.one_pos, rfl, rfl, hname, hname⟩

end Program

end NotebookEngine
