/-
**Cells in the trees of programs.**

The program of some cells declares a function.  The last statements of each cell in it are the call that
captures the variables declared so far, and the statement that runs the cells after it.  The passes of the
compiler leave this as it is: each of them goes through the calls and functions around the cells, and
treats the statements of a cell one by one.

Main definitions:

* `Program.CellTree`, `Program.Holds`, `Program.Wraps` — the cells that a statement or a program runs;
* `Program.variablesOf` — the names of the variables that statements declare;
* `Program.finish` — the passes after types are gone;
* `Program.CellTree.Compiled` — what becomes of a cell.

Main results:

* `Program.Wraps.erased`, `Program.Wraps.finished` — the cells after the passes;
* `Program.Wraps.lower` — **a program that runs cells runs them when it is compiled**.
-/

import NotebookEngine.Program.Compile
import NotebookEngine.Proofs.Script.Captures

set_option autoImplicit false

namespace NotebookEngine

namespace Program

open Script

/-! ### Cells in programs -/

/-- A cell as it stands in a program: its statements, and the names in the call that captures them. -/
structure CellTree where
  statements : List Node
  captured : List String

/-- A statement that runs cells, each within the one before: after its own statements and the call that
captures variables stands the statement that runs the cells after it. -/
inductive Holds : List CellTree → Node → Prop
  | done {n : Node} : n.form = .expression → Holds [] n
  | cell {c : CellTree} {cs : List CellTree} {call next f index id : Node} {more params : List Node}
      {isAsync : Bool} {whole called arrowed span : Span} :
      Captures c.captured call → Holds cs next →
      Holds (c :: cs) (.mk .expression whole [.mk (.call false) called [f, index, id,
        .mk (.arrow isAsync) arrowed (.mk .block span (c.statements ++ call :: next :: more) :: params)]])

/-- The statement that declares the function of a program that runs cells. -/
inductive Wraps (cs : List CellTree) : Node → Prop
  | function {kind : Declaration} {mode : FunctionMode} {whole bound closed made span : Span}
      {name own first : Node} {more params : List Node} : Holds cs first →
      Wraps cs (.mk (.declare kind) whole [.mk .declarator bound [name, .mk .paren closed
        [.mk (.function mode) made (own :: .mk .block span (first :: more) :: params)]]])

theorem Holds.form {cs : List CellTree} {n : Node} (h : Holds cs n) : n.form = .expression := by
  cases h with
  | done hform => exact hform
  | cell => rfl

/-- What becomes of a cell where types are lost. -/
structure CellTree.Erased (names : Names) (c c' : CellTree) : Prop where
  statements : ErasedList names c.statements c'.statements
  captured : c'.captured = c.captured

theorem Holds.erased {names : Names} (hfree : names.owners.find? "__capture_locals" = none)
    {cs : List CellTree} {n m : Node} (h : Holds cs n) (hm : Script.Erased names n m) :
    ∃ cs', Holds cs' m ∧ List.Forall₂ (CellTree.Erased names) cs cs' := by
  -- By induction on the cells: what becomes of the rest of a list is what becomes of its statements.
  induction h generalizing m with
  | @done n hform =>
      obtain ⟨form, span, parts⟩ := n
      cases hform
      obtain ⟨_, rfl, -⟩ := keeps_erased names rfl hm
      exact ⟨[], .done rfl, .nil⟩
  | cell hcall hnext ih =>
      obtain ⟨_, rfl, hwhole⟩ := keeps_erased names rfl hm
      obtain _ | ⟨he, _ | _⟩ := hwhole
      obtain ⟨_, rfl, hcalled⟩ := keeps_erased names rfl he
      obtain _ | ⟨-, _ | ⟨-, _ | ⟨-, _ | ⟨harrow, _ | _⟩⟩⟩⟩ := hcalled
      obtain ⟨_, rfl, hparts⟩ := keeps_erased names rfl harrow
      obtain _ | ⟨hblock, -⟩ := hparts
      obtain ⟨out, more, rfl, hout⟩ := erased_list rfl hblock
      obtain ⟨own, rest, rfl, hown, hrest⟩ := hout.append_left
      obtain _ | ⟨hcalled, _ | ⟨hlast, hmore⟩⟩ := hrest
      obtain ⟨call, rfl, hcall'⟩ := hcalled.of_isCarrier (by rw [hcall.form]; rfl)
      obtain ⟨next, rfl, hnext'⟩ := hlast.of_isCarrier (by rw [hnext.form]; rfl)
      obtain ⟨cs', hholds, hcs⟩ := ih hnext'
      refine ⟨⟨own, _⟩ :: cs', ?_, .cons ⟨hown, rfl⟩ hcs⟩
      rw [List.append_assoc]
      exact .cell (hcall.erased hfree hcall') hholds

theorem Wraps.erased {names : Names} (hfree : names.owners.find? "__capture_locals" = none)
    {cs : List CellTree} {n m : Node} (h : Wraps cs n) (hm : Script.Erased names n m) :
    ∃ cs', Wraps cs' m ∧ List.Forall₂ (CellTree.Erased names) cs cs' := by
  cases h with
  | function hholds =>
      obtain ⟨_, rfl, hwhole⟩ := keeps_erased names rfl hm
      obtain _ | ⟨hbound, _ | _⟩ := hwhole
      obtain ⟨_, rfl, hbinding⟩ := keeps_erased names rfl hbound
      obtain _ | ⟨-, _ | ⟨hclosed, _ | _⟩⟩ := hbinding
      obtain ⟨_, rfl, hparen⟩ := keeps_erased names rfl hclosed
      obtain _ | ⟨hmade, _ | _⟩ := hparen
      obtain ⟨_, rfl, hfunction⟩ := keeps_erased names rfl hmade
      obtain _ | ⟨-, _ | ⟨hblock, -⟩⟩ := hfunction
      obtain ⟨out, more, rfl, hout⟩ := erased_list rfl hblock
      obtain _ | ⟨hfirst, hmore⟩ := hout
      obtain ⟨first, rfl, hkept⟩ := hfirst.of_isCarrier (by rw [hholds.form]; rfl)
      obtain ⟨cs', hholds', hcs⟩ := hholds.erased hfree hkept
      exact ⟨cs', .function hholds', hcs⟩

/-! ### Captures and what is awaited -/

/-- The names of the variables that statements declare. -/
def variablesOf (ss : List Node) : List String := (ss.flatMap declaredNames).map Node.nameText

/-- A tree whose captures are completed and whose awaited values are wrapped. -/
def finish (n : Node) : Node := trackAwaits (captureLocals n)

theorem finish_of_isPlain {form : Form} (span : Span) (parts : List Node) (h : form.isPlain = true) :
    finish (.mk form span parts) = .mk form span (parts.map finish) := by
  rw [finish, captureLocals, rebuild_of_isPlain isStill_captureStep span parts h, trackAwaits,
    rebuild_of_isPlain isStill_trackStep span _ h, List.map_map]
  rfl

/-- A list of statements is finished from its start: what stands before a statement decides what the
statement captures, if it is a capturing call. -/
def finishList (own ss : List Node) : List Node :=
  (captureInList own (ss.map (Node.rebuild captureStep))).map (Node.rebuild trackStep)

theorem rebuild_captureStep_block (span : Span) (ss : List Node) :
    (Node.mk .block span ss).rebuild captureStep =
      .mk .block span (captureInList [] (ss.map (Node.rebuild captureStep))) := by
  rw [Node.rebuild, Node.rebuildAll_eq_map]
  rfl

theorem finish_block (span : Span) (ss : List Node) :
    finish (.mk .block span ss) = .mk .block span (finishList [] ss) := by
  rw [finish, captureLocals, rebuild_captureStep_block, trackAwaits, Node.rebuild, Node.rebuildAll_eq_map]
  rfl

theorem finishList_declared {ss : List Node} (hss : ∀ n ∈ ss, IsBound n) (own : List Node) :
    (∀ m ∈ finishList own ss, IsBound m) ∧
      (finishList own ss).flatMap declaredNames = ss.flatMap declaredNames := by
  obtain ⟨hrebuilt, hsame⟩ := map_rebuild_declared isStill_captureStep form_captureStep hss
  obtain ⟨hcaptured, hnames⟩ := captureInList_declared hrebuilt own
  obtain ⟨htracked, hkept⟩ := map_rebuild_declared isStill_trackStep form_trackStep hcaptured
  exact ⟨htracked, hkept.trans (hnames.trans hsame)⟩

theorem finishList_append {ss : List Node} (hss : ∀ n ∈ ss, IsBound n) (own rest : List Node) :
    finishList own (ss ++ rest) =
      finishList own ss ++ finishList (own ++ ss.flatMap declaredNames) rest := by
  obtain ⟨-, hsame⟩ := map_rebuild_declared isStill_captureStep form_captureStep hss
  rw [finishList, List.map_append, captureInList_append, List.map_append, hsame]
  rfl

/-- What becomes of a statement after others that declare variables. -/
def finishStatement (own : List Node) (n : Node) : Node :=
  (captureInStatement own (n.rebuild captureStep)).rebuild trackStep

theorem finishList_cons (own ss : List Node) (n : Node) :
    finishList own (n :: ss) =
      finishStatement own n :: finishList (own ++ declaredNames (n.rebuild captureStep)) ss := rfl

/-- A statement that runs a cell is no capturing call. -/
theorem finishStatement_cell (own : List Node) (whole called arrowed span : Span) (f index id : Node)
    (isAsync : Bool) (ss params : List Node) :
    finishStatement own (.mk .expression whole [.mk (.call false) called
        [f, index, id, .mk (.arrow isAsync) arrowed (.mk .block span ss :: params)]]) =
      .mk .expression whole [.mk (.call false) called [finish f, finish index, finish id,
        .mk (.arrow isAsync) arrowed (.mk .block span (finishList [] ss) :: params.map finish)]] := by
  have hself : captureInStatement own ((Node.mk .expression whole [.mk (.call false) called
      [f, index, id, .mk (.arrow isAsync) arrowed (.mk .block span ss :: params)]]).rebuild
        captureStep) =
      (Node.mk .expression whole [.mk (.call false) called
        [f, index, id, .mk (.arrow isAsync) arrowed (.mk .block span ss :: params)]]).rebuild
          captureStep := by
    rw [rebuild_of_isPlain isStill_captureStep _ _ rfl, List.map_singleton,
      rebuild_of_isPlain isStill_captureStep _ _ rfl, List.map_cons, List.map_cons, List.map_cons,
      List.map_singleton, rebuild_of_isPlain isStill_captureStep _ _ rfl, List.map_cons,
      rebuild_captureStep_block]
    exact ite_self _
  rw [finishStatement, hself]
  change finish (.mk .expression whole [.mk (.call false) called
    [f, index, id, .mk (.arrow isAsync) arrowed (.mk .block span ss :: params)]]) = _
  rw [finish_of_isPlain _ _ rfl, List.map_singleton, finish_of_isPlain _ _ rfl, List.map_cons,
    List.map_cons, List.map_cons, List.map_singleton, finish_of_isPlain _ _ rfl, List.map_cons,
    finish_block]

/-- What becomes of a cell that is finished: the call captures the variables of its statements too. -/
structure CellTree.Finished (c c' : CellTree) : Prop where
  declared : variablesOf c'.statements = variablesOf c.statements
  captured : ∀ w, w ∈ c'.captured ↔ w ∈ c.captured ∨ w ∈ variablesOf c.statements

theorem Holds.finished {cs : List CellTree} {n : Node} (h : Holds cs n)
    (hbound : ∀ c ∈ cs, ∀ n ∈ c.statements, IsBound n) (own : List Node) :
    ∃ cs', Holds cs' (finishStatement own n) ∧ List.Forall₂ CellTree.Finished cs cs' := by
  induction h generalizing own with
  | @done n hform =>
      refine ⟨[], .done ?_, .nil⟩
      rw [finishStatement, form_rebuild form_trackStep, form_captureInStatement,
        form_rebuild form_captureStep, hform]
  | @cell c cs call next f index id more params isAsync whole called arrowed span hcall hnext ih =>
      rw [List.forall_mem_cons] at hbound
      obtain ⟨ws, hws, hmem⟩ := (hcall.rebuild isStill_captureStep).add
        (c.statements.flatMap declaredNames)
      obtain ⟨cs', hholds, hcs⟩ := ih hbound.2
        (c.statements.flatMap declaredNames ++ declaredNames (call.rebuild captureStep))
      have hfinished : CellTree.Finished c ⟨finishList [] c.statements, ws⟩ :=
        ⟨congrArg (List.map Node.nameText) (finishList_declared hbound.1 []).2, hmem⟩
      refine ⟨_, ?_, .cons hfinished hcs⟩
      rw [finishStatement_cell, finishList_append hbound.1, finishList_cons, finishList_cons,
        List.nil_append]
      exact .cell (hws.rebuild isStill_trackStep) hholds

theorem Wraps.finished {cs : List CellTree} {n : Node} (h : Wraps cs n)
    (hbound : ∀ c ∈ cs, ∀ n ∈ c.statements, IsBound n) :
    ∃ cs', Wraps cs' (finish n) ∧ List.Forall₂ CellTree.Finished cs cs' := by
  cases h with
  | function hholds =>
      obtain ⟨cs', hholds', hcs⟩ := hholds.finished hbound []
      refine ⟨cs', ?_, hcs⟩
      rw [finish_of_isPlain _ _ rfl, List.map_singleton, finish_of_isPlain _ _ rfl, List.map_cons,
        List.map_singleton, finish_of_isPlain _ _ rfl, List.map_singleton, finish_of_isPlain _ _ rfl,
        List.map_cons, List.map_cons, finish_block, finishList_cons]
      exact .function hholds'

/-! ### Programs -/

/-- The names of a program without types. -/
def namesOf (program : Node) : Names :=
  let stripped := program.rebuild stripStep
  ⟨enumTable stripped, ownersOf stripped⟩

theorem mem_lowerImports {program n : Node} (hn : n ∈ program.parts) {kind : Declaration}
    (hform : n.form = .declare kind) : n ∈ (lowerImports program).parts := by
  refine List.mem_flatMap.2 ⟨n, hn, ?_⟩
  rw [lowerImport, hform]
  exact List.mem_singleton_self n

theorem mem_exportLast {items : List Node} {m : Node} (hm : m ∈ items)
    (hform : m.form ≠ .exportAssign) : m ∈ exportLast items :=
  List.mem_append_left _ (List.mem_filter.2 ⟨hm, congrArg (!·) (decide_eq_false hform)⟩)

/-- A program whose declarations are replaced, and what is known then. -/
def replaced (program : Node) : Node × Pending :=
  (Script.lower (enumTable (program.rebuild stripStep)) none
    (qualifyProgram (program.rebuild stripStep))).run ⟨[], [], []⟩

/-- What is done with exports leaves declarations of variables where they are. -/
theorem mem_erase_of_mem {program m : Node} (hm : m ∈ (replaced program).1.parts) {kind : Declaration}
    (hform : m.form = .declare kind) : m ∈ (erase program).parts := by
  have hkept : ∀ types, m ∈ (replaced program).1.parts.filterMap (eraseExport types) := fun types =>
    List.mem_filterMap.2 ⟨m, hm, by rw [eraseExport, hform]⟩
  rw [erase]
  refine List.mem_append_left _ (mem_exportLast ?_ (by rw [hform]; exact nofun))
  split
  · exact hkept _
  · exact List.mem_append_left _ (hkept _)

/-- What becomes of a declaration of variables in a program that loses its types. -/
theorem mem_erase {program : Node} {shebang : Option String} (hprogram : program.form = .program shebang)
    {n : Node} (hn : n ∈ program.parts) {kind : Declaration} (hform : n.form = .declare kind) :
    ∃ m ∈ (erase program).parts, Erased (namesOf program) n m := by
  have herased : Erased (namesOf program) program (replaced program).1 :=
    ⟨_, .inr ⟨_, rfl, rfl⟩, _, _, _, rfl⟩
  obtain ⟨form, span, items⟩ := program
  cases hprogram
  obtain ⟨out, more, hreplaced, hout⟩ := erased_list rfl herased
  have hcarrier : n.form.isCarrier = true := by rw [hform]; rfl
  obtain ⟨m, hm, hnm⟩ := hout.exists_mem hn hcarrier
  refine ⟨m, mem_erase_of_mem ?_ ((hnm.form hcarrier).trans hform), hnm⟩
  rw [hreplaced]
  exact List.mem_append_left _ hm

/-- What becomes of a cell of a program that is compiled. -/
structure CellTree.Compiled (c c' : CellTree) : Prop where
  /-- No variable is lost. -/
  kept : variablesOf c.statements ⊆ variablesOf c'.statements
  /-- Only enumerations become variables. -/
  known : variablesOf c'.statements ⊆
    variablesOf c.statements ++ (enumNames c.statements).map Node.nameText
  captured : ∀ w, w ∈ c'.captured ↔ w ∈ c.captured ∨ w ∈ variablesOf c'.statements

theorem CellTree.Erased.compiled {names : Names} {c c₁ c' : CellTree} (h : CellTree.Erased names c c₁)
    (hbound : ∀ n ∈ c.statements, bindsPatterns n = true) (h' : CellTree.Finished c₁ c') :
    CellTree.Compiled c c' := by
  obtain ⟨-, hkept, hknown⟩ := h.statements.declared hbound
  refine ⟨?_, ?_, fun w => ?_⟩
  · rw [h'.declared]
    exact List.map_subset _ hkept
  · rw [h'.declared, variablesOf, variablesOf, ← List.map_append]
    exact List.map_subset _ hknown
  · rw [h'.captured, h.captured, h'.declared]

theorem bound_of_erased {names : Names} {cs cs' : List CellTree}
    (h : List.Forall₂ (CellTree.Erased names) cs cs')
    (hbound : ∀ c ∈ cs, ∀ n ∈ c.statements, bindsPatterns n = true) :
    ∀ c ∈ cs', ∀ n ∈ c.statements, IsBound n := by
  induction h with
  | nil => exact nofun
  | cons hc _ ih =>
      rw [List.forall_mem_cons] at hbound ⊢
      exact ⟨(hc.statements.declared hbound.1).1, ih hbound.2⟩

theorem parts_finish {n : Node} {shebang : Option String} (h : n.form = .program shebang) :
    (finish n).parts = n.parts.map finish := by
  obtain ⟨form, span, items⟩ := n
  cases h
  have hcapture : captureLocals (.mk (.program shebang) span items) =
      .mk (.program shebang) span (items.map captureLocals) := by
    rw [captureLocals, Node.rebuild, Node.rebuildAll_eq_map]
    rfl
  rw [finish, hcapture, trackAwaits, Node.rebuild, Node.rebuildAll_eq_map, List.map_map]
  rfl

/-- **A program that runs cells runs them when it is compiled**: types are gone from their statements,
and the calls that capture variables capture those of the statements before them too. -/
theorem Wraps.lower {program : Node} {shebang : Option String}
    (hprogram : program.form = .program shebang)
    (hfree : (ownersOf ((lowerImports program).rebuild stripStep)).find? "__capture_locals" = none)
    {cs : List CellTree} {n : Node} (hn : n ∈ program.parts) (h : Wraps cs n)
    (hbound : ∀ c ∈ cs, ∀ n ∈ c.statements, bindsPatterns n = true) :
    ∃ cs', (∃ m ∈ (lower program).parts, Wraps cs' m) ∧ List.Forall₂ CellTree.Compiled cs cs' := by
  obtain ⟨kind, hkind⟩ : ∃ kind, n.form = .declare kind := by
    cases h
    exact ⟨_, rfl⟩
  have hlowered : (lowerImports program).form = .program shebang := hprogram
  obtain ⟨m, hm, hnm⟩ := mem_erase hlowered (mem_lowerImports hn hkind) hkind
  have hnames : (namesOf (lowerImports program)).owners.find? "__capture_locals" = none := hfree
  obtain ⟨erased, hwraps, herased⟩ := h.erased hnames hnm
  obtain ⟨finished, hwraps', hfinished⟩ := hwraps.finished (bound_of_erased herased hbound)
  refine ⟨finished, ⟨finish m, ?_, hwraps'⟩, ?_⟩
  · have hparts : (Program.lower program).parts = (erase (lowerImports program)).parts.map finish :=
      parts_finish (n := erase (lowerImports program)) hlowered
    rw [hparts]
    exact List.mem_map_of_mem hm
  · refine (forall₂_comp ((List.forall₂_and_left _ _).2 ⟨hbound, herased⟩) hfinished).imp ?_
    rintro c c' ⟨c₁, ⟨hc, herased⟩, hfinished⟩
    exact herased.compiled hc hfinished

end Program

end NotebookEngine
