/-
**Variables that the closures of cells capture.**

The names that the closure of a cell captures come from two sides.  Those of the cells before are listed
when the text of the program is written: each cell is read by itself, with its types, and what its
statements declare is listed, together with what they say is declared elsewhere.  Those of the cell itself
are added when the program is compiled, after its types are gone: they are the variables that its
statements declare then.

The two sides agree on what a statement declares.  They part where a statement with types does: a variable
that a cell says is declared elsewhere is gone with the types, so the cell itself does not capture it, and
every cell after it does, although no variable of that name exists; and an enumeration that has become a
variable is captured by its own cell alone.

Main definitions:

* `Program.listedBy` — the names that the capturing calls of cells list;
* `Program.Reads` — the cells of a program that is read as it is written;
* `Program.readProgram?` — the cells of a program;
* `Program.reading?` — the program of some cells, if it is read as it is written.

Main results:

* `Program.mem_listedBy`, `Program.generate_lists` — what is listed, and that it is written;
* `Program.mem_listedVariables` — what a cell is said to declare;
* `Program.wraps_of_readProgram` — the cells that are read are those that the program runs;
* `Program.reads_of_reading` — reading the program of some cells tells whether it is read as it is written;
* `Program.closures_compiled` — **what the closures of a compiled program capture**.
-/

import NotebookEngine.Program.Generate
import NotebookEngine.Proofs.Program.CellTrees

set_option autoImplicit false

namespace NotebookEngine

namespace Program

open Script

/-! ### Names that are listed -/

/-- The text in which the variables of a cell are looked for. -/
def cellBody (c : Cell) : String := String.intercalate "\n" (bodyOf c.source).lines

/-- The names that the capturing calls of cells list, if some variables are declared before them. -/
def listedBy (locals : List String) : List Cell → List (List String)
  | [] => []
  | c :: cs => locals :: listedBy (localsAfter locals c) cs

theorem mem_localsAfter (locals : List String) (c : Cell) (w : String) :
    w ∈ localsAfter locals c ↔ w ∈ locals ∨ w ∈ declaredLocals (cellBody c) := by
  rw [localsAfter, List.mem_eraseDups, List.mem_append]
  rfl

/-- **A capturing call lists the variables of all cells before its own.** -/
theorem mem_listedBy {locals names : List String} {cs : List Cell} {i : Nat}
    (h : (listedBy locals cs)[i]? = some names) (w : String) :
    w ∈ names ↔ w ∈ locals ∨ ∃ k c, k < i ∧ cs[k]? = some c ∧ w ∈ declaredLocals (cellBody c) := by
  induction cs generalizing locals i with
  | nil => cases h
  | cons c cs ih =>
      cases i with
      | zero =>
          cases h
          exact ⟨.inl, fun h => h.elim id fun ⟨_, _, hlt, _⟩ => absurd hlt (Nat.not_lt_zero _)⟩
      | succ i =>
          rw [ih h, mem_localsAfter, or_assoc]
          refine or_congr_right ⟨?_, ?_⟩
          · rintro (hc | ⟨k, e, hlt, he, hw⟩)
            · exact ⟨0, c, Nat.succ_pos i, rfl, hc⟩
            · exact ⟨k + 1, e, Nat.succ_lt_succ hlt, he, hw⟩
          · rintro ⟨k, e, hlt, he, hw⟩
            cases k with
            | zero => cases he; exact .inl hw
            | succ k => exact .inr ⟨k, e, Nat.lt_of_succ_lt_succ hlt, he, hw⟩

theorem Draft.addCells_extends (d : Draft) (index : Nat) (cs : List Cell) :
    ∃ rest, (d.addCells index cs).text = d.text ++ rest := by
  induction cs generalizing d index with
  | nil => exact ⟨"", String.append_empty.symm⟩
  | cons c cs ih =>
      obtain ⟨rest, hrest⟩ := ih (d.addCell index c) (index + 1)
      rw [Draft.addCells, hrest]
      simp only [Draft.addCell, Draft.addBody, Draft.add, String.append_assoc]
      exact ⟨_, rfl⟩

/-- Each cell is followed by a call that lists the names of the variables before it. -/
theorem Draft.addCells_lists (d : Draft) (index : Nat) {cs : List Cell} {i : Nat} {c : Cell}
    {names : List String} (hc : cs[i]? = some c) (hnames : (listedBy d.locals cs)[i]? = some names) :
    ∃ before after, (d.addCells index cs).text =
      before ++ captureCall (index + i) c.id names ++ after := by
  induction cs generalizing d index i with
  | nil => cases hc
  | cons c' cs ih =>
      cases i with
      | zero =>
          cases hc
          cases hnames
          obtain ⟨rest, hrest⟩ := Draft.addCells_extends (d.addCell index c) (index + 1) cs
          exact ⟨_, rest, hrest⟩
      | succ i =>
          obtain ⟨before, after, htext⟩ := ih (d.addCell index c') (index + 1) hc hnames
          exact ⟨before, after, by rw [Draft.addCells, htext, Nat.add_right_comm, Nat.add_assoc]⟩

theorem generate_lists {cells : List Cell} {i : Nat} {c : Cell} {names : List String}
    (hc : (cells.filter Cell.isCode)[i]? = some c)
    (hnames : (listedBy [] (cells.filter Cell.isCode))[i]? = some names) :
    ∃ before after, (generate cells false).1 = before ++ captureCall i c.id names ++ after := by
  let start : Draft := ((Draft.mk "" 0 [] []).add (endLines ((cells.filter Cell.isCode).flatMap fun c =>
    (bodyOf c.source).hoisted))).add evaluationHead
  obtain ⟨before, after, htext⟩ := start.addCells_lists 0 hc hnames
  rw [Nat.zero_add] at htext
  have hgenerate : (generate cells false).1 = (start.addCells 0 (cells.filter Cell.isCode)).text ++
      (endLines ("__end();" :: (cells.filter Cell.isCode).map fun _ => "\x7d);") ++ evaluationTail) :=
    rfl
  exact ⟨before, _, by rw [hgenerate, htext, String.append_assoc]⟩

/-- The names that a cell with some statements is said to declare. -/
def listedVariables (ss : List Node) : List String := (ss.flatMap statementNames).map Node.nameText

/-- The names of the variables that statements say are declared elsewhere. -/
def ambientVariables (ss : List Node) : List String :=
  ((ss.filter fun n => n.form = .ambient).flatMap fun n => declaredNames (n.part 0)).map Node.nameText

/-- **A cell is said to declare what it declares and what it says is declared elsewhere.** -/
theorem mem_listedVariables (ss : List Node) (w : String) :
    w ∈ listedVariables ss ↔ w ∈ variablesOf ss ∨ w ∈ ambientVariables ss := by
  induction ss with
  | nil => simp [listedVariables, variablesOf, ambientVariables]
  | cons n ns ih =>
      have hlisted : listedVariables (n :: ns) =
          (statementNames n).map Node.nameText ++ listedVariables ns := List.map_append
      have hvariables : variablesOf (n :: ns) = (declaredNames n).map Node.nameText ++ variablesOf ns :=
        List.map_append
      by_cases hform : n.form = .ambient
      · have hambient : ambientVariables (n :: ns) =
            (declaredNames (n.part 0)).map Node.nameText ++ ambientVariables ns := by
          rw [ambientVariables, List.filter_cons, if_pos (decide_eq_true hform)]
          exact List.map_append
        have hstatement : statementNames n = declaredNames (n.part 0) := by rw [statementNames, hform]
        have hnone : declaredNames n = [] := declaredNames_of_form (by simp [hform])
        rw [hlisted, hvariables, hambient, hstatement, hnone]
        simp only [List.mem_append, ih, List.map_nil, List.not_mem_nil, false_or]
        exact or_left_comm
      · have hambient : ambientVariables (n :: ns) = ambientVariables ns := by
          rw [ambientVariables, List.filter_cons, if_neg fun h => hform (of_decide_eq_true h)]
          rfl
        have hstatement : statementNames n = declaredNames n := by
          rw [statementNames]
          split
          next h => exact absurd h hform
          next => rfl
        rw [hlisted, hvariables, hambient, hstatement]
        simp only [List.mem_append, ih]
        exact or_assoc.symm

/-! ### Programs as they are read -/

/-- A program is read as that of some cells is written.  This is not so if the text of a cell ends the
function around it; for given cells `reading?` tells. -/
structure Reads (code : List Cell) (program : Node) (cs : List CellTree) : Prop where
  shape : ∃ shebang, program.form = .program shebang
  wraps : ∃ n ∈ program.parts, Wraps cs n
  /-- The calls list the names that were written. -/
  captured : cs.map CellTree.captured = listedBy [] code
  /-- Each cell is said to declare what it is said to declare by itself. -/
  listed : cs.map (fun c => listedVariables c.statements) =
    code.map fun c => listedVariables (cellStatements (cellBody c))
  bound : ∀ c ∈ cs, ∀ n ∈ c.statements, bindsPatterns n = true
  /-- No namespace exports a function that captures variables. -/
  free : (ownersOf ((lowerImports program).rebuild stripStep)).find? "__capture_locals" = none

/-- The name that a property without a value of its own stands for. -/
def readProperty? : Node → Option String
  | .mk .shorthand _ [.mk (.name w) _ _] => some w
  | _ => none

/-- The names in a call that captures variables. -/
def readCapture? : Node → Option (List String)
  | .mk .expression _ [.mk (.call false) _ (f :: _ :: _ ::
      .mk (.arrow _) _ (.mk .paren _ [.mk .object _ ps] :: _) :: _)] =>
    if f.form = .name "__capture_locals" then ps.mapM readProperty? else none
  | _ => none

/-- The first cells that a statement runs, so many of them.  The last statements of a cell are the call
that captures variables and the statement that runs the cells after it. -/
def readCells? : Nat → Node → Option (List CellTree)
  | 0, n => if n.form = .expression then some [] else none
  | k + 1, .mk .expression _ [.mk (.call false) _ [_, _, _, .mk (.arrow _) _ (.mk .block _ ss :: _)]] =>
    match ss.reverse with
    | next :: call :: own => do
      let captured ← readCapture? call
      let cs ← readCells? k next
      pure (⟨own.reverse, captured⟩ :: cs)
    | _ => none
  | _ + 1, _ => none

/-- The first cells that the function of a program runs, so many of them. -/
def readFunction? (count : Nat) : Node → Option (List CellTree)
  | .mk (.declare _) _ [.mk .declarator _ [_, .mk .paren _
      [.mk (.function _) _ (_ :: .mk .block _ (first :: _) :: _)]]] => readCells? count first
  | _ => none

/-- The first cells that a program runs, so many of them. -/
def readProgram? (count : Nat) (program : Node) : Option (List CellTree) :=
  program.parts.findSome? (readFunction? count)

theorem forall₂_of_readProperty {ps : List Node} {ws : List String}
    (h : ps.mapM readProperty? = some ws) : List.Forall₂ StandsFor ws ps := by
  induction ps generalizing ws with
  | nil => cases h; exact .nil
  | cons p ps ih =>
      rw [List.mapM_cons] at h
      obtain ⟨w, hw, h⟩ := Option.bind_eq_some_iff.1 h
      obtain ⟨rest, hrest, h⟩ := Option.bind_eq_some_iff.1 h
      cases h
      refine .cons ?_ (ih hrest)
      unfold readProperty? at hw
      split at hw
      · cases hw
        exact .shorthand
      · cases hw

theorem captures_of_readCapture {n : Node} {ws : List String} (h : readCapture? n = some ws) :
    Captures ws n := by
  unfold readCapture? at h
  split at h
  · split at h
    next hf => exact .call hf (forall₂_of_readProperty h)
    next => cases h
  · cases h

theorem holds_of_readCells {count : Nat} {n : Node} {cs : List CellTree}
    (h : readCells? count n = some cs) : Holds cs n := by
  induction count generalizing n cs with
  | zero =>
      unfold readCells? at h
      split at h
      next hform => cases h; exact .done hform
      next => cases h
  | succ count ih =>
      unfold readCells? at h
      split at h
      · cases ‹_ + 1 = 0›
      next hcount =>
        split at h
        next next call own hss =>
          obtain ⟨captured, hcall, h⟩ := Option.bind_eq_some_iff.1 h
          obtain ⟨rest, hrest, h⟩ := Option.bind_eq_some_iff.1 h
          cases h
          cases hcount
          rw [List.reverse_eq_iff, List.reverse_cons, List.reverse_cons, List.append_assoc] at hss
          rw [hss]
          exact .cell (captures_of_readCapture hcall) (ih hrest)
        next => cases h
      · cases h

/-- The cells that are read are those that the program runs. -/
theorem wraps_of_readProgram {count : Nat} {program : Node} {cs : List CellTree}
    (h : readProgram? count program = some cs) : ∃ n ∈ program.parts, Wraps cs n := by
  obtain ⟨n, hn, h⟩ := List.exists_of_findSome?_eq_some h
  refine ⟨n, hn, ?_⟩
  unfold readFunction? at h
  split at h
  · exact .function (holds_of_readCells h)
  · cases h

/-- Whether cells that were read of a program are those of some code cells. -/
def isReading (code : List Cell) (program : Node) (cs : List CellTree) : Bool :=
  (program.form matches .program _) && decide (cs.map CellTree.captured = listedBy [] code) &&
    decide (cs.map (fun c => listedVariables c.statements) =
      code.map fun c => listedVariables (cellStatements (cellBody c))) &&
    (cs.all fun c => c.statements.all bindsPatterns) &&
    decide ((ownersOf ((lowerImports program).rebuild stripStep)).find? "__capture_locals" = none)

theorem reads_of_isReading {code : List Cell} {program : Node} {cs : List CellTree}
    (hread : readProgram? code.length program = some cs) (h : isReading code program cs = true) :
    Reads code program cs := by
  simp only [isReading, Bool.and_eq_true, decide_eq_true_iff, List.all_eq_true] at h
  obtain ⟨⟨⟨⟨hshape, hcaptured⟩, hvariables⟩, hbound⟩, hfree⟩ := h
  refine ⟨?_, wraps_of_readProgram hread, hcaptured, hvariables, hbound, hfree⟩
  split at hshape
  next shebang hform => exact ⟨shebang, hform⟩
  next => cases hshape

/-- The program of some cells, and the cells that are read of it, if it is read as it is written.  For
given cells this is computed: their program is generated, parsed and compared with them. -/
def reading? (cells : List Cell) : Option (Node × List CellTree) :=
  match (parseModule (generate cells false).1).result with
  | .error _ => none
  | .ok program =>
    ((readProgram? (cells.filter Cell.isCode).length program).filter
      (isReading (cells.filter Cell.isCode) program)).map (program, ·)

/-- **Whether a program is read as it is written can be told from its cells.** -/
theorem reads_of_reading {cells : List Cell} {program : Node} {cs : List CellTree}
    (h : reading? cells = some (program, cs)) :
    (parseModule (generate cells false).1).result = .ok program ∧
      Reads (cells.filter Cell.isCode) program cs := by
  rw [reading?] at h
  split at h
  next => cases h
  next program' hparse =>
    obtain ⟨cs', hread, hpair⟩ := Option.map_eq_some_iff.1 h
    obtain ⟨hread, hreading⟩ := Option.filter_eq_some_iff.1 hread
    cases hpair
    exact ⟨hparse, reads_of_isReading hread hreading⟩

/-- **What the closures of cells capture.**  The program of the code cells is compiled to one that runs the
same cells.  The closure of a cell captures what all cells before it are said to declare, and the variables
that its own statements declare once types are gone.  A cell is said to declare its variables and those
that it says are declared elsewhere; its statements without types declare its variables, and among the
names of its enumerations those that became variables. -/
theorem closures_compiled (cells : List Cell) (project : String) (program : Node) (cs : List CellTree)
    (hparse : (parseModule (generate cells false).1).result = .ok program)
    (hreads : Reads (cells.filter Cell.isCode) program cs) :
    let code := cells.filter Cell.isCode
    (compile (generate cells false).1 project).text? = some (printProgram (lower program)).1 ∧
    ∃ compiled, (∃ n ∈ (lower program).parts, Wraps compiled n) ∧ compiled.length = code.length ∧
      ∀ i cell c c', code[i]? = some cell → cs[i]? = some c → compiled[i]? = some c' →
        let earlier (w : String) := ∃ k e, k < i ∧ code[k]? = some e ∧ w ∈ declaredLocals (cellBody e)
        (∃ before names after,
          (generate cells false).1 = before ++ captureCall i cell.id names ++ after ∧
          ∀ w, w ∈ names ↔ earlier w) ∧
        (∀ w, w ∈ c'.captured ↔ earlier w ∨ w ∈ variablesOf c'.statements) ∧
        (∀ w, w ∈ declaredLocals (cellBody cell) ↔
          w ∈ variablesOf c.statements ∨ w ∈ ambientVariables c.statements) ∧
        variablesOf c.statements ⊆ variablesOf c'.statements ∧
        variablesOf c'.statements ⊆
          variablesOf c.statements ++ (enumNames c.statements).map Node.nameText := by
  intro code
  obtain ⟨shebang, hshape⟩ := hreads.shape
  obtain ⟨n, hn, hwraps⟩ := hreads.wraps
  obtain ⟨compiled, hcompiled, hcs⟩ := hwraps.lower hshape hreads.free hn hreads.bound
  have hlength : cs.length = code.length := by
    have h := congrArg List.length hreads.listed
    rwa [List.length_map, List.length_map] at h
  refine ⟨?_, compiled, hcompiled, hcs.length_eq.symm.trans hlength, ?_⟩
  · rw [compile, hparse]
  intro i cell c c' hcell hc hc' earlier
  have hnames : (listedBy [] code)[i]? = some c.captured := by
    rw [← hreads.captured, List.getElem?_map, hc]
    rfl
  have hearlier : ∀ w, w ∈ c.captured ↔ earlier w := by
    intro w
    rw [mem_listedBy hnames]
    exact or_iff_right List.not_mem_nil
  obtain ⟨before, after, htext⟩ := generate_lists hcell hnames
  have hpair : CellTree.Compiled c c' := by
    obtain ⟨hi, rfl⟩ := List.getElem?_eq_some_iff.1 hc
    obtain ⟨hi', rfl⟩ := List.getElem?_eq_some_iff.1 hc'
    exact hcs.get hi hi'
  have hlisted : listedVariables c.statements = listedVariables (cellStatements (cellBody cell)) := by
    have h := congrArg (·[i]?) hreads.listed
    simp only [List.getElem?_map, hc] at h
    rw [show (cells.filter Cell.isCode)[i]? = some cell from hcell] at h
    exact Option.some.inj h
  refine ⟨⟨before, c.captured, after, htext, hearlier⟩, ?_, ?_, hpair.kept, hpair.known⟩
  · intro w
    rw [hpair.captured, hearlier]
  · intro w
    rw [declaredLocals, List.mem_eraseDups]
    change w ∈ listedVariables (cellStatements (cellBody cell)) ↔ _
    rw [← hlisted, mem_listedVariables]

/-- Two cells, the first of which says that a variable is declared elsewhere. -/
def ambientCells : List Cell := [⟨some "a", .code, some "declare let x;"⟩, ⟨some "b", .code, some ""⟩]

/-- Whether the cells of a program declare no variable, and have none that becomes one. -/
def declareNothing (reading : Node × List CellTree) : Bool :=
  decide (reading.2.map (fun c =>
    variablesOf c.statements ++ (enumNames c.statements).map Node.nameText) = [[], []])

/-- The closure of the second cell captures a variable that no cell declares. -/
theorem closure_without_variable :
    ∃ program cs, (parseModule (generate ambientCells false).1).result = .ok program ∧
      Reads ambientCells program cs ∧
      ∃ compiled c, (∃ n ∈ (lower program).parts, Wraps compiled n) ∧ compiled[1]? = some c ∧
        "x" ∈ c.captured ∧ ∀ c ∈ compiled, "x" ∉ variablesOf c.statements := by
  have hcheck : ((reading? ambientCells).map declareNothing) = some true := by decide +kernel
  have hlisted : "x" ∈ declaredLocals (cellBody ⟨some "a", .code, some "declare let x;"⟩) := by
    decide +kernel
  obtain ⟨⟨program, cs⟩, hreading, hnone⟩ := Option.map_eq_some_iff.1 hcheck
  rw [declareNothing, decide_eq_true_iff] at hnone
  obtain ⟨hparse, hreads⟩ := reads_of_reading hreading
  obtain ⟨-, compiled, hwraps, hlength, hcells⟩ := closures_compiled ambientCells "." program cs
    hparse hreads
  refine ⟨program, cs, hparse, hreads, compiled, ?_⟩
  obtain ⟨c₁, c₂, rfl⟩ := List.length_eq_two.1 hlength
  obtain ⟨d₁, d₂, rfl⟩ := List.length_eq_two.1 ((List.length_map _).symm.trans
    (congrArg List.length hnone))
  obtain ⟨hnone₁, hnone₂⟩ := List.cons.inj hnone
  obtain ⟨-, -, -, -, hfirst⟩ := hcells 0 _ d₁ c₁ rfl rfl rfl
  obtain ⟨-, hcaptured, -, -, hsecond⟩ := hcells 1 _ d₂ c₂ rfl rfl rfl
  refine ⟨c₂, hwraps, rfl, (hcaptured "x").2 (.inl ⟨0, _, Nat.one_pos, rfl, hlisted⟩), ?_⟩
  rw [List.forall_mem_cons, List.forall_mem_singleton]
  exact ⟨fun hx => List.ne_nil_of_mem (hfirst hx) hnone₁,
    fun hx => List.ne_nil_of_mem (hsecond hx) (List.cons.inj hnone₂).1⟩

end Program

end NotebookEngine
