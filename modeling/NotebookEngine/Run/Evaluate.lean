/-
**Evaluating a notebook.**

The packages that the cells need are installed, the program of all cells is generated and compiled, and
then it runs until every cell has ended, something has failed, or nothing is left to wait for.

Main definitions:

* `Evaluation`, `Evaluation.Report` — how a notebook is evaluated, and what came of it;
* `Evaluation.session` — the run, with anything that runs programs;
* `Evaluation.reportWith`, `Evaluation.report` — the evaluation, and what came of it even if it has failed;
* `Evaluation.run` — the evaluation, or why it has failed.
-/

import NotebookEngine.Engine.Running
import NotebookEngine.Package.Install
import NotebookEngine.Program.Compile
import NotebookEngine.Program.Generate

set_option autoImplicit false

namespace NotebookEngine

/-- How a notebook is evaluated. -/
structure Evaluation where
  settings : Settings
  compiler : Program.Compiler
  installer : Installer
  /-- The name under which messages tell of the notebook. -/
  fileName : String
  /-- The directory that modules are installed into and loaded from. -/
  project : String

namespace Evaluation

/-- What came of an evaluation. -/
structure Report where
  /-- What the owner of the run got to see. -/
  notices : List Notice.Timed
  /-- The variables of all cells. -/
  environment : List (String × Json)
  capped : Bool
  /-- The number of errors that were reported. -/
  errors : Nat
  /-- The time that passed on the program's clock, in nanoseconds. -/
  elapsed : Nat
  /-- The files afterwards. -/
  files : FileTree
  /-- What has kept the evaluation from coming to its end. -/
  failure? : Option Failure
  deriving Inhabited

namespace Report

/-- Whether nothing failed. -/
def succeeded (r : Report) : Bool := r.errors = 0

/-- The events of the run. -/
def events (r : Report) : List Event :=
  r.notices.filterMap fun n =>
    match n.notice with
    | .event e => some e
    | _ => none

/-- What passed through to a stream. -/
def passed (r : Report) (channel : Channel) : String :=
  String.join (r.notices.filterMap fun n =>
    match n.notice with
    | .passed c text => if c = channel then some text else none
    | _ => none)

end Report

/-! ### Before the run -/

/-- Install what the cells need, each cell for itself; what fails is reported. -/
def install (e : Evaluation) (cells : List Cell) (files : FileTree) (h : Host) : FileTree × Host :=
  cells.foldl
    (fun (files, h) c =>
      match e.installer files e.project c.source with
      | .ok files => (files, h)
      | .error failure => (files, h.report (some c.id) ⟨some failure.message, none, none⟩))
    (files, h)

/-- Report what the compiler has to say. -/
def reportDiagnostics (ds : List Diagnostic) (h : Host) : Host :=
  ds.foldl (fun h d => h.report none ⟨some d.message, d.place?, none⟩) h

/-! ### The run -/

/-- The host of a run before its program starts: the cells are named, and what cannot be installed or
compiled is reported. With it come the files and the program. -/
def prepare (e : Evaluation) (cells : List Cell) (files : FileTree) :
    FileTree × Host × Program.Generated :=
  let h := (Host.new e.settings e.fileName).setCells (cells.map Cell.id)
  let (files, h) := e.install cells files h
  let g := Program.build e.compiler cells e.project
  (files, reportDiagnostics g.diagnostics (h.setMaps g.maps.head? g.finalMap?), g)

/-- The session of a run that is over. -/
def session {σ : Type} (r : Runner σ) (e : Evaluation) (cells : List Cell) (files : FileTree) :
    Session σ :=
  let (files, h, g) := e.prepare cells files
  let x : Session σ := ⟨r.start h files, #[]⟩
  let x := x.flush r.guest
  let x := match g.text? with
    | none => x
    | some text =>
      let x := x.tell r.guest Host.begin
      let x := x.change (r.launch text (Path.join e.project e.fileName) e.project)
      if x.isStuck r.guest then x else x.drive r.guest
  (x.tell r.guest Host.finish).flush r.guest

/-- What came of the session of a run. -/
def reportOf {σ : Type} (r : Runner σ) (x : Session σ) : Report :=
  let ((environment, capped, errors), x) := x.ask r.guest fun h =>
    let (environment, h) := h.takeEnvironment
    ((environment, h.capped, h.errors), h)
  { notices := x.notices.toList
    environment, capped, errors
    elapsed := r.guest.clock x.state
    files := r.files x.state
    failure? := (r.guest.fault? x.state).map Failure.engine }

/-- Evaluate the code cells of a notebook with what runs programs. -/
def reportWith {σ : Type} (r : Runner σ) (e : Evaluation) (cells : List Cell) (files : FileTree) :
    Report :=
  if !files.isDirectory e.project then
    { notices := [], environment := [], capped := false, errors := 0, elapsed := 0, files
      failure? := some (.invalidOperation ("project directory " ++ e.project ++ " does not exist")) }
  else reportOf r (e.session r (cells.filter Cell.isCode) files)

/-- Evaluate the code cells of a notebook, and report also what has come of a failure. -/
def report (e : Evaluation) (cells : List Cell) (files : FileTree) : Report :=
  e.reportWith Engine.runner cells files

/-- Evaluate the code cells of a notebook. -/
def run (e : Evaluation) (cells : List Cell) (files : FileTree) : Except Failure Report :=
  let report := e.report cells files
  match report.failure? with
  | some failure => .error failure
  | none => .ok report

end Evaluation

end NotebookEngine
