/-
**Which cell a message of the compiler is blamed on.**

A compiler speaks of places in the program that was generated from all cells.  The lines of that program
come from two sides: the bodies of the cells, which the map of the program leads back to their cells, and
the import lines, which were moved to the start of the program and which no token of the map stands on.
A message about a line of a body is told of the body's cell, with the line in it.  A message about a
line that imports is told of the cell that is current, and before the program has started that is the
first code cell, whichever cell the line was moved from; nothing is told of the line.

Main definitions:

* `Program.origins` — the cells and lines that the first lines of a program were moved from;
* `Session.ToldFirst` — a session that has told some events before all others;
* `Diagnostic.verdict` — what is told of a message of the compiler;
* `Host.Unbegun` — a run of which nothing has happened but that it was prepared.

Main results:

* `Session.toldFirst_session` — what was told stays told, and what waited before the start is told first;
* `CellPlaces.shown_diagnostic` — a message of the compiler as it is shown;
* `Evaluation.events_prepare` — what waits to be told of a run that was prepared;
* `Evaluation.diagnostics_blamed` — **messages about bodies are told of their cells and lines, messages
  about import lines of the first code cell**.
-/

import NotebookEngine.Proofs.Program.Layout
import NotebookEngine.Proofs.Run.Completion

set_option autoImplicit false

namespace NotebookEngine

/-! ### The lines that were moved -/

namespace Program

/-- The import lines of a cell and their numbers. -/
def movedLines (c : Cell) : List (String × Nat) :=
  (Text.splitOnChar '\n' c.source).zipIdx.filter fun l => Specifier.isImportLine (Text.trimRight l.1)

/-- Where the first lines of a program were moved from: each with its cell, as it stands there, and with
its number in it. -/
def origins (code : List Cell) : List (Cell × String × Nat) :=
  code.flatMap fun c => (movedLines c).map (Prod.mk c)

theorem mem_movedLines {c : Cell} {line : String} {k : Nat} :
    (line, k) ∈ movedLines c ↔ (Text.splitOnChar '\n' c.source)[k]? = some line ∧
      Specifier.isImportLine (Text.trimRight line) = true := by
  rw [movedLines, List.mem_filter, List.mem_zipIdx_iff_getElem?]

theorem mem_origins {code : List Cell} {c : Cell} {line : String} {k : Nat} :
    (c, line, k) ∈ origins code ↔ c ∈ code ∧ (Text.splitOnChar '\n' c.source)[k]? = some line ∧
      Specifier.isImportLine (Text.trimRight line) = true := by
  rw [origins, List.mem_flatMap]
  constructor
  · rintro ⟨c', hc', hmem⟩
    obtain ⟨l, hl, heq⟩ := List.mem_map.1 hmem
    obtain ⟨rfl, rfl⟩ := Prod.mk.injEq .. ▸ heq
    exact ⟨hc', mem_movedLines.1 hl⟩
  · rintro ⟨hc, hline⟩
    exact ⟨c, hc, List.mem_map.2 ⟨(line, k), mem_movedLines.2 hline, rfl⟩⟩

theorem hoisted_eq_movedLines (c : Cell) :
    (bodyOf c.source).hoisted = (movedLines c).map fun l => Text.trimRight l.1 := by
  have hlines : Text.splitOnChar '\n' c.source = (Text.splitOnChar '\n' c.source).zipIdx.map Prod.fst :=
    (List.zipIdx_map_fst 0 _).symm
  rw [bodyOf, movedLines]
  dsimp only
  conv_lhs => rw [hlines]
  rw [List.map_map, List.filter_map]
  rfl

/-- The first lines of a program are the lines they were moved from, without the blanks at their ends. -/
theorem importsOf_eq_origins (code : List Cell) :
    importsOf code = (origins code).map fun o => Text.trimRight o.2.1 := by
  rw [importsOf, origins, List.map_flatMap]
  refine List.flatMap_congr fun c _ => ?_
  rw [hoisted_eq_movedLines, List.map_map]
  rfl

/-- Only code cells become a program. -/
theorem generate_filter (cells : List Cell) (forExport : Bool) :
    generate (cells.filter Cell.isCode) forExport = generate cells forExport := by
  have hsame : (cells.filter Cell.isCode).filter Cell.isCode = cells.filter Cell.isCode := by
    simp [List.filter_filter]
  rw [generate, hsame]
  rfl

end Program

/-! ### What was told stays told -/

namespace Session

/-- Whether a session has told some events first. -/
def ToldFirst {σ : Type} (past : List Event) (x : Session σ) : Prop := past <+: x.told

namespace ToldFirst

variable {σ : Type} (g : Guest σ) {past : List Event} {x : Session σ}

theorem tellOwner (hx : ToldFirst past x) (news : List Notice) :
    ToldFirst past (x.tellOwner g news) := by
  rw [ToldFirst, told_tellOwner]
  exact hx.trans (List.prefix_append _ _)

theorem ask (hx : ToldFirst past x) {α : Type} (f : Host → α × Host) : ToldFirst past (x.ask g f).2 := hx

theorem tell (hx : ToldFirst past x) (f : Host → Host) : ToldFirst past (x.tell g f) := hx

theorem change (hx : ToldFirst past x) (f : σ → σ) : ToldFirst past (x.change f) := hx

theorem flush (hx : ToldFirst past x) : ToldFirst past (x.flush g) := (hx.ask g _).tellOwner g _

theorem settle (hx : ToldFirst past x) : ToldFirst past (x.settle g) :=
  Settled.settle ⟨id, fun _ hy => hy.tellOwner g _, fun _ _ hy => hy.tell g _, id⟩ hx

theorem endCell (hx : ToldFirst past x) (i : Nat) : ToldFirst past (x.endCell g i) := by
  rw [Session.endCell]
  split
  · exact hx
  · dsimp only
    split <;> exact hx

theorem endCells (hx : ToldFirst past x) : ToldFirst past (x.endCells g) :=
  endCells_keeps (hx.ask g _) (fun i _ _ hy => hy.endCell g i) (fun _ hy => hy) fun _ hy => hy.tell g _

theorem runTask (hx : ToldFirst past x) (task : ReadyTask) : ToldFirst past (x.runTask g task) := by
  rw [Session.runTask]
  dsimp only
  split
  · exact hx
  · exact ((hx.tell g _).change _).settle g

theorem stall (hx : ToldFirst past x) : ToldFirst past (x.stall g) := (hx.ask g _).tellOwner g _

theorem next (hx : ToldFirst past x) : ToldFirst past (x.next g) :=
  next_keeps (hx.ask g _) (fun _ task hy => hy.runTask g task) (fun _ hy => hy.ask g _)
    (fun _ _ hy => hy.change _) fun _ hy => hy.stall g

/-- A round of the driver. -/
theorem round : Round g (ToldFirst past) (ToldFirst past) where
  settle := settle g
  flush := flush g
  look hx := hx.ask g _
  endCells hx _ := (hx.ask g _).endCells g
  next := next g
  last := id
  again hx _ := hx

end ToldFirst

end Session

/-- Whether a program that has not begun answers with the host that it was started with. -/
def Runner.Keeps {σ : Type} (r : Runner σ) : Prop :=
  ∀ (h : Host) (files : FileTree) {α : Type} (f : Host → α × Host),
    (r.guest.onHost f (r.start h files)).1 = (f h).1

theorem Engine.keeps_runner : Engine.runner.Keeps := fun _ _ _ _ => rfl

/-- What is handed out is what the host has to tell. -/
theorem Session.told_flush {σ : Type} (g : Guest σ) {state : σ} {h : Host}
    (hhost : ∀ {α : Type} (f : Host → α × Host), (g.onHost f state).1 = (f h).1) :
    (Session.flush g ⟨state, #[]⟩).told = h.events := by
  rw [flush, told_tellOwner, List.filterMap_append, List.filterMap_append, filterMap_passedNotices,
    filterMap_passedNotices, filterMap_eventNotices]
  exact congrArg Prod.fst (hhost _)

/-- What waits to be told when a run was prepared is told first. -/
theorem Session.toldFirst_session {σ : Type} {r : Runner σ} (hr : r.Keeps) (e : Evaluation)
    (cells : List Cell) (files : FileTree) :
    ToldFirst (e.prepare cells files).2.1.events (e.session r cells files) := by
  rw [Evaluation.session]
  obtain ⟨files', h, g⟩ := e.prepare cells files
  have hstart : ToldFirst h.events (Session.flush r.guest ⟨r.start h files', #[]⟩) := by
    have htold := told_flush r.guest fun f => hr h files' f
    exact ⟨[], (List.append_nil _).trans htold.symm⟩
  dsimp only
  refine ToldFirst.flush _ (ToldFirst.tell _ ?_ _)
  cases g.text? with
  | none => exact hstart
  | some text =>
      have hlaunched := (hstart.tell r.guest Host.begin).change
        (r.launch text (Path.join e.project e.fileName) e.project)
      dsimp only
      split
      · exact hlaunched
      · exact (ToldFirst.round r.guest).rounds _ hlaunched

/-! ### A message of the compiler -/

/-- The text of a message of the compiler as it is shown. -/
def Diagnostic.text (d : Diagnostic) : String := CellPlaces.messageOf ⟨some d.message, none, none⟩

/-- What is told of a message of the compiler, given the code cells and the map of their program: if the
place of the message is mapped to a line of a cell, the message with this line is told of this cell, else
the message alone is told of the first cell. -/
def Diagnostic.verdict (code : List Cell) (map : SourceMap) (d : Diagnostic) : Event :=
  match d.place?.bind fun p => map.mapLine p.line p.column with
  | some place => .error place.cell (d.text ++ "\r\n" ++ "at Code cell, line " ++ toString place.line)
  | none => .error ((code.head?.map Cell.id).getD "") d.text

/-- A message of the compiler as it is shown. -/
theorem CellPlaces.shown_diagnostic {t : CellPlaces} {map : SourceMap} (hmap : t.generated? = some map)
    (code : List Cell) (d : Diagnostic) :
    let shown := t.shown (code.head?.map Cell.id) ⟨some d.message, d.place?, none⟩
    Event.error (shown.cell?.getD "") shown.display = d.verdict code map := by
  intro shown
  have hplaced : t.placeLine ⟨some d.message, d.place?, none⟩ =
      (d.place?.bind fun p => map.mapLine p.line p.column).map fun place =>
        "at Code cell, line " ++ toString place.line := by
    cases d.place? with
    | none => rfl
    | some p =>
        cases hline : map.mapLine p.line p.column <;>
          simp [placeLine, frameLine, functionTitle, hmap, hline]
  have hblamed : t.blame (code.head?.map Cell.id) ⟨some d.message, d.place?, none⟩ =
      ((d.place?.bind fun p => map.mapLine p.line p.column).map SourceMap.CellPlace.cell).or
        (code.head?.map Cell.id) := by
    cases d.place? with
    | none => cases hcompiled : t.compiled? <;> simp [blame, hcompiled]
    | some p =>
        cases hcompiled : t.compiled? <;> cases hline : map.mapLine p.line p.column <;>
          simp [blame, hmap, hcompiled, hline]
  have htext : messageOf ⟨some d.message, d.place?, none⟩ = d.text := rfl
  simp only [shown, CellPlaces.shown, hplaced, hblamed, htext, Diagnostic.verdict]
  cases d.place?.bind fun p => map.mapLine p.line p.column with
  | none => simp [nonempty]
  | some place => simp only [Option.map_some, Option.some_or, Option.getD_some, String.append_assoc]

/-! ### A run that was prepared -/

namespace Host

/-- A run of some code cells of which nothing has happened but that it was prepared. -/
structure Unbegun (code : List Cell) (h : Host) : Prop where
  finished : h.finished = false
  cells : h.cells = code.map Cell.id
  tracker : h.tracker = .new
  current : h.current = rootOperation

namespace Unbegun

variable {code : List Cell} {h : Host}

theorem setCells (settings : Settings) (file : String) (code : List Cell) :
    Unbegun code ((new settings file).setCells (code.map Cell.id)) :=
  ⟨rfl, rfl, rfl, rfl⟩

theorem setMaps (hu : Unbegun code h) (generated? compiled? : Option SourceMap) :
    Unbegun code (h.setMaps generated? compiled?) :=
  ⟨hu.finished, hu.cells, hu.tracker, hu.current⟩

/-- No operation belongs to a cell yet, so that the first cell counts as the current one. -/
theorem currentCell (hu : Unbegun code h) : h.currentCell = code.head?.map Cell.id := by
  have hnone : Tracker.new.findCell rootOperation = none := by rfl
  rw [Host.currentCell, hu.tracker, hu.current, hnone, hu.cells, Option.getD_none,
    List.getElem?_map, List.head?_eq_getElem?]

/-- A report is queued and changes nothing else that matters before the start. -/
theorem report (hu : Unbegun code h) (cell? : Option String) (e : RawError) :
    Unbegun code (h.report cell? e) := by
  obtain ⟨cell, text, hreport⟩ := report_of_unfinished hu.finished cell? e
  rw [hreport]
  exact ⟨hu.finished, hu.cells, hu.tracker, hu.current⟩

theorem install (hu : Unbegun code h) (e : Evaluation) (cells : List Cell) (files : FileTree) :
    Unbegun code (e.install cells files h).2 := by
  unfold Evaluation.install
  induction cells generalizing files h with
  | nil => exact hu
  | cons c cells ih =>
      rw [List.foldl_cons]
      dsimp only
      cases e.installer files e.project c.source with
      | ok files' => exact ih hu files'
      | error failure => exact ih (hu.report _ _) files

/-- A message of the compiler is queued as its verdict. -/
theorem report_diagnostic (hu : Unbegun code h) {map : SourceMap}
    (hmap : h.places.generated? = some map) (d : Diagnostic) :
    h.report none ⟨some d.message, d.place?, none⟩ =
      { h.tell (d.verdict code map) with errors := h.errors + 1 } := by
  have hcurrent : (CellPlaces.nonempty none).or h.currentCell = code.head?.map Cell.id := hu.currentCell
  rw [Host.report, if_neg (by rw [hu.finished]; exact Bool.false_ne_true), hcurrent]
  dsimp only
  rw [CellPlaces.shown_diagnostic hmap]

/-- So are all of them, in order. -/
theorem events_reportDiagnostics (hu : Unbegun code h) {map : SourceMap}
    (hmap : h.places.generated? = some map) (ds : List Diagnostic) :
    (Evaluation.reportDiagnostics ds h).events = h.events ++ ds.map (Diagnostic.verdict code map) := by
  unfold Evaluation.reportDiagnostics
  -- By induction on the messages: a report leaves the cells, the maps and the tracker as they are.
  induction ds generalizing h with
  | nil => exact (List.append_nil _).symm
  | cons d ds ih =>
      have hreport := hu.report_diagnostic hmap d
      have hnext := hu.report none ⟨some d.message, d.place?, none⟩
      rw [List.foldl_cons, List.map_cons]
      rw [hreport] at hnext ⊢
      rw [ih hnext hmap, tell, List.append_assoc, List.singleton_append]

end Unbegun

end Host

namespace Evaluation

/-- What is told of installing what the cells need. -/
def installReports (e : Evaluation) (code : List Cell) (files : FileTree) : List Event :=
  (e.install code files ((Host.new e.settings e.fileName).setCells (code.map Cell.id))).2.events

/-- What waits to be told of a run that was prepared. -/
theorem events_prepare (e : Evaluation) (code : List Cell) (files : FileTree) :
    (e.prepare code files).2.1.events = e.installReports code files ++
      (e.compiler (Program.generate code false).1 e.project).diagnostics.map
        (Diagnostic.verdict code (Program.generate code false).2) := by
  have hinstalled := (Host.Unbegun.setCells e.settings e.fileName code).install e code files
  exact (hinstalled.setMaps (Program.build e.compiler code e.project).maps.head?
    (Program.build e.compiler code e.project).finalMap?).events_reportDiagnostics rfl _

/-- **Messages about bodies are told of their cells and lines, messages about import lines of the first
code cell.**  Whatever the compiler has to say is told, in order, after what was told of installing
packages.  A message whose place is on a line of the program that stands for a line of a cell is told of
that cell, with the number of the line.  The first lines of the program are the import lines of all code
cells, each of them moved from some line of its cell; a message whose place is on one of them is told of
the first code cell and without a line, whichever cell the import comes from. -/
theorem diagnostics_blamed (e : Evaluation) (cells : List Cell) (files : FileTree)
    (hproject : files.isDirectory e.project = true) :
    let code := cells.filter Cell.isCode
    let program := (Program.generate cells false).1
    let verdict := Diagnostic.verdict code (Program.generate cells false).2
    let lines := Text.splitOnChar '\n' program
    (∃ after, (e.report cells files).events = e.installReports code files ++
      (e.compiler program e.project).diagnostics.map verdict ++ after) ∧
    (∃ bodies : List (Nat × Cell), bodies.map Prod.snd = code ∧
      ∀ b ∈ bodies, ∀ k line, (Text.splitOnChar '\n' b.2.source)[k]? = some line →
        lines[b.1 + k]? = some (Program.bodyLine line ++ "\r") ∧
        ∀ d p, d.place? = some p → p.line = b.1 + k + 1 → verdict d =
          .error b.2.id (d.text ++ "\r\n" ++ "at Code cell, line " ++ toString (k + 1))) ∧
    (∀ c ∈ code, ∀ k line, (Text.splitOnChar '\n' c.source)[k]? = some line →
      Specifier.isImportLine (Text.trimRight line) = true →
        ∃ i : Nat, (Program.origins code)[i]? = some (c, line, k)) ∧
    ∀ (i : Nat) c line k, (Program.origins code)[i]? = some (c, line, k) →
      lines[i]? = some (Text.trimRight line ++ "\r") ∧
      ∀ d p, d.place? = some p → p.line = i + 1 →
        verdict d = .error ((code.head?.map Cell.id).getD "") d.text := by
  intro code program verdict lines
  obtain ⟨draft, bodies, tail, hgenerate, hbodies, hlays⟩ := Program.generate_lays cells false
  have hlines : lines = Text.splitOnChar '\n' (draft.text ++ tail) := by
    simp only [lines, program, hgenerate]
  have hverdict : verdict = Diagnostic.verdict code (SourceMap.ofEntries draft.entries) := by
    simp only [verdict, hgenerate]
  refine ⟨?_, ⟨bodies, hbodies, ?_⟩, ?_, ?_⟩
  · have hreport : e.report cells files =
        reportOf Engine.runner (e.session Engine.runner code files) := by
      rw [report, reportWith, hproject]
      rfl
    obtain ⟨after, hafter⟩ := Session.toldFirst_session Engine.keeps_runner e code files
    rw [events_prepare, Program.generate_filter] at hafter
    exact ⟨after, by rw [hreport, events_reportOf, hafter]⟩
  · intro b hb k line hline
    obtain ⟨hk, -⟩ := List.getElem?_eq_some_iff.1 hline
    refine ⟨hlines ▸ hlays.getElem?_lines tail hb hline, fun d p hp hat => ?_⟩
    rw [hverdict, Diagnostic.verdict, hp, Option.bind_some, hat, hlays.mapLine_body hb hk]
  · intro c hc k line hline himport
    exact List.mem_iff_getElem?.1 (Program.mem_origins.2 ⟨hc, hline, himport⟩)
  · intro i c line k horigin
    have himport : (Program.importsOf code)[i]? = some (Text.trimRight line) := by
      rw [Program.importsOf_eq_origins, List.getElem?_map, horigin]
      rfl
    have hi : i < (Program.importsOf code).length := (List.getElem?_eq_some_iff.1 himport).1
    refine ⟨?_, fun d p hp hat => ?_⟩
    · have htaken := congrArg (·[i]?) (hlays.take_lines (fun _ => Program.not_mem_importsOf) tail)
      rw [List.getElem?_take_of_lt hi, List.getElem?_map, himport] at htaken
      exact hlines ▸ htaken
    · -- Every body stands below the import lines, and the map has tokens in bodies only.
      have hnone : (SourceMap.ofEntries draft.entries).mapLine p.line p.column = none :=
        hlays.mapLine_before p.column fun b hb => by
          rw [hat]
          exact Nat.le_trans hi (hlays.bounds b hb).1
      rw [hverdict, Diagnostic.verdict, hp, Option.bind_some, hnone]

/-- A code cell that is an import which is not complete. -/
def brokenImport : Cell := ⟨some "b", .code, some "import \x7b from 'fs';"⟩

/-- What a compiler has to say of that import when it is the first line of a program. -/
def objection : Diagnostic := ⟨"Expected ','", some ⟨programName, 1, 14⟩, .compilation⟩

/-- An evaluation whose compiler does so. -/
def objecting : Evaluation := ⟨.default, fun _ _ => ⟨none, none, [objection]⟩, .none, "notebook", "."⟩

/-- The message about the import of the second cell is told of the first one. -/
theorem blamed_on_first : FileTree.empty.isDirectory objecting.project = true ∧
    (Program.origins [⟨some "a", .code, some "const x = 1;"⟩, brokenImport])[0]? =
      some (brokenImport, "import \x7b from 'fs';", 0) ∧
    ∃ after, (objecting.report [⟨some "a", .code, some "const x = 1;"⟩, brokenImport] .empty).events =
      .error "a" "Expected ','" :: after := by
  have hproject : FileTree.empty.isDirectory objecting.project = true := by decide +kernel
  have horigin : (Program.origins [⟨some "a", .code, some "const x = 1;"⟩, brokenImport])[0]? =
      some (brokenImport, "import \x7b from 'fs';", 0) := by decide +kernel
  obtain ⟨⟨after, hafter⟩, -, -, hmoved⟩ := diagnostics_blamed objecting
    [⟨some "a", .code, some "const x = 1;"⟩, brokenImport] .empty hproject
  have hverdict := (hmoved 0 brokenImport "import \x7b from 'fs';" 0 horigin).2 objection _ rfl rfl
  have htext : objection.text = "Expected ','" := by decide +kernel
  rw [htext] at hverdict
  exact ⟨hproject, horigin, after, hafter.trans (congrArg (· :: after) hverdict)⟩

end Evaluation

end NotebookEngine
