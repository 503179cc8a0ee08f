/-
**Requires that fail.**

A module is kept under its path before it is evaluated, and nothing takes it away again.  So a module whose
evaluation throws stays: the require that began the evaluation fails, and every later one of the same path
succeeds with what the module had exported by then, without an evaluation.  Only what fails before the
evaluation, a path that leads to no file or to one that cannot be read, leaves no trace and fails again.

What programs do is taken as a tree, as for requires that succeed, but here evaluations may throw, and a
require may be made where its failure is caught.

Main definitions:

* `Module.Course` — what a program or the body of a module does, as far as requires go;
* `Module.Attempt`, `Module.Course.run` — the requires that are made, and whether they return;
* `Module.History` — what is kept by requires, and what becomes of later ones.

Main results:

* `Module.Course.history_run` — every run;
* `Module.failures_kept` — **a module whose evaluation throws stays**.
-/

import NotebookEngine.Proofs.Package.Requires

set_option autoImplicit false

namespace NotebookEngine

namespace Module

/-! ### Programs -/

/-- What a program or the body of a module does, as far as requires go. -/
inductive Course where
  | ends
  | throws
  /-- It requires a specifier, with its own function or with one that belongs to another directory, where a
  failure is caught or not; then come what the body of that module does, if it is evaluated, and what is
  done afterwards, if the require returns or its failure is caught.  The body of a module that is data
  throws if the data cannot be parsed, and else ends. -/
  | require (base? : Option String) (specifier : String) (caught : Bool) (body rest : Course)

/-- A require that was made, and whether it returned. -/
structure Attempt where
  request : Request
  returned : Bool

/-- Whether a module that is data can be parsed. -/
def Course.parses : Course → Bool
  | .throws => false
  | _ => true

/-- The requires that are made, after modules were kept, and whether the end is reached. -/
def Course.run (t : FileTree) : Course → List String → String → List Attempt × Bool
  | .ends, _, _ => ([], true)
  | .throws, _, _ => ([], false)
  | .require base? specifier caught body rest, kept, base =>
    let r := Request.make t kept [] base base? specifier
    let (inner, returned) := match r.answer with
      | .fresh path .script _ => body.run t (kept ++ [path]) (directoryOf path)
      | .fresh _ .json _ => ([], body.parses)
      | .known _ => ([], true)
      | .missing | .unreadable _ => ([], false)
    let log := ⟨r, returned⟩ :: inner
    if returned || caught then
      let (later, ended) := rest.run t (kept ++ loads (log.map Attempt.request)) base
      (log ++ later, ended)
    else (log, false)

/-! ### What becomes of requires -/

/-- A require returns if its module was kept before, and fails if there is no file to be read; a module is
evaluated only if there is one. -/
def Attempt.Fair (t : FileTree) (a : Attempt) : Prop :=
  match a.request.answer with
  | .known _ => a.returned = true
  | .fresh path _ source => a.request.path? t = some path ∧ t.readText path = .ok source
  | .missing | .unreadable _ => a.returned = false

/-- It returns what was kept. -/
def Attempt.Known (a : Attempt) : Prop := a.returned = true ∧ ∃ n, a.request.answer = .known n

/-- What is kept by requires that are made after modules were kept, and what becomes of later ones. -/
structure History (t : FileTree) (kept : List String) (log : List Attempt) : Prop where
  /-- The paths that are kept are those of all requires, whether they return or not. -/
  account : Account t kept (log.map Attempt.request)
  fair : ∀ a ∈ log, a.Fair t
  /-- What was kept is returned. -/
  known : ∀ a ∈ log, ∀ path ∈ kept, a.request.path? t = some path → a.Known
  /-- So is what is kept by an earlier require, even one that failed. -/
  later : log.Pairwise fun a b => ∀ path source, a.request.path? t = some path →
    t.readText path = .ok source → b.request.path? t = some path → b.Known

/-- A path that was kept is answered by its module. -/
theorem answer_make_of_mem {t : FileTree} {kept : List String} (above : List String) {base specifier path : String}
    (base? : Option String) (hpath : (Request.make t kept above base base? specifier).path? t = some path) (hmem : path ∈ kept) :
    ∃ n, (Request.make t kept above base base? specifier).answer = .known n := by
  have hspec := demand_spec t kept.zipIdx (base?.getD base) specifier
  have hresolve : resolve t (base?.getD base) specifier = some path := hpath
  rw [hresolve, List.zipIdx_map_fst] at hspec
  show ∃ n, demand t kept.zipIdx (base?.getD base) specifier = .known n
  cases h : demand t kept.zipIdx (base?.getD base) specifier with
  | missing => rw [h] at hspec; cases hspec
  | known n => exact ⟨n, rfl⟩
  | unreadable message =>
      rw [h] at hspec
      obtain ⟨_, hsame, hnot, -⟩ := hspec
      exact absurd (Option.some.inj hsame ▸ hmem) hnot
  | fresh _ format source =>
      rw [h] at hspec
      obtain ⟨hsame, hnot, -⟩ := hspec
      exact absurd (Option.some.inj hsame ▸ hmem) hnot

namespace History

variable {t : FileTree} {kept : List String}

theorem nil (t : FileTree) (kept : List String) : History t kept [] :=
  ⟨Account.nil t kept, nofun, nofun, .nil⟩

/-- Requires, and further ones after them. -/
theorem append {log log' : List Attempt} (ha : History t kept log)
    (hb : History t (kept ++ loads (log.map Attempt.request)) log') : History t kept (log ++ log') where
  account := by
    rw [List.map_append]
    exact ha.account.append hb.account
  fair := List.forall_mem_append.2 ⟨ha.fair, hb.fair⟩
  known := List.forall_mem_append.2
    ⟨ha.known, fun b hb' path hpath => hb.known b hb' path (List.mem_append_left _ hpath)⟩
  later := by
    refine List.pairwise_append.2 ⟨ha.later, hb.later, ?_⟩
    intro a hmem b hb' path source hpath hread
    refine hb.known b hb' path ?_
    exact ha.account.complete a.request (List.mem_map_of_mem hmem) path source hpath hread

/-- One require. -/
theorem make (t : FileTree) (kept : List String) (base : String) (base? : Option String)
    (specifier : String) {returned : Bool}
    (hfair : Attempt.Fair t ⟨Request.make t kept [] base base? specifier, returned⟩) :
    History t kept [⟨Request.make t kept [] base base? specifier, returned⟩] where
  account := Account.make t kept [] base base? specifier
  fair := List.forall_mem_singleton.2 hfair
  known := by
    refine List.forall_mem_singleton.2 fun path hmem hpath => ?_
    obtain ⟨n, hn⟩ := answer_make_of_mem [] base? hpath hmem
    rw [Attempt.Fair, hn] at hfair
    exact ⟨hfair, n, hn⟩
  later := List.pairwise_singleton _ _

/-- What is kept are the paths that were required and can be read. -/
theorem mem_loads_iff {log : List Attempt} (h : History t [] log) (path : String) :
    path ∈ loads (log.map Attempt.request) ↔
      (∃ a ∈ log, a.request.path? t = some path) ∧ ∃ source, t.readText path = .ok source := by
  constructor
  · intro hmem
    obtain ⟨⟨r, hr, hpath⟩, hread⟩ := h.account.sound path hmem
    obtain ⟨a, ha, rfl⟩ := List.mem_map.1 hr
    exact ⟨⟨a, ha, hpath⟩, hread⟩
  · rintro ⟨⟨a, ha, hpath⟩, source, hread⟩
    exact h.account.complete a.request (List.mem_map_of_mem ha) path source hpath hread

/-- A require of nothing that can be read fails. -/
theorem fails {log : List Attempt} (h : History t [] log) {a : Attempt} (ha : a ∈ log)
    (hunread : ∀ path source, a.request.path? t = some path → t.readText path ≠ .ok source) :
    a.returned = false := by
  have hfair := h.fair a ha
  rw [Attempt.Fair] at hfair
  split at hfair
  next n hn =>
    obtain ⟨path, hpath, hplace⟩ := h.account.known a.request (List.mem_map_of_mem ha) n hn
    obtain ⟨-, source, hread⟩ := (h.mem_loads_iff path).1 (List.mem_of_getElem? hplace)
    exact absurd hread (hunread path source hpath)
  next path format source hfresh => exact absurd hfair.2 (hunread path source hfair.1)
  next => exact hfair
  next => exact hfair

end History

/-- **Every run.** -/
theorem Course.history_run (t : FileTree) (course : Course) (kept : List String) (base : String) :
    History t kept (course.run t kept base).1 := by
  -- By induction on what is done: the require itself, the body of its module, and what comes after.
  induction course generalizing kept base with
  | ends => exact History.nil t kept
  | throws => exact History.nil t kept
  | require base? specifier caught body rest ihBody ihRest =>
      have hanswered := Request.answered_make t kept [] base base? specifier
      have hfirst := fun returned => @History.make t kept base base? specifier returned
      rw [Course.run]
      generalize Request.make t kept [] base base? specifier = r at hanswered hfirst ⊢
      rw [Request.Answered] at hanswered
      have hgoes : ∀ (inner : List Attempt) (returned : Bool), Attempt.Fair t ⟨r, returned⟩ →
          History t (kept ++ loads [r]) inner →
          History t kept (if returned || caught then
              ((⟨r, returned⟩ :: inner) ++ (rest.run t
                (kept ++ loads ((⟨r, returned⟩ :: inner).map Attempt.request)) base).1,
               (rest.run t (kept ++ loads ((⟨r, returned⟩ :: inner).map Attempt.request)) base).2)
            else (⟨r, returned⟩ :: inner, false)).1 := by
        intro inner returned hfair hinner
        have hlog := (hfirst returned hfair).append hinner
        split
        · exact hlog.append (ihRest _ base)
        · exact hlog
      cases ha : r.answer with
      | missing => exact hgoes [] false (by rw [Attempt.Fair, ha]) (History.nil t _)
      | known n => exact hgoes [] true (by rw [Attempt.Fair, ha]) (History.nil t _)
      | unreadable message => exact hgoes [] false (by rw [Attempt.Fair, ha]) (History.nil t _)
      | fresh path format source =>
          have hfair : ∀ returned, Attempt.Fair t ⟨r, returned⟩ := fun returned => by
            rw [ha] at hanswered
            rw [Attempt.Fair, ha]
            exact ⟨hanswered.1, hanswered.2.2⟩
          have hloads : loads [r] = [path] := by simp [loads, Request.loads?, ha]
          rw [hloads] at hgoes
          cases format with
          | json => exact hgoes [] body.parses (hfair _) (History.nil t _)
          | script => exact hgoes _ _ (hfair _) (ihBody (kept ++ [path]) (directoryOf path))

/-- **A module whose evaluation throws stays.**  In every run of a program that requires modules from its
project and from theirs, each path is evaluated at most once, and what is kept are the paths that were
required and can be read, whether their evaluations reached an end, threw, or met a failure that was not
caught.  Every require after one of a path that can be read, with whatever outcome, returns the module that
was kept then.  Only a require of no file, or of one that cannot be read, leaves no trace: it fails, and so
does every other one of the path. -/
theorem failures_kept (t : FileTree) (project : String) (program : Course) :
    let log := (program.run t [] project).1
    let kept := loads (log.map Attempt.request)
    kept.Nodup ∧
    (∀ path, path ∈ kept ↔
      (∃ a ∈ log, a.request.path? t = some path) ∧ ∃ source, t.readText path = .ok source) ∧
    (log.Pairwise fun a b => ∀ path source, a.request.path? t = some path →
      t.readText path = .ok source → b.request.path? t = some path →
        b.returned = true ∧ ∃ n, b.request.answer = .known n ∧ kept[n]? = some path) ∧
    (∀ a ∈ log, (∀ path source, a.request.path? t = some path → t.readText path ≠ .ok source) →
      a.returned = false ∧ ∀ path, a.request.path? t = some path → path ∉ kept) := by
  intro log kept
  have hhistory : History t [] log := program.history_run t [] project
  refine ⟨hhistory.account.nodup List.nodup_nil, hhistory.mem_loads_iff, ?_, ?_⟩
  · refine hhistory.later.imp_of_mem ?_
    intro a b _ hb hlater path source hpath hread hpath'
    obtain ⟨hreturned, n, hn⟩ := hlater path source hpath hread hpath'
    obtain ⟨path', hsame, hplace⟩ := hhistory.account.known b.request (List.mem_map_of_mem hb) n hn
    rw [hpath'] at hsame
    exact ⟨hreturned, n, hn, Option.some.inj hsame ▸ hplace⟩
  · intro a ha hunread
    refine ⟨hhistory.fails ha hunread, fun path hpath hmem => ?_⟩
    obtain ⟨-, source, hread⟩ := (hhistory.mem_loads_iff path).1 hmem
    exact hunread path source hpath hread

/-- A module whose body throws is required with success the second time. -/
example :
    let t : FileTree := .workingIn ["p"] (.directory [("m.js", .file (some ""))])
    let program : Course := .require none "./m" true .throws (.require none "./m" false .throws .ends)
    (program.run t [] ".").1.map Attempt.returned = [false, true] := by
  decide +kernel

end Module

end NotebookEngine
