/-
**The requires of a running program.**

A running program requires modules by calling a function of the library, which belongs to a directory.
What the call comes to is what a request comes to, where the paths that were loaded before are those of
the program's modules.  A module is kept before its body is run, and the body gets the function of the
directory of its path.

Main definitions:

* `Engine.World.Keeps` — the paths of the modules that a program has loaded.

Main results:

* `Engine.Library.requireModule_shows` — **a require is a request**.
-/

import Mathlib.Data.List.TakeWhile
import NotebookEngine.Engine.Library.Workbench
import NotebookEngine.Proofs.Package.Requires

set_option autoImplicit false

namespace NotebookEngine

namespace Module

/-- What a require comes to, with something else in the place of each module. -/
def Demand.map {α β : Type} (f : α → β) : Demand α → Demand β
  | .missing => .missing
  | .known m => .known (f m)
  | .unreadable message => .unreadable message
  | .fresh path format source => .fresh path format source

/-- What a require comes to depends on the paths of the modules only. -/
theorem demand_map {α β : Type} (f : α → β) (t : FileTree) (loaded : List (String × α))
    (base specifier : String) :
    demand t (loaded.map fun (p, m) => (p, f m)) base specifier = (demand t loaded base specifier).map f := by
  rw [demand, demand]
  cases resolve t base specifier with
  | none => rfl
  | some path =>
      dsimp only
      have hfind : (loaded.map fun (p, m) => (p, f m)).find? (fun (p, _) => p = path) =
          (loaded.find? fun (p, _) => p = path).map fun (p, m) => (p, f m) := by
        rw [List.find?_map]
        rfl
      rw [hfind]
      cases loaded.find? fun (p, _) => p = path with
      | some entry => rfl
      | none =>
          dsimp only [Option.map_none]
          cases load t path <;> rfl

end Module

namespace Engine

/-- The modules of a program are those that were loaded under paths, in this order. -/
def World.Keeps (w : World) (loaded : List String) : Prop := w.bench.modules.map Prod.fst = loaded

namespace Library

open Act

variable {w : World} (r : Answerer)

/-- A text without halves of characters is taken by the host as it is. -/
theorem hostText_eq_pure {s : String} (hs : ∀ c ∈ s.toList, Script.halfUnit? c = none) :
    hostText s = pure s := by
  have hall : s.toList.takeWhile (fun c => (Script.halfUnit? c).isNone) = s.toList := by
    rw [List.takeWhile_eq_self_iff]
    intro c hc
    rw [hs c hc]
    rfl
  rw [hostText, hall, if_pos String.length_toList]

/-- The object of a new module only takes places on the heap. -/
theorem newModule_apply (path : String) (w : World) :
    ∃ m heap, ∀ k, newModule path r w k = k (.ok m) { w with heap } :=
  ⟨_, _, fun _ => rfl⟩

/-- An error that is thrown only takes a place on the heap. -/
theorem throwFault_apply {α : Type} (c : ErrorClass) (message : String) (w : World) :
    ∃ e heap, ∀ k, (throwFault c message : Act α) r w k = k (.error e) { w with heap } :=
  ⟨_, _, fun _ => rfl⟩

/-- What a require comes to for the modules of a program, and for their paths. -/
theorem demand_modules {loaded : List String} (hkeeps : w.Keeps loaded) (base s : String) :
    ∃ d : Module.Demand (Ref × Nat),
      Module.demand w.files w.bench.modules base s = d.map Prod.fst ∧
      Module.demand w.files loaded.zipIdx base s = d.map Prod.snd ∧
      ∀ m n, d = .known (m, n) → ∃ path, w.bench.modules[n]? = some (path, m) := by
  let both : List (String × (Ref × Nat)) :=
    w.bench.modules.zipIdx.map fun ((path, m), n) => (path, (m, n))
  have hmodules : (both.map fun (p, x) => (p, x.1)) = w.bench.modules := by
    simp only [both, List.map_map]
    exact List.zipIdx_map_fst 0 w.bench.modules
  have hpaths : (both.map fun (p, x) => (p, x.2)) = loaded.zipIdx := by
    rw [← hkeeps, List.zipIdx_map]
    simp only [both, List.map_map]
    rfl
  refine ⟨Module.demand w.files both base s, ?_, ?_, ?_⟩
  · rw [← Module.demand_map, hmodules]
  · rw [← Module.demand_map, hpaths]
  · intro m n hknown
    have hspec := Module.demand_spec w.files both base s
    rw [hknown] at hspec
    obtain ⟨path, -, hmem⟩ := hspec
    obtain ⟨⟨⟨p, m'⟩, n'⟩, hentry, heq⟩ := List.mem_map.1 hmem
    cases heq
    exact ⟨path, List.mem_zipIdx_iff_getElem?.1 hentry⟩

/-- What a require does depends on what its specifier means among the modules that were kept. -/
theorem requireModule_of_text (base : String) {s : String}
    (hs : ∀ c ∈ s.toList, Script.halfUnit? c = none) (k : Except Value Value → World → Process) :
    requireModule base (.string s) r w k =
      (match Module.demand w.files w.bench.modules base s with
      | .missing => throwFault .error ("Cannot find module '" ++ s ++ "'")
      | .known m => getText m "exports"
      | .unreadable message => throwFault .error message
      | .fresh path format source => do
        let m ← newModule path
        change fun w => { w with bench := { w.bench with modules := w.bench.modules ++ [(path, m)] } }
        loadModule m path format source : Act Value) r w k := by
  have hdisplay : displayText (.string s) = pure s := rfl
  rw [requireModule, hdisplay]
  simp only [bind, Act.bind, pure, Act.pure]
  rw [hostText_eq_pure hs]
  simp only [pure, Act.pure, Act.read]
  cases Module.demand w.files w.bench.modules base s <;> rfl

/-- **A require is a request.**  It fails if the request finds no file that can be read, and gives the
exports of the module that was loaded before if there is one.  Otherwise the path is kept with a new
module, and then the module is loaded. -/
theorem requireModule_shows {loaded : List String} (hkeeps : w.Keeps loaded) (above : List String)
    (base : String) {s : String} (hs : ∀ c ∈ s.toList, Script.halfUnit? c = none)
    (k : Except Value Value → World → Process) :
    match (Module.Request.make w.files loaded above base none s).answer with
    | .missing | .unreadable _ => ∃ e heap,
        requireModule base (.string s) r w k = k (.error e) { w with heap }
    | .known n => ∃ path m, w.bench.modules[n]? = some (path, m) ∧
        requireModule base (.string s) r w k = getText m "exports" r w k
    | .fresh path format source => ∃ m, ∃ w₁ : World, w₁.Keeps (loaded ++ [path]) ∧ w₁.files = w.files ∧
        requireModule base (.string s) r w k = loadModule m path format source r w₁ k := by
  obtain ⟨d, hmodules, hpaths, hknown⟩ := demand_modules hkeeps base s
  have hanswer : (Module.Request.make w.files loaded above base none s).answer = d.map Prod.snd := hpaths
  rw [hanswer, requireModule_of_text r base hs, hmodules]
  cases d with
  | missing =>
      obtain ⟨e, heap, hthrow⟩ := throwFault_apply r .error ("Cannot find module '" ++ s ++ "'") w
      exact ⟨e, heap, hthrow k⟩
  | unreadable message =>
      obtain ⟨e, heap, hthrow⟩ := throwFault_apply r .error message w
      exact ⟨e, heap, hthrow k⟩
  | known found =>
      obtain ⟨path, hplace⟩ := hknown found.1 found.2 rfl
      exact ⟨path, found.1, hplace, rfl⟩
  | fresh path format source =>
      obtain ⟨m, heap, hnew⟩ := newModule_apply r path w
      have hbind : ∀ f : Ref → Act Value, (newModule path >>= f) r w k = f m r { w with heap } k := by
        intro f
        simp only [bind, Act.bind, hnew]
      refine ⟨m, { w with heap, bench := { w.bench with modules := w.bench.modules ++ [(path, m)] } },
        ?_, rfl, hbind _⟩
      rw [World.Keeps, List.map_append, hkeeps]
      rfl

end Library

end Engine

end NotebookEngine
