/-
**Modules that fail are required again.**

A module is kept before it is loaded, and it stays when its loading throws: the require fails, and every
later one of the path gives what the module exports by then, without looking at its file again.  A module
that is data has not exported anything when its text turns out not to be data, so that what is given is the
empty object that every module begins with.

Main results:

* `Engine.Library.requireModule_kept` — what is required of a path that was kept;
* `Engine.Library.requireModule_failed` — **a module that fails is required with success the second time**;
* `Engine.Library.requireModule_unparsed` — so is data that cannot be parsed.
-/

import NotebookEngine.Proofs.Engine.HeapData
import NotebookEngine.Proofs.Engine.ModuleRequests

set_option autoImplicit false

namespace NotebookEngine

namespace Module

/-- What a path that was kept comes to. -/
theorem demand_eq_known {α : Type} {t : FileTree} {loaded : List (String × α)} {base specifier path : String}
    {m : α} (hpath : resolve t base specifier = some path)
    (hfind : (loaded.find? fun (p, _) => p = path) = some (path, m)) :
    demand t loaded base specifier = .known m := by
  rw [demand, hpath]
  dsimp only
  rw [hfind]

/-- A path that was not kept before is found where it is kept. -/
theorem find?_kept {α : Type} {loaded : List (String × α)} {path : String} (hnot : path ∉ loaded.map Prod.fst)
    (m : α) (later : List (String × α)) :
    ((loaded ++ [(path, m)] ++ later).find? fun (p, _) => p = path) = some (path, m) := by
  have hnone : (loaded.find? fun (p, _) => p = path) = none := by
    refine List.find?_eq_none.2 fun entry hmem heq => hnot ?_
    exact of_decide_eq_true heq ▸ List.mem_map_of_mem hmem
  rw [List.append_assoc, List.find?_append, hnone]
  simp

end Module

namespace Engine

namespace Library

open Act

variable {w : World} (r : Answerer)

/-- The state in which a new module has been kept: the last two objects are what it exports and itself. -/
structure Kept (w : World) (path : String) (w₁ : World) : Prop where
  size : w₁.heap.size = w.heap.size + 2
  files : w₁.files = w.files
  modules : w₁.bench.modules = w.bench.modules ++ [(path, w.heap.size + 1)]
  empty : w₁.object w.heap.size = blank
  exports : w₁.Reads (w.heap.size + 1) (.text "exports") (.object w.heap.size)

/-- A new module is kept. -/
theorem ends_newModule (path : String) (w : World) :
    ∃ w₀ : World, (newModule path).Ends r w (.ok (w.heap.size + 1)) w₀ ∧ Kept w path
      { w₀ with bench := { w₀.bench with modules := w₀.bench.modules ++ [(path, w.heap.size + 1)] } } := by
  let o : Object := { blank with
    properties :=
      #[(.text "exports", .plain (.object w.heap.size)), (.text "id", .plain (.string path)),
        (.text "filename", .plain (.string path)), (.text "loaded", .plain (.bool false))] }
  have hput : (((blank.putNamed (.text "exports") (.plain (.object w.heap.size))).putNamed (.text "id")
      (.plain (.string path))).putNamed (.text "filename") (.plain (.string path))).putNamed
        (.text "loaded") (.plain (.bool false)) = o := by
    simp [o, Object.putNamed, Object.placeOf?, blank, Object.make, List.findIdx?_cons]
  have hsize := w.heap_size_push blank
  have hnew : (newModule path).Ends r w (.ok (w.heap.size + 1)) ((w.push blank).push o) := by
    refine ends_newPlain.bind (ends_newPlain.bind ?_)
    rw [hsize]
    refine Ends.bind (ends_modifyObject _ _) ?_
    rw [← hsize, World.modify_push_self, hput]
    exact ends_pure _
  have hmodule : ((w.push blank).push o).object (w.heap.size + 1) = o := by
    rw [← hsize]
    exact (w.push blank).object_push_self o
  have hlt : w.heap.size < (w.push blank).heap.size := by rw [hsize]; omega
  have hall : ((w.push blank).push o).heap.size = w.heap.size + 2 := by rw [World.heap_size_push, hsize]
  have hempty : ((w.push blank).push o).object w.heap.size = blank := by
    rw [World.object_push_of_lt hlt]
    exact w.object_push_self blank
  have hdirect : o.Direct := ⟨nofun, nofun⟩
  have hown : o.own? (.text "exports") = some (.plain (.object w.heap.size)) := by
    simp [o, Object.own?, Object.named?, Object.placeOf?, blank, Object.make, List.findIdx?_cons]
  have hreads : ((w.push blank).push o).Reads (w.heap.size + 1) (.text "exports") (.object w.heap.size) :=
    .own (hall ▸ Nat.lt_succ_self _) (hmodule.symm ▸ hdirect) (hmodule.symm ▸ hown) rfl
  exact ⟨_, hnew, hall, rfl, rfl, hempty, hreads.extend ⟨Nat.le_refl _, fun _ _ => rfl⟩⟩

/-- What is required of a path that was kept: what its module exports. -/
theorem requireModule_kept {base s path : String} {m : Ref} {v : Value}
    (hs : ∀ c ∈ s.toList, Script.halfUnit? c = none) (hpath : Module.resolve w.files base s = some path)
    (hfind : (w.bench.modules.find? fun (p, _) => p = path) = some (path, m))
    (hexports : w.Reads m (.text "exports") v) :
    (requireModule base (.string s)).Ends r w (.ok v) w := by
  intro k
  rw [requireModule_of_text r base hs, Module.demand_eq_known hpath hfind]
  exact hexports.ends r _ k

/-- **A module that fails is required with success the second time.**  Where a path is required the first
time, its module is kept before it is loaded.  If the loading throws, with other modules loaded meanwhile or
not, the require fails; and every later require that leads to the path, from any directory, gives what the
module exports then, and changes nothing. -/
theorem requireModule_failed {base s path source : String} {format : Module.Format}
    (hs : ∀ c ∈ s.toList, Script.halfUnit? c = none)
    (hfresh : Module.demand w.files w.bench.modules base s = .fresh path format source) :
    ∃ w₁, Kept w path w₁ ∧ ∀ e w' later v,
      (loadModule (w.heap.size + 1) path format source).Ends r w₁ (.error e) w' → w'.files = w.files →
      w'.bench.modules = w₁.bench.modules ++ later → w'.Reads (w.heap.size + 1) (.text "exports") v →
      (requireModule base (.string s)).Ends r w (.error e) w' ∧
        ∀ base' s', (∀ c ∈ s'.toList, Script.halfUnit? c = none) →
          Module.resolve w.files base' s' = some path →
            (requireModule base' (.string s')).Ends r w' (.ok v) w' := by
  obtain ⟨w₀, hnew, hkept⟩ := ends_newModule r path w
  have hspec := Module.demand_spec w.files w.bench.modules base s
  rw [hfresh] at hspec
  obtain ⟨-, hnot, -⟩ := hspec
  -- Nothing takes the module away again, so it is still found behind those that were kept before.
  refine ⟨_, hkept, fun e w' later v hload hfiles hmodules hexports => ⟨?_, ?_⟩⟩
  · intro k
    rw [requireModule_of_text r base hs, hfresh]
    exact hnew.bind ((ends_change _).bind hload) k
  · intro base' s' hs' hpath
    refine requireModule_kept r (m := w.heap.size + 1) hs' (hfiles ▸ hpath) ?_ hexports
    rw [hmodules, hkept.modules]
    exact Module.find?_kept hnot _ later

/-- Data that cannot be parsed is required with success the second time: what is given is an empty object. -/
theorem requireModule_unparsed {base s path source message : String}
    (hs : ∀ c ∈ s.toList, Script.halfUnit? c = none)
    (hfresh : Module.demand w.files w.bench.modules base s = .fresh path .json source)
    (hparse : readJson source = .error message) :
    ∃ e w' x, (requireModule base (.string s)).Ends r w (.error e) w' ∧ w'.object x = blank ∧
      ∀ base' s', (∀ c ∈ s'.toList, Script.halfUnit? c = none) →
        Module.resolve w.files base' s' = some path →
          (requireModule base' (.string s')).Ends r w' (.ok (.object x)) w' := by
  obtain ⟨w₁, hkept, hfailed⟩ := requireModule_failed r hs hfresh
  let fault : Object :=
    { Object.make (some ErrorClass.syntaxError.proto.ref) .error with
      properties := #[(.text "message", .method (.string message)),
        (.text "stack", .method (.string (w₁.trace 0)))] }
  have hthrow : (parseJson source).Ends r w₁ (.error (.object w₁.heap.size)) (w₁.push fault) := by
    rw [parseJson, hparse]
    exact fun k => .here _
  have hextends : w₁.Extends (w₁.push fault) :=
    ⟨by rw [World.heap_size_push]; omega, fun ref href => World.object_push_of_lt href fault⟩
  obtain ⟨hfirst, hlater⟩ := hfailed (.object w₁.heap.size) (w₁.push fault) [] _ (hthrow.bind_error _)
    hkept.files (List.append_nil _).symm (hkept.exports.extend hextends)
  refine ⟨_, _, w.heap.size, hfirst, ?_, hlater⟩
  rw [hextends.2 _ (by rw [hkept.size]; omega), hkept.empty]

end Library

end Engine

end NotebookEngine
