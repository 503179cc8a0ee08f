/-
**Specifiers that begin like paths.**

No package is installed for a specifier that begins with a point or a separator.  A require of such a
specifier is mostly one of a path: its candidates begin with the path, or with the entry from the root that
a manifest there names, and what a directory holds does not matter unless one of them leads through it.

Three kinds of such specifiers are no paths for a require: `.` and `..` by themselves, and names that begin
with a point.  They are looked for among the packages, as if they named one, so `.` is the directory of all
packages, and `..` is the directory that holds it.

Main results:

* `Module.resolveFile_put` — a directory that no candidate passes may hold anything;
* `Module.reachedFrom_of_resolveFile`, `Module.reachedFrom_of_resolvePackage` — where the files of a path
  and of a package are;
* `Module.resolve_of_pathlike` — **what a specifier means that begins like a path**.
-/

import NotebookEngine.Proofs.Package.Installed

set_option autoImplicit false

namespace NotebookEngine

/-! ### Deciding what is passed -/

theorem FileTree.passes_iff {t : FileTree} {path : String} {place : List String} : t.Passes path place ↔
    ∃ n < (Text.pieces '/' path.toList).length + 1,
      (t.root.walk (t.start path) ((Text.pieces '/' path.toList).take n)).toOption.any
        (fun next => place.isPrefixOf next.reverse) = true := by
  have hany : ∀ n, (t.root.walk (t.start path) ((Text.pieces '/' path.toList).take n)).toOption.any
        (fun next => place.isPrefixOf next.reverse) = true ↔
      ∃ next, t.root.walk (t.start path) ((Text.pieces '/' path.toList).take n) = .ok next ∧
        place <+: next.reverse := by
    intro n
    cases t.root.walk (t.start path) ((Text.pieces '/' path.toList).take n) with
    | error f => simp [Except.toOption]
    | ok next => simp [Except.toOption]
  simp only [hany]
  constructor
  · rintro ⟨n, next, hn, hstarts⟩
    rcases Nat.lt_or_ge n ((Text.pieces '/' path.toList).length + 1) with hlt | hge
    · exact ⟨n, hlt, next, hn, hstarts⟩
    · refine ⟨(Text.pieces '/' path.toList).length, Nat.lt_succ_self _, next, ?_, hstarts⟩
      rw [List.take_of_length_le (by omega)] at hn
      rwa [List.take_length]
  · rintro ⟨n, -, next, hn, hstarts⟩
    exact ⟨n, next, hn, hstarts⟩

instance (t : FileTree) (path : String) (place : List String) : Decidable (t.Passes path place) :=
  decidable_of_iff _ FileTree.passes_iff.symm

namespace Module

/-! ### Candidates below a path -/

/-- The paths that are looked at for a path: the manifest and the files that it may mean. -/
def looked (t : FileTree) (path : String) : List String :=
  Path.below path "package.json" :: (Meaning.path path).files Path.join t

section Exchange

variable {t : FileTree} {place : List String} {held : List (String × FileNode)}
  (hplace : t.root.at? place = some (.directory held)) (entries : List (String × FileNode))

include hplace

theorem manifestMain_put {path : String} (hnot : ¬ t.Passes (Path.below path "package.json") place) :
    manifestMain (t.put place (.directory entries)) path = manifestMain t path := by
  rw [manifestMain, manifestMain, Path.join_eq_below (by decide +kernel),
    FileTree.readText_put hplace entries hnot]

/-- A directory that no candidate passes may hold anything. -/
theorem resolveFile_put {path : String} (hne : path ≠ "") (hnot : ∀ q ∈ looked t path, ¬ t.Passes q place) :
    resolveFile (t.put place (.directory entries)) path = resolveFile t path := by
  have hmain := manifestMain_put hplace entries (hnot _ List.mem_cons_self)
  have hfiles : (Meaning.path path).files Path.join (t.put place (.directory entries)) =
      (Meaning.path path).files Path.join t := by
    rw [Meaning.files, Meaning.files, directoryFiles, directoryFiles, hmain]
  have hsame : ∀ q ∈ (Meaning.path path).files Path.join t,
      (t.put place (.directory entries)).isFile q = t.isFile q :=
    fun q hq => FileTree.isFile_put hplace entries (hnot q (List.mem_cons_of_mem _ hq))
  rw [resolveFile_eq _ hne, resolveFile_eq _ hne, hfiles, ← List.head?_filter, ← List.head?_filter,
    List.filter_congr hsame]

end Exchange

/-- What a path means is reached from the path. -/
theorem reachedFrom_of_resolveFile {t : FileTree} {path file : String} (h : resolveFile t path = some file) :
    ReachedFrom t path file := reachedFrom_of_mem_fileCandidates (List.mem_of_find?_eq_some h)

/-- What a specifier of a package means is reached from what it stands for in the directory of the package. -/
theorem reachedFrom_of_resolvePackage {t : FileTree} {above s file : String}
    (h : resolvePackage t (Path.join above "node_modules") s = some file) :
    t.isDirectory (packageDirectory (splitPackage s).1 above) = true ∧
      ReachedFrom t (packageMeaning Path.join (splitPackage s).2
        (packageDirectory (splitPackage s).1 above)).place file := by
  rw [resolvePackage] at h
  dsimp only at h
  split at h
  next hdir =>
    rw [packageDirectory_eq] at h hdir
    refine ⟨hdir, ?_⟩
    cases hinner : (splitPackage s).2 with
    | none =>
        rw [hinner] at h
        exact reachedFrom_of_mem_directoryCandidates (List.mem_of_find?_eq_some h)
    | some inner =>
        rw [hinner] at h
        exact reachedFrom_of_resolveFile h
  next => cases h

/-- What a specifier stands for in the directory of its package begins with the directory, or is the path
inside the package if that is one from the root. -/
theorem packageMeaning_cases (inner? : Option String) (directory : String) :
    directory.toList <+: (packageMeaning Path.join inner? directory).place.toList ∨
      ∃ inner ∈ inner?, Path.isAbsolute inner = true ∧
        (packageMeaning Path.join inner? directory).place = inner := by
  cases inner? with
  | none => exact Or.inl List.prefix_rfl
  | some inner =>
      cases habsolute : Path.isAbsolute inner with
      | false => exact Or.inl (isPrefix_join directory habsolute)
      | true =>
          refine Or.inr ⟨inner, rfl, habsolute, ?_⟩
          rw [packageMeaning, Meaning.place, Path.join_eq, if_pos habsolute]

/-! ### Specifiers -/

/-- A specifier that begins like a path but is none for a require. -/
theorem withoutScheme_of_startsWith {s : String} (h : s.startsWith "." = true) : withoutScheme s = s := by
  rw [withoutScheme]
  split
  next rest hrest =>
    rw [Text.dropStart?_eq_some_iff] at hrest
    rw [String.startsWith_string_iff, hrest] at h
    simp at h
  next => rfl

theorem startsWith_of_not_isPath {s : String} (h : s.startsWith "." = true ∨ s.startsWith "/" = true)
    (hnot : isPath s = false) : s.startsWith "." = true := by
  refine h.resolve_right fun hslash => ?_
  rw [isPath, hslash, Bool.or_true] at hnot
  cases hnot

/-- **What a specifier means that begins like a path.**  No package is installed for it.  If it is a path for
a require too, then it means the first file of the path from the directory of the require, which is the
path itself if it begins with a separator.  What it means begins with this path, or with the entry from the
root that the manifest there names; and a directory that no candidate leads to or through may hold anything.
Otherwise it begins with a point, and is looked for as a package: it means nothing if there are no packages,
and what it means is reached from a package directory, unless two separators lead from there to the root. -/
theorem resolve_of_pathlike (t : FileTree) (base s : String)
    (h : s.startsWith "." = true ∨ s.startsWith "/" = true) :
    Package.name? s = none ∧
    (isPath s = true →
      (s.startsWith "/" = true → Path.join base s = s) ∧
      resolve t base s = ((Meaning.path (Path.join base s)).files Path.join t).find? t.isFile ∧
      (∀ file, resolve t base s = some file → (Path.join base s).toList <+: file.toList ∨
        ∃ entry ∈ manifestMain t (Path.join base s), Path.isAbsolute entry = true ∧
          entry.toList <+: file.toList) ∧
      ∀ place held entries, t.root.at? place = some (.directory held) →
        (∀ q ∈ looked t (Path.join base s), ¬ t.Passes q place) →
          resolve (t.put place (.directory entries)) base s = resolve t base s) ∧
    (isPath s = false →
      resolve t base s = (Path.ancestors base).findSome? (fun above =>
        resolvePackage t (Path.join above "node_modules") s) ∧
      ((∀ above ∈ Path.ancestors base, t.isDirectory (Path.join above "node_modules") = false) →
        resolve t base s = none) ∧
      ∀ file, resolve t base s = some file → ∃ above ∈ Path.ancestors base,
        let directory := packageDirectory (splitPackage s).1 above
        t.isDirectory directory = true ∧
        ∃ place, ReachedFrom t place file ∧
          (directory.toList <+: place.toList ∨ place ∈ (splitPackage s).2 ∧ Path.isAbsolute place = true)) := by
  refine ⟨?_, ?_, ?_⟩
  · rw [Package.name?, if_pos]
    rcases h with h | h
    · exact Or.inr (Or.inl h)
    · exact Or.inr (Or.inr (Or.inl h))
  · intro hpath
    have hne : Path.join base s ≠ "" := join_ne_empty (Or.inr (ne_empty_of_isPath hpath))
    have hfile : ∀ t' : FileTree, resolve t' base s = resolveFile t' (Path.join base s) := by
      intro t'
      rw [resolve_eq, if_pos hpath]
    refine ⟨?_, ?_, ?_, ?_⟩
    · intro habsolute
      exact (Path.join_eq base s).trans (if_pos habsolute)
    · rw [hfile, resolveFile_eq t hne]
    · intro file hresolve
      rw [hfile] at hresolve
      exact reachedFrom_of_resolveFile hresolve
    · intro place held entries hplace hnot
      rw [hfile, hfile, resolveFile_put hplace entries hne hnot]
  · intro hpath
    have hlevels : resolve t base s = (Path.ancestors base).findSome? fun above =>
        resolvePackage t (Path.join above "node_modules") s := by
      rw [resolve_eq, if_neg (by rw [hpath]; exact Bool.false_ne_true),
        withoutScheme_of_startsWith (startsWith_of_not_isPath h hpath)]
    refine ⟨hlevels, ?_, ?_⟩
    · intro hnone
      rw [hlevels, List.findSome?_eq_none_iff]
      intro above habove
      rw [← level_eq, hnone above habove]
      rfl
    · intro file hresolve
      rw [hlevels] at hresolve
      obtain ⟨above, habove, hfound⟩ := List.exists_of_findSome?_eq_some hresolve
      obtain ⟨hdirectory, hreached⟩ := reachedFrom_of_resolvePackage hfound
      refine ⟨above, habove, hdirectory, _, hreached, ?_⟩
      rcases packageMeaning_cases (splitPackage s).2 (packageDirectory (splitPackage s).1 above) with
        hstarts | ⟨inner, hinner, habsolute, hplace⟩
      · exact Or.inl hstarts
      · rw [hplace]
        exact Or.inr ⟨hinner, habsolute⟩

/-- A path leaves the packages alone, one from the root too, and a point by itself is taken for one. -/
theorem resolve_of_pathlike_point :
    let t : FileTree := .workingIn ["p"] (.directory [("index.js", .file (some "")),
      ("lib.js", .file (some "")), ("node_modules", .directory [("index.js", .file (some ""))])])
    (∀ entries, resolve (t.put ["p", "node_modules"] (.directory entries)) "." "./lib" = some "././lib.js") ∧
      (∀ entries, resolve (t.put ["p", "node_modules"] (.directory entries)) "." "/p/lib" =
        some "/p/lib.js") ∧
      resolve t "." "." = some "./node_modules/./index.js" ∧
      resolve (t.put ["p", "node_modules"] (.directory [])) "." "." = none := by
  intro t
  obtain ⟨-, hlib, -⟩ := resolve_of_pathlike t "." "./lib" (by decide +kernel)
  obtain ⟨-, -, -, hput⟩ := hlib (by decide +kernel)
  obtain ⟨-, hroot, -⟩ := resolve_of_pathlike t "." "/p/lib" (by decide +kernel)
  obtain ⟨-, -, -, hputRoot⟩ := hroot (by decide +kernel)
  have hplace : t.root.at? ["p", "node_modules"] = some (.directory [("index.js", .file (some ""))]) := rfl
  refine ⟨fun entries => ?_, fun entries => ?_, by decide +kernel, by decide +kernel⟩
  · rw [hput _ _ entries hplace (by decide +kernel)]
    decide +kernel
  · rw [hputRoot _ _ entries hplace (by decide +kernel)]
    decide +kernel

end Module

end NotebookEngine
