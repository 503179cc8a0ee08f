/-
**The package that is installed is the package that is looked up.**

The names of packages are read from specifiers twice: once to install what a source text needs, and once to
find the file that a require means.  Both readings give the same name.  So a package that is not reported as
missing has a directory, this is the first directory that a require of it opens, and only what is not found
there is looked for from the directory above.

A second separator behind the name is read as the start of the path inside the package.  Such a path is one
from the root: it leads out of the directory that was opened, and nothing is looked for there although the
package is not missing.

Main results:

* `Package.splitPackage_of_name?` — both readings give the same name;
* `Package.isDirectory_of_not_missing` — a package that is not missing has a directory;
* `Package.resolve_of_named` — **what a specifier of an installed package means**.
-/

import NotebookEngine.Package.Install
import NotebookEngine.Proofs.Files.Ancestors
import NotebookEngine.Proofs.Package.Candidates
import NotebookEngine.Proofs.Package.LineImports

set_option autoImplicit false

namespace NotebookEngine

namespace Package

variable {s p : String}

/-! ### One name -/

/-- What names a package does not begin like a path, and has no mark of a platform module. -/
theorem starts_of_name? (h : name? s = some p) :
    s.startsWith "." = false ∧ s.startsWith "/" = false ∧ s.startsWith "node:" = false := by
  rw [name?] at h
  split at h
  next => cases h
  next hnot =>
    simp only [not_or, Bool.not_eq_true] at hnot
    exact hnot.2

theorem startsWith_mono {a b : String} (hab : a.toList <+: b.toList) (h : s.startsWith a = false) :
    s.startsWith b = false := by
  rw [← Bool.not_eq_true, String.startsWith_string_iff] at h ⊢
  exact fun hstarts => h (hab.trans hstarts)

theorem isPath_of_name? (h : name? s = some p) : Module.isPath s = false := by
  obtain ⟨hdot, hslash, -⟩ := starts_of_name? h
  rw [Module.isPath, startsWith_mono (by decide) hdot, startsWith_mono (by decide) hdot, hslash]
  rfl

theorem withoutScheme_of_name? (h : name? s = some p) : Module.withoutScheme s = s := by
  obtain ⟨-, -, hscheme⟩ := starts_of_name? h
  rw [← Bool.not_eq_true, String.startsWith_string_iff] at hscheme
  rw [Module.withoutScheme]
  split
  next rest hrest =>
    rw [Text.dropStart?_eq_some_iff] at hrest
    exact absurd ⟨rest, hrest.symm⟩ hscheme
  next => rfl

/-- **Both readings of a specifier give the same name.** -/
theorem splitPackage_of_name? (h : name? s = some p) : (Module.splitPackage s).1 = p := by
  rw [name?] at h
  split at h
  next => cases h
  next =>
    obtain ⟨hpackage, -⟩ := Option.filter_eq_some_iff.1 h
    have hwhole := Module.intercalate_splitOnChar s
    -- One reading takes the first parts of the text, the other all of it if there are no more.
    rw [Module.splitPackage]
    cases hsplit : Text.splitOnChar '/' s with
    | nil => rw [hsplit] at hpackage; cases hpackage
    | cons first rest =>
        rw [hsplit] at hpackage hwhole
        cases rest with
        | nil =>
            rw [String.intercalate_singleton] at hwhole
            dsimp only at hpackage ⊢
            split at hpackage
            · cases hpackage
            · cases hpackage
              exact hwhole.symm
        | cons second rest =>
            dsimp only at hpackage ⊢
            split at hpackage
            next hscope =>
              cases hpackage
              rw [if_pos hscope]
              cases rest with
              | nil =>
                  rw [String.intercalate_cons_cons, String.intercalate_singleton] at hwhole
                  exact hwhole.symm
              | cons third rest => rfl
            next hscope =>
              cases hpackage
              rw [if_neg hscope]

/-! ### One directory -/

theorem isInstalled_eq (t : FileTree) (project : String) (h : name? s = some p) :
    isInstalled t project p = t.isFile (Path.below (Module.packageDirectory p project) "package.json") := by
  rw [isInstalled, Path.join_eq_below (by decide +kernel), ← splitPackage_of_name? h, Module.packageDirectory_eq]

/-- A package that is not missing is installed, if a specifier of it is found. -/
theorem isInstalled_of_not_missing {t : FileTree} {project source : String} (h : name? s = some p)
    (hfound : s ∈ Specifier.find source) (hnot : p ∉ missing t project source) :
    isInstalled t project p = true := by
  have hneeded : p ∈ required source := (Specifier.sees_of_mem_find hfound).needed p h
  cases hinstalled : isInstalled t project p with
  | true => rfl
  | false =>
      refine absurd (List.mem_filter.2 ⟨hneeded, ?_⟩) hnot
      rw [hinstalled]
      rfl

/-- A package that is not missing has a directory. -/
theorem isDirectory_of_not_missing {t : FileTree} {project source : String} (h : name? s = some p)
    (hfound : s ∈ Specifier.find source) (hnot : p ∉ missing t project source) :
    t.isDirectory (Module.packageDirectory p project) = true := by
  have hfile := isInstalled_of_not_missing h hfound hnot
  rw [isInstalled_eq t project h] at hfile
  exact FileTree.isDirectory_of_below (Module.packageDirectory_ne_empty p project) (Or.inl hfile)

/-- **The package that is installed is the package that is looked up.**  A specifier that names a package is
no path, and the name is the package that the specifier is split into.  So the directory in which the
package is looked for is the one that is tested for a manifest.  If the specifier is found in a source text
and the package is not missing, then the directory is there, and only what is not found there is looked for
from the directory above.  What is looked for there stands behind the directory, unless two separators
follow the name: then the path inside the package is one from the root, and the files of this path are all
that is looked for, wherever the package is. -/
theorem resolve_of_named (h : name? s = some p) :
    Module.isPath s = false ∧ Module.withoutScheme s = s ∧ (Module.splitPackage s).1 = p ∧
    s = p ++ ((Module.splitPackage s).2.map fun inner => "/" ++ inner).getD "" ∧
    ∀ (t : FileTree) (project : String),
      let directory := Module.packageDirectory p project
      let meaning := Module.packageMeaning Path.join (Module.splitPackage s).2 directory
      Path.join (Path.join project "node_modules") (Module.splitPackage s).1 = directory ∧
      isInstalled t project p = t.isFile (Path.below directory "package.json") ∧
      (s.startsWith (p ++ "//") = false →
        meaning = Module.packageMeaning Path.below (Module.splitPackage s).2 directory) ∧
      ∀ source, s ∈ Specifier.find source → p ∉ missing t project source →
        t.isDirectory directory = true ∧
        Module.resolve t project s = ((meaning.files Path.join t).find? t.isFile).or
          ((Path.parent? project).bind fun above => Module.resolve t above s) ∧
        (s.startsWith (p ++ "//") = true → ∃ inner, s = p ++ "/" ++ inner ∧
          Path.isAbsolute inner = true ∧
          Module.resolve t project s = ((Module.Meaning.path inner).files Path.join t).find? t.isFile) := by
  have hpath := isPath_of_name? h
  have hscheme := withoutScheme_of_name? h
  have hsplit := splitPackage_of_name? h
  have htwo := Module.startsWith_package_iff s
  rw [hsplit] at htwo
  have hwhole : s = p ++ ((Module.splitPackage s).2.map fun inner => "/" ++ inner).getD "" := by
    have hwhole := Module.eq_append_splitPackage s
    rwa [hsplit] at hwhole
  refine ⟨hpath, hscheme, hsplit, hwhole, ?_⟩
  intro t project directory meaning
  have hdirectory : Path.join (Path.join project "node_modules") (Module.splitPackage s).1 = directory := by
    rw [Module.packageDirectory_eq, hsplit]
  refine ⟨hdirectory, isInstalled_eq t project h, ?_, ?_⟩
  · intro hone
    refine Module.packageMeaning_eq_below (fun inner hinner => ?_) directory
    rw [← Bool.not_eq_true] at hone ⊢
    exact fun habsolute => hone (htwo.2 ⟨inner, hinner, habsolute⟩)
  · intro source hfound hnot
    have hthere := isDirectory_of_not_missing h hfound hnot
    refine ⟨hthere, ?_, ?_⟩
    · rw [Module.resolve_up hpath, hscheme, Module.resolvePackage_eq, hsplit, if_pos hthere]
    · intro hstart
      obtain ⟨inner, hinner, habsolute⟩ := htwo.1 hstart
      refine ⟨inner, ?_, habsolute, ?_⟩
      · rw [Option.mem_def.1 hinner, Option.map_some, Option.getD_some, ← String.append_assoc] at hwhole
        exact hwhole
      -- The directory of the package is there, so the path inside it is looked for.
      · have hsome := Module.meanings_ne_nil Path.join hpath (by rw [hscheme, hsplit]; exact hthere)
        rw [← hscheme] at hinner
        rw [Module.resolve_of_isAbsolute hpath hinner habsolute, List.isEmpty_eq_false_iff.2 hsome,
          if_neg Bool.false_ne_true]

/-- An installed package is entered for a path behind one separator, and not for a path behind two. -/
theorem resolve_of_named_deep :
    let t : FileTree := .workingIn ["p"] (.directory [("node_modules", .directory [("lodash", .directory
      [("fp.js", .file (some "")), ("package.json", .file (some "{}"))])])])
    Module.resolve t "/p" "lodash/fp" = some "/p/node_modules/lodash/fp.js" ∧
      "lodash" ∉ missing t "." "require('lodash//fp')" ∧ Module.resolve t "." "lodash//fp" = none ∧
      Module.resolve (t.put ["fp.js"] (.file (some ""))) "." "lodash//fp" = some "/fp.js" := by
  intro t
  obtain ⟨-, -, -, -, hone⟩ := resolve_of_named (s := "lodash/fp") (p := "lodash") (by decide +kernel)
  obtain ⟨-, -, -, hone⟩ := hone t "/p"
  obtain ⟨-, hone, -⟩ := hone "require('lodash/fp')" (by decide +kernel) (by decide +kernel)
  obtain ⟨-, -, -, -, htwo⟩ := resolve_of_named (s := "lodash//fp") (p := "lodash") (by decide +kernel)
  obtain ⟨-, -, -, htwo⟩ := htwo t "."
  have hnot : "lodash" ∉ missing t "." "require('lodash//fp')" := by decide +kernel
  obtain ⟨-, -, htwo⟩ := htwo "require('lodash//fp')" (by decide +kernel) hnot
  obtain ⟨inner, hinner, -, htwo⟩ := htwo (by decide +kernel)
  have hfp : inner = "/fp" := by
    have hsame : "lodash//fp" = "lodash/" ++ inner := hinner
    rw [show "lodash//fp" = "lodash/" ++ "/fp" by decide +kernel] at hsame
    exact (String.append_right_inj _).1 hsame.symm
  refine ⟨?_, hnot, ?_, by decide +kernel⟩
  · rw [hone]
    decide +kernel
  · rw [htwo, hfp]
    decide +kernel

end Package

end NotebookEngine
