/-
**One list of candidates for every specifier.**

Resolving a specifier goes through several functions, each with its own candidates, its own questions about
directories and its own early answers.  All of them together look for the first file of one list.  The
questions about directories only save work: nothing is found below what is no directory.

The parts of a candidate are joined, and a part that begins with a separator replaces what it is joined to.
So a path inside a package that begins with a separator, or such an entry of a manifest, leads out of the
directory that it belongs to, to the root.  As long as there is none, the list is the one in which every
part is put behind the directory that it belongs to.

Main definitions:

* `Module.Meaning`, `Module.Meaning.files` — what a specifier may stand for, and the files of that;
* `Module.meanings`, `Module.listing` — all that a specifier may stand for, and the files of all of it.

Main results:

* `Module.eq_append_splitPackage` — a package and the path inside it make the specifier;
* `Module.resolveFile_eq`, `Module.resolvePackage_eq` — what single functions look for;
* `Module.resolve_eq_first` — **a specifier means the first file of its list**.
-/

import NotebookEngine.Package.Resolve
import NotebookEngine.Proofs.Files.Ancestors
import NotebookEngine.Proofs.Files.Walks
import NotebookEngine.Proofs.Package.Requires

set_option autoImplicit false

namespace NotebookEngine

namespace Module

/-! ### Packages and the paths inside them -/

theorem intercalate_splitOnChar (s : String) : "/".intercalate (Text.splitOnChar '/' s) = s := by
  refine String.toList_injective ?_
  rw [String.toList_intercalate, Text.splitOnChar, List.map_map]
  have hsame : String.toList ∘ String.ofList = id := funext fun cs => String.toList_ofList
  rw [hsame, List.map_id]
  exact Text.intercalate_pieces '/' s.toList

/-- The package and the path inside it make the specifier. -/
theorem eq_append_splitPackage (s : String) :
    s = (splitPackage s).1 ++ ((splitPackage s).2.map fun inner => "/" ++ inner).getD "" := by
  have hwhole := intercalate_splitOnChar s
  rw [splitPackage]
  split
  next first second rest hsplit =>
    rw [hsplit, String.intercalate_cons_cons] at hwhole
    split
    · split
      · simp
      next hrest =>
        rw [String.intercalate_cons_of_ne_nil hrest] at hwhole
        simp only [Option.map_some, Option.getD_some, ← hwhole, String.append_assoc]
    · simp only [Option.map_some, Option.getD_some, ← hwhole, String.append_assoc]
  next => simp

/-- What begins with a text without separators begins with no separator. -/
theorem isAbsolute_append {p q : String} (hp : '/' ∉ p.toList) (h : p ≠ "" ∨ q = "") :
    Path.isAbsolute (p ++ q) = false := by
  rw [← Bool.not_eq_true, Path.isAbsolute_iff, String.toList_append]
  intro hstarts
  cases hcs : p.toList with
  | nil =>
      have hq : q = "" := h.resolve_left fun hne => hne (String.toList_injective hcs)
      rw [hcs, hq] at hstarts
      simp at hstarts
  | cons c cs =>
      rw [hcs, List.cons_append, List.cons_prefix_cons] at hstarts
      rw [hcs, ← hstarts.1] at hp
      exact hp List.mem_cons_self

/-- A package is no path from nowhere. -/
theorem isAbsolute_package (s : String) : Path.isAbsolute (splitPackage s).1 = false := by
  have hwhole := intercalate_splitOnChar s
  rw [splitPackage]
  split
  next first second rest hsplit =>
    have hfirst : '/' ∉ first.toList := by
      refine Text.not_mem_splitOnChar (s := s) ?_
      rw [hsplit]
      exact List.mem_cons_self
    split
    next hscope =>
      have hne : first ≠ "" := by
        rintro rfl
        simp at hscope
      split
      · rw [hsplit, String.intercalate_cons_cons, String.append_assoc] at hwhole
        rw [← hwhole]
        exact isAbsolute_append hfirst (Or.inl hne)
      · rw [String.append_assoc]
        exact isAbsolute_append hfirst (Or.inl hne)
    next =>
      have h := isAbsolute_append (q := "") hfirst (Or.inr rfl)
      rwa [String.append_empty] at h
  next hsingle =>
    have hs : '/' ∉ s.toList := by
      intro hmem
      have hmany : 2 ≤ (Text.splitOnChar '/' s).length := by
        rw [Text.length_splitOnChar]
        exact Nat.succ_le_succ (List.count_pos_iff.2 hmem)
      match hsplit : Text.splitOnChar '/' s, hmany with
      | first :: second :: rest, _ => exact hsingle first second rest hsplit
    have h := isAbsolute_append (q := "") hs (Or.inr rfl)
    rwa [String.append_empty] at h

/-- The path inside a package begins with a separator if two follow the package. -/
theorem startsWith_package_iff (s : String) : s.startsWith ((splitPackage s).1 ++ "//") = true ↔
    ∃ inner ∈ (splitPackage s).2, Path.isAbsolute inner = true := by
  have hwhole := eq_append_splitPackage s
  generalize splitPackage s = parts at hwhole
  obtain ⟨package, inner?⟩ := parts
  rw [String.startsWith_string_iff, hwhole]
  cases inner? with
  | none =>
      constructor
      · intro hstarts
        have hlength := hstarts.length_le
        simp only [Option.map_none, Option.getD_none, String.append_empty, String.toList_append,
          List.length_append] at hlength
        have htwo : "//".toList.length = 2 := rfl
        omega
      · rintro ⟨inner, hinner, -⟩
        cases hinner
  | some inner =>
      have hiff : (package ++ "//").toList <+: (package ++ ("/" ++ inner)).toList ↔
          Path.isAbsolute inner = true := by
        rw [Path.isAbsolute_iff, String.toList_append, String.toList_append, List.prefix_append_right_inj,
          String.toList_append]
        exact List.cons_prefix_cons.trans (and_iff_right rfl)
      simpa using hiff

/-! ### The list -/

/-- What a specifier may stand for. -/
inductive Meaning where
  /-- A path, which is tried as a file and then as a directory. -/
  | path (p : String)
  /-- The directory of a package. -/
  | package (directory : String)
  deriving DecidableEq

/-- The path that is meant. -/
def Meaning.place : Meaning → String
  | .path p => p
  | .package directory => directory

/-- The files that a directory stands for: the entry that its manifest names, and its index file.  How the
entry is put to the directory is left open. -/
def directoryFiles (put : String → String → String) (t : FileTree) (directory : String) : List String :=
  ((manifestMain t directory).map fun entry => entryCandidates (put directory entry)).getD [] ++
    [Path.below directory "index.js"]

/-- The files of what a specifier may stand for. -/
def Meaning.files (put : String → String → String) (t : FileTree) : Meaning → List String
  | .path p => (p :: extensions.map fun e => p ++ "." ++ e) ++ directoryFiles put t p
  | .package directory => directoryFiles put t directory

/-- The directory of a package that is installed for a directory. -/
def packageDirectory (package above : String) : String :=
  Path.below (Path.below above "node_modules") package

/-- What a specifier of a package may stand for, if the package has the given directory. -/
def packageMeaning (put : String → String → String) (inner? : Option String) (directory : String) : Meaning :=
  match inner? with
  | some inner => .path (put directory inner)
  | none => .package directory

/-- All that a specifier may stand for, the nearest first: a path by itself, and otherwise what is meant in
the directory of the package for the directory of the require and for those above it. -/
def meanings (put : String → String → String) (t : FileTree) (base specifier : String) : List Meaning :=
  if isPath specifier then [.path (Path.join base specifier)]
  else
    let parts := splitPackage (withoutScheme specifier)
    (((Path.ancestors base).map (packageDirectory parts.1)).filter t.isDirectory).map
      (packageMeaning put parts.2)

/-- The files of all that a specifier may stand for. -/
def listing (put : String → String → String) (t : FileTree) (base specifier : String) : List String :=
  (meanings put t base specifier).flatMap (Meaning.files put t)

/-! ### What single functions look for -/

theorem join_index (directory : String) : Path.join directory "index.js" = Path.below directory "index.js" :=
  Path.join_eq_below (by decide +kernel) directory

theorem directoryCandidates_eq (t : FileTree) (directory : String) :
    directoryCandidates t directory = directoryFiles Path.join t directory := by
  rw [directoryCandidates, directoryFiles, join_index]
  cases manifestMain t directory <;> rfl

/-- What is no directory stands for no file. -/
theorem find?_directoryFiles {t : FileTree} {directory : String} (hne : directory ≠ "")
    (hnot : t.isDirectory directory = false) (put : String → String → String) :
    (directoryFiles put t directory).find? t.isFile = none := by
  -- The manifest and the index file both stand below the directory.
  have hmain : manifestMain t directory = none := by
    rw [manifestMain]
    split
    next => rfl
    next text hread =>
      rw [Path.join_eq_below (by decide +kernel)] at hread
      have hfile : t.isFile (Path.below directory "package.json") = true :=
        FileTree.isFile_iff.2 ⟨_, FileTree.readText_eq_ok_iff.1 hread⟩
      rw [FileTree.isDirectory_of_below hne (Or.inl hfile)] at hnot
      cases hnot
  have hindex : t.isFile (Path.below directory "index.js") = false := by
    rw [← Bool.not_eq_true]
    intro hfile
    rw [FileTree.isDirectory_of_below hne (Or.inl hfile)] at hnot
    cases hnot
  rw [directoryFiles, hmain]
  simp [hindex]

/-- A path means the first of its files, whether or not it is a directory. -/
theorem resolveFile_eq (t : FileTree) {path : String} (hne : path ≠ "") :
    resolveFile t path = ((Meaning.path path).files Path.join t).find? t.isFile := by
  rw [resolveFile, fileCandidates, Meaning.files, List.find?_append, List.find?_append]
  split
  next => rw [directoryCandidates_eq]
  next hnot => rw [find?_directoryFiles hne (by simpa using hnot), List.find?_nil]

/-- What is joined to a path, or replaces it, is not empty unless both are. -/
theorem join_ne_empty {base p : String} (h : base ≠ "" ∨ p ≠ "") : Path.join base p ≠ "" := by
  rw [Path.join_eq]
  split
  next habsolute =>
    rintro rfl
    exact absurd habsolute (by decide +kernel)
  next => exact Path.below_ne_empty h

theorem modules_eq (above : String) : Path.join above "node_modules" = Path.below above "node_modules" :=
  Path.join_eq_below (by decide +kernel) above

theorem modules_ne_empty (above : String) : Path.below above "node_modules" ≠ "" :=
  Path.below_ne_empty (Or.inr (by decide))

theorem packageDirectory_eq (s above : String) :
    Path.join (Path.join above "node_modules") (splitPackage s).1 = packageDirectory (splitPackage s).1 above := by
  rw [modules_eq, Path.join_eq_below (isAbsolute_package s), packageDirectory]

theorem packageDirectory_ne_empty (package above : String) : packageDirectory package above ≠ "" :=
  Path.below_ne_empty (Or.inl (modules_ne_empty above))

/-- Where a package has a directory, there is a directory of packages. -/
theorem isDirectory_modules {t : FileTree} {package above : String}
    (h : t.isDirectory (packageDirectory package above) = true) :
    t.isDirectory (Path.below above "node_modules") = true :=
  FileTree.isDirectory_of_below (modules_ne_empty above) (Or.inr h)

/-- A specifier of a package means the first file of what it stands for in the directory of the package. -/
theorem resolvePackage_eq (t : FileTree) (above s : String) :
    resolvePackage t (Path.join above "node_modules") s =
      if t.isDirectory (packageDirectory (splitPackage s).1 above) then
        ((packageMeaning Path.join (splitPackage s).2 (packageDirectory (splitPackage s).1 above)).files
          Path.join t).find? t.isFile
      else none := by
  rw [← packageDirectory_eq, resolvePackage]
  dsimp only
  split
  next =>
    rw [packageDirectory_eq]
    cases (splitPackage s).2 with
    | some inner => exact resolveFile_eq t (join_ne_empty (Or.inl (packageDirectory_ne_empty _ above)))
    | none => rw [resolveDirectory, directoryCandidates_eq]; rfl
  next => rfl

/-- What a specifier of a package means for one directory: the question whether it has packages at all saves
work only. -/
theorem level_eq (t : FileTree) (above s : String) :
    (if t.isDirectory (Path.join above "node_modules") then resolvePackage t (Path.join above "node_modules") s
      else none) = resolvePackage t (Path.join above "node_modules") s := by
  split
  next => rfl
  next hnot =>
    rw [resolvePackage_eq, if_neg]
    intro h
    rw [modules_eq] at hnot
    exact hnot (isDirectory_modules h)

/-- What a specifier of a package means is found in the nearest of the directories in which it means a file. -/
theorem findSome?_resolvePackage (t : FileTree) (s : String) (above : List String) :
    (above.findSome? fun directory => resolvePackage t (Path.join directory "node_modules") s) =
      ((((above.map (packageDirectory (splitPackage s).1)).filter t.isDirectory).map
        (packageMeaning Path.join (splitPackage s).2)).flatMap (Meaning.files Path.join t)).find? t.isFile := by
  -- By induction on the directories: where nothing is found, the next one is asked.
  induction above with
  | nil => rfl
  | cons directory above ih =>
      rw [List.findSome?_cons, resolvePackage_eq, List.map_cons]
      cases hdir : t.isDirectory (packageDirectory (splitPackage s).1 directory) with
      | true =>
          rw [List.filter_cons_of_pos hdir, List.map_cons, List.flatMap_cons, List.find?_append, ← ih,
            if_pos rfl]
          cases ((packageMeaning Path.join (splitPackage s).2
            (packageDirectory (splitPackage s).1 directory)).files Path.join t).find? t.isFile <;> rfl
      | false =>
          rw [List.filter_cons_of_neg (by rw [hdir]; exact Bool.false_ne_true), ← ih, if_neg Bool.false_ne_true]

/-- What a specifier means, level by level. -/
theorem resolve_eq (t : FileTree) (base specifier : String) :
    resolve t base specifier =
      if isPath specifier then resolveFile t (Path.join base specifier)
      else (Path.ancestors base).findSome? fun above =>
        resolvePackage t (Path.join above "node_modules") (withoutScheme specifier) := by
  rw [resolve]
  split
  next => rfl
  next =>
    dsimp only
    simp only [level_eq]

/-- What is not found in the packages for a directory is what the specifier means from the directory above. -/
theorem resolve_up {specifier : String} (h : isPath specifier = false) (t : FileTree) (base : String) :
    resolve t base specifier =
      (resolvePackage t (Path.join base "node_modules") (withoutScheme specifier)).or
        ((Path.parent? base).bind fun above => resolve t above specifier) := by
  have hnot : ¬ isPath specifier = true := by
    rw [h]
    exact Bool.false_ne_true
  simp only [resolve_eq, if_neg hnot]
  rw [Path.ancestors_eq, List.findSome?_cons]
  cases resolvePackage t (Path.join base "node_modules") (withoutScheme specifier) with
  | some file => rfl
  | none => cases Path.parent? base <;> rfl

theorem ne_empty_of_isPath {specifier : String} (h : isPath specifier = true) : specifier ≠ "" := by
  rintro rfl
  exact absurd h (by decide +kernel)

theorem resolve_eq_find? (t : FileTree) (base specifier : String) :
    resolve t base specifier = (listing Path.join t base specifier).find? t.isFile := by
  rw [resolve_eq, listing, meanings]
  split
  next h =>
    rw [List.flatMap_singleton]
    exact resolveFile_eq t (join_ne_empty (Or.inr (ne_empty_of_isPath h)))
  next => exact findSome?_resolvePackage t (withoutScheme specifier) (Path.ancestors base)

/-! ### Staying inside -/

/-- No part of a candidate leads out of the directory that it belongs to. -/
structure StaysInside (t : FileTree) (base specifier : String) : Prop where
  /-- The path inside the package begins with no separator. -/
  inner : isPath specifier = false → ∀ inner ∈ (splitPackage (withoutScheme specifier)).2,
    Path.isAbsolute inner = false
  /-- The entry of no manifest that is looked at does. -/
  entry : ∀ m ∈ meanings Path.below t base specifier, ∀ entry ∈ manifestMain t m.place,
    Path.isAbsolute entry = false

theorem packageMeaning_eq_below {inner? : Option String} (h : ∀ inner ∈ inner?, Path.isAbsolute inner = false)
    (directory : String) :
    packageMeaning Path.join inner? directory = packageMeaning Path.below inner? directory := by
  cases inner? with
  | none => rfl
  | some inner => rw [packageMeaning, packageMeaning, Path.join_eq_below (h inner rfl)]

theorem directoryFiles_eq_below {t : FileTree} {directory : String}
    (h : ∀ entry ∈ manifestMain t directory, Path.isAbsolute entry = false) :
    directoryFiles Path.join t directory = directoryFiles Path.below t directory := by
  rw [directoryFiles, directoryFiles]
  cases hmain : manifestMain t directory with
  | none => rfl
  | some entry => rw [Option.map_some, Option.map_some, Path.join_eq_below (h entry hmain)]

theorem files_eq_below {t : FileTree} {m : Meaning}
    (h : ∀ entry ∈ manifestMain t m.place, Path.isAbsolute entry = false) :
    m.files Path.join t = m.files Path.below t := by
  cases m with
  | path p =>
      have hsame : directoryFiles Path.join t p = directoryFiles Path.below t p := directoryFiles_eq_below h
      rw [Meaning.files, Meaning.files, hsame]
  | package directory => exact directoryFiles_eq_below h

theorem StaysInside.meanings_eq {t : FileTree} {base specifier : String} (h : StaysInside t base specifier) :
    meanings Path.join t base specifier = meanings Path.below t base specifier := by
  rw [meanings, meanings]
  split
  next => rfl
  next hnot =>
    refine List.map_congr_left fun directory _ => ?_
    exact packageMeaning_eq_below (h.inner (by simpa using hnot)) directory

theorem StaysInside.listing_eq {t : FileTree} {base specifier : String} (h : StaysInside t base specifier) :
    listing Path.join t base specifier = listing Path.below t base specifier := by
  rw [listing, listing, h.meanings_eq, List.flatMap_def, List.flatMap_def]
  exact congrArg List.flatten (List.map_congr_left fun m hm => files_eq_below (h.entry m hm))

/-! ### Leading out -/

/-- A package that has a directory for the directory of the require gives a meaning. -/
theorem meanings_ne_nil (put : String → String → String) {t : FileTree} {base specifier : String}
    (hpath : isPath specifier = false)
    (hthere : t.isDirectory (packageDirectory (splitPackage (withoutScheme specifier)).1 base) = true) :
    meanings put t base specifier ≠ [] := by
  rw [meanings, if_neg (by rw [hpath]; exact Bool.false_ne_true), Path.ancestors_eq]
  dsimp only
  rw [List.map_cons, List.filter_cons_of_pos hthere, List.map_cons]
  exact List.cons_ne_nil _ _

section LeadingOut

variable {t : FileTree} {base specifier inner : String} (hpath : isPath specifier = false)
  (hinner : inner ∈ (splitPackage (withoutScheme specifier)).2) (habsolute : Path.isAbsolute inner = true)

include hpath hinner habsolute

/-- A path inside a package that begins with a separator replaces the directory of the package. -/
theorem eq_path_of_mem_meanings {m : Meaning} (hm : m ∈ meanings Path.join t base specifier) :
    m = .path inner := by
  rw [meanings, if_neg (by rw [hpath]; exact Bool.false_ne_true)] at hm
  obtain ⟨directory, -, rfl⟩ := List.mem_map.1 hm
  rw [Option.mem_def.1 hinner, packageMeaning, Path.join_eq, if_pos habsolute]

/-- So it means the file that it would mean by itself, if there is any package directory for it to
replace. -/
theorem resolve_of_isAbsolute :
    resolve t base specifier =
      if (meanings Path.join t base specifier).isEmpty then none
      else ((Meaning.path inner).files Path.join t).find? t.isFile := by
  have hall : ∀ m ∈ meanings Path.join t base specifier, m = .path inner :=
    fun m hm => eq_path_of_mem_meanings hpath hinner habsolute hm
  rw [resolve_eq_find?, listing]
  generalize meanings Path.join t base specifier = ms at hall
  -- Every meaning has the same files, so those of the first decide.
  induction ms with
  | nil => rfl
  | cons m ms ih =>
      rw [List.forall_mem_cons] at hall
      rw [List.flatMap_cons, List.find?_append, ih hall.2, hall.1, List.isEmpty_cons,
        if_neg Bool.false_ne_true]
      cases ((Meaning.path inner).files Path.join t).find? t.isFile with
      | some file => rfl
      | none => split <;> rfl

end LeadingOut

/-- **A specifier means the first file of its list**, and nothing exactly if the list has no file.  The list
is the one in which everything stands behind the directory that it belongs to, if no part of it leads out of
that directory.  A path inside a package leads out of it if it begins with a separator.  Then it is a path
from the root, and the files of this path are all that is looked for, if there is a directory of the package
at all; what the directory holds does not matter. -/
theorem resolve_eq_first (t : FileTree) (base specifier : String) :
    resolve t base specifier = (listing Path.join t base specifier).find? t.isFile ∧
    (resolve t base specifier = none ↔ ∀ path ∈ listing Path.join t base specifier, t.isFile path = false) ∧
    (StaysInside t base specifier →
      resolve t base specifier = (listing Path.below t base specifier).find? t.isFile) ∧
    (isPath specifier = false → ∀ inner ∈ (splitPackage (withoutScheme specifier)).2,
      Path.isAbsolute inner = true →
        (∀ m ∈ meanings Path.join t base specifier, m = .path inner) ∧
        resolve t base specifier =
          if (meanings Path.join t base specifier).isEmpty then none
          else ((Meaning.path inner).files Path.join t).find? t.isFile) := by
  have hfirst := resolve_eq_find? t base specifier
  refine ⟨hfirst, ?_, ?_, ?_⟩
  · rw [hfirst, List.find?_eq_none]
    simp only [Bool.not_eq_true]
  · intro hstays
    rw [hfirst, hstays.listing_eq]
  · intro hpath inner hinner habsolute
    exact ⟨fun m hm => eq_path_of_mem_meanings hpath hinner habsolute hm,
      resolve_of_isAbsolute hpath hinner habsolute⟩

/-- One separator leads into a package, two lead to the root. -/
theorem resolve_eq_first_of_deep :
    let t : FileTree := .workingIn ["p"] (.directory [("node_modules", .directory [("lodash", .directory
      [("fp.js", .file (some "")), ("package.json", .file (some "{}"))])])])
    StaysInside t "/p" "lodash/fp" ∧
      resolve t "/p" "lodash/fp" = (listing Path.below t "/p" "lodash/fp").find? t.isFile ∧
      resolve t "/p" "lodash/fp" = some "/p/node_modules/lodash/fp.js" ∧
      resolve t "/p" "lodash//fp" = none ∧
      resolve (t.put ["fp.js"] (.file (some ""))) "/p" "lodash//fp" = some "/fp.js" ∧
      (listing Path.below t "/p" "lodash//fp").find? t.isFile = some "/p/node_modules/lodash//fp.js" := by
  intro t
  have hmeanings : meanings Path.below t "/p" "lodash/fp" = [.path "/p/node_modules/lodash/fp"] := by
    decide +kernel
  have hmain : manifestMain t "/p/node_modules/lodash/fp" = none := by decide +kernel
  have hstays : StaysInside t "/p" "lodash/fp" := by
    refine ⟨fun _ => by decide +kernel, ?_⟩
    rw [hmeanings, List.forall_mem_singleton, Meaning.place, hmain]
    exact nofun
  refine ⟨hstays, (resolve_eq_first t "/p" "lodash/fp").2.2.1 hstays, ?_, ?_, ?_, ?_⟩
  · decide +kernel
  · decide +kernel
  · decide +kernel
  · decide +kernel

end Module

end NotebookEngine
