/-
**Modules are loaded once for each path.**

A module that is required is kept under its path, and the path is kept as it was spelled: nothing in it is
put in order.  So a module is loaded at most once under each spelling, and a file is loaded once for every
spelling of it that some require resolves to.

A path that is required relative to a module is spelled longer than the directory of that module, unless it
means a directory whose manifest names an entry from the root.  So without such entries it never is the path
of a module that still waits for it, and modules that require each other by such paths are loaded anew for
as long as the requires go on.

What programs require is taken as a tree: each require is followed by what the body of its module requires
if it is run, and by what is required afterwards.

Main definitions:

* `Module.ReachedFrom`, `Module.leadsAway` — files behind a path, and manifests that name an entry from
  the root;
* `Module.Body`, `Module.Body.requests` — what a program requires, and what each require comes to;
* `Module.Account` — what has been loaded, and what the requires so far have been answered.

Main results:

* `Module.reachedFrom_of_mem_fileCandidates` — where the files of a path are;
* `Module.length_lt_directoryOf` — relative paths are spelled longer and longer;
* `Module.demand_spec` — what a require comes to;
* `Module.account_requests`, `Module.rising_requests` — every run;
* `Module.loaded_once_per_path` — **a file is loaded once for each path that leads to it**.
-/

import NotebookEngine.Package.Require
import NotebookEngine.Proofs.Files.Walks

set_option autoImplicit false

namespace NotebookEngine

/-! ### Paths -/

theorem Path.isAbsolute_iff {p : String} : isAbsolute p = true ↔ ['/'] <+: p.toList :=
  String.startsWith_string_iff

/-- A joined path begins with the one that it is seen from, unless it does not depend on it. -/
theorem Path.toList_join (base : String) {p : String} (h : isAbsolute p = false) :
    ∃ sep, (join base p).toList = base.toList ++ sep ++ p.toList := by
  rw [join_eq_below h]
  exact toList_below base p

namespace Module

/-! ### Directories -/

theorem dropWhile_ne_append {c : Char} (as bs : List Char) :
    ∃ cs, (as ++ c :: bs).dropWhile (fun a => a ≠ c) = cs ++ c :: bs := by
  induction as with
  | nil => exact ⟨[], by simp⟩
  | cons a as ih =>
      by_cases ha : a = c
      · exact ⟨a :: as, by simp [ha]⟩
      · obtain ⟨cs, hcs⟩ := ih
        exact ⟨cs, by rw [List.cons_append, List.dropWhile_cons_of_pos (by simpa using ha), hcs]⟩

/-- The directory of a path holds all that stands before a separator. -/
theorem length_le_directoryOf {path : String} {above below : List Char}
    (h : path.toList = above ++ '/' :: below) (hne : above ≠ []) :
    above.length ≤ (directoryOf path).toList.length := by
  obtain ⟨cs, hcs⟩ := dropWhile_ne_append (c := '/') below.reverse above.reverse
  have hreverse : path.toList.reverse = below.reverse ++ '/' :: above.reverse := by simp [h]
  have hlong : above.length ≤ ((cs ++ '/' :: above.reverse).tail.reverse).length := by
    cases cs <;> simp
  rw [directoryOf, hreverse, hcs, if_neg]
  · rwa [String.toList_ofList]
  · intro hempty
    rw [List.isEmpty_iff.1 hempty] at hlong
    exact absurd hlong (by simpa using hne)

/-- Whether a specifier is a path from where it is required. -/
def isRelative (specifier : String) : Bool :=
  specifier.startsWith "./" || specifier.startsWith "../"

/-- Whether a file is reached from a path: it begins with the path, or with an entry from the root that the
manifest at the path names. -/
def ReachedFrom (t : FileTree) (path file : String) : Prop :=
  path.toList <+: file.toList ∨
    ∃ entry ∈ manifestMain t path, Path.isAbsolute entry = true ∧ entry.toList <+: file.toList

theorem isPrefix_join (path : String) {p : String} (h : Path.isAbsolute p = false) :
    path.toList <+: (Path.join path p).toList := by
  obtain ⟨sep, hsep⟩ := Path.toList_join path h
  rw [hsep, List.append_assoc]
  exact List.prefix_append _ _

theorem isPrefix_index (path : String) : path.toList <+: (Path.join path "index.js").toList :=
  isPrefix_join path (by rw [← Bool.not_eq_true, Path.isAbsolute_iff]; decide)

/-- The files that an entry may mean begin with it. -/
theorem isPrefix_of_mem_entryCandidates {path file : String} (h : file ∈ entryCandidates path) :
    path.toList <+: file.toList := by
  rcases List.mem_cons.1 h with rfl | h
  · exact List.prefix_rfl
  rcases List.mem_cons.1 h with rfl | h
  · exact isPrefix_index path
  · rw [List.mem_singleton.1 h, String.toList_append]
    exact List.prefix_append _ _

/-- The files that a directory stands for are reached from it. -/
theorem reachedFrom_of_mem_directoryCandidates {t : FileTree} {directory file : String}
    (h : file ∈ directoryCandidates t directory) : ReachedFrom t directory file := by
  rw [directoryCandidates, List.mem_append] at h
  rcases h with h | h
  · cases hmain : manifestMain t directory with
    | none => rw [hmain] at h; cases h
    | some entry =>
        rw [hmain] at h
        have hstarts := isPrefix_of_mem_entryCandidates h
        cases habsolute : Path.isAbsolute entry with
        | false => exact Or.inl ((isPrefix_join directory habsolute).trans hstarts)
        | true =>
            rw [Path.join_eq, if_pos habsolute] at hstarts
            exact Or.inr ⟨entry, hmain, habsolute, hstarts⟩
  · rw [List.mem_singleton.1 h]
    exact Or.inl (isPrefix_index directory)

/-- **The files that a path may mean are reached from it.** -/
theorem reachedFrom_of_mem_fileCandidates {t : FileTree} {path file : String}
    (h : file ∈ fileCandidates t path) : ReachedFrom t path file := by
  rw [fileCandidates, List.mem_append] at h
  rcases h with h | h
  · rcases List.mem_cons.1 h with rfl | h
    · exact Or.inl List.prefix_rfl
    · obtain ⟨e, -, rfl⟩ := List.mem_map.1 h
      refine Or.inl ?_
      rw [String.toList_append, String.toList_append, List.append_assoc]
      exact List.prefix_append _ _
  · split at h
    · exact reachedFrom_of_mem_directoryCandidates h
    · cases h

/-- Whether the manifest of the directory that a path specifier may mean names an entry from the root. -/
def leadsAway (t : FileTree) (base specifier : String) : Bool :=
  (manifestMain t (Path.join base specifier)).any Path.isAbsolute

/-- **A path that is required relative to a directory is in a directory that is spelled longer**, unless a
manifest leads away. -/
theorem length_lt_directoryOf {t : FileTree} {base specifier path : String}
    (hrelative : isRelative specifier = true) (hinside : leadsAway t base specifier = false)
    (h : resolve t base specifier = some path) :
    base.toList.length < (directoryOf path).toList.length := by
  have hpath : isPath specifier = true := by
    rw [isRelative] at hrelative
    rw [isPath, hrelative, Bool.true_or]
  rw [resolve, if_pos hpath] at h
  obtain ⟨rest, hrest⟩ : (Path.join base specifier).toList <+: path.toList := by
    rcases reachedFrom_of_mem_fileCandidates (List.mem_of_find?_eq_some h) with hstarts | hentry
    · exact hstarts
    · obtain ⟨entry, hmain, habsolute, -⟩ := hentry
      rw [leadsAway, Option.mem_def.1 hmain, Option.any_some, habsolute] at hinside
      cases hinside
  -- The specifier begins with one or two points and a separator, which the directory is cut at.
  have hstart : ∃ points below, points ≠ [] ∧ points.head? ≠ some '/' ∧
      specifier.toList = points ++ '/' :: below := by
    rw [isRelative, Bool.or_eq_true, String.startsWith_string_iff, String.startsWith_string_iff] at hrelative
    rcases hrelative with ⟨below, hbelow⟩ | ⟨below, hbelow⟩
    · exact ⟨['.'], below, by decide, by decide, hbelow.symm⟩
    · exact ⟨['.', '.'], below, by decide, by decide, hbelow.symm⟩
  obtain ⟨points, below, hpoints, hhead, hspecifier⟩ := hstart
  have hnot : Path.isAbsolute specifier = false := by
    rw [← Bool.not_eq_true, Path.isAbsolute_iff, hspecifier]
    rintro ⟨more, hmore⟩
    cases points with
    | nil => exact hpoints rfl
    | cons point points =>
        injection hmore with hpoint _
        exact hhead (by rw [hpoint, List.head?_cons])
  obtain ⟨sep, hjoin⟩ := Path.toList_join base hnot
  have hwhole : path.toList = (base.toList ++ sep ++ points) ++ '/' :: (below ++ rest) := by
    rw [← hrest, hjoin, hspecifier]
    simp
  have hlong := length_le_directoryOf hwhole (by simp [hpoints])
  have hpos := List.length_pos_iff.2 hpoints
  simp only [List.length_append] at hlong
  omega

/-! ### What requires come to -/

/-- What a require comes to depends on whether its path is there, was required before, and can be read. -/
theorem demand_spec {α : Type} (t : FileTree) (loaded : List (String × α)) (base specifier : String) :
    match demand t loaded base specifier with
    | .missing => resolve t base specifier = none
    | .known m => ∃ path, resolve t base specifier = some path ∧ (path, m) ∈ loaded
    | .unreadable _ => ∃ path, resolve t base specifier = some path ∧ path ∉ loaded.map Prod.fst ∧
        ∀ source, t.readText path ≠ .ok source
    | .fresh path _ source => resolve t base specifier = some path ∧ path ∉ loaded.map Prod.fst ∧
        t.readText path = .ok source := by
  cases hresolve : resolve t base specifier with
  | none => simp only [demand, hresolve]
  | some path =>
      simp only [demand, hresolve]
      generalize hfind : loaded.find? _ = found
      cases found with
      | some entry =>
          obtain ⟨p, m⟩ := entry
          have hp : p = path := by simpa using List.find?_some hfind
          exact ⟨path, rfl, hp ▸ List.mem_of_find?_eq_some hfind⟩
      | none =>
          have hnot : path ∉ loaded.map Prod.fst := by
            intro hmem
            obtain ⟨⟨p, m⟩, hentry, rfl⟩ := List.mem_map.1 hmem
            exact absurd (List.find?_eq_none.1 hfind _ hentry) (by simp)
          cases hread : t.readText path with
          | error f =>
              simp only [load, hread]
              exact ⟨path, rfl, hnot, by simp [hread]⟩
          | ok source =>
              simp only [load, hread]
              exact ⟨trivial, hnot, trivial⟩

/-! ### Programs -/

/-- What a program or the body of a module requires. -/
inductive Body where
  | done
  /-- It requires a specifier, with its own function or with one that belongs to another directory; then
  come what the body of that module requires, if it is run, and what is required afterwards. -/
  | require (base? : Option String) (specifier : String) (body rest : Body)

/-- A require that was made. -/
structure Request where
  base : String
  specifier : String
  /-- The modules that wait for it along requires of relative paths, none of which a manifest leads away,
  the nearest first. -/
  above : List String
  /-- What it has come to; modules are numbered in the order in which they are loaded. -/
  answer : Demand Nat

namespace Request

/-- The path that is required. -/
def path? (t : FileTree) (r : Request) : Option String := resolve t r.base r.specifier

/-- The path that is loaded, if one is. -/
def loads? (r : Request) : Option String :=
  match r.answer with
  | .fresh path _ _ => some path
  | _ => none

/-- The request that a body makes, with its own function or another one, after modules were loaded. -/
def make (t : FileTree) (loaded above : List String) (base : String) (base? : Option String)
    (specifier : String) : Request where
  base := base?.getD base
  specifier := specifier
  above :=
    if base?.isNone && isRelative specifier && !leadsAway t base specifier then above else []
  answer := demand t loaded.zipIdx (base?.getD base) specifier

/-- The answer of a request is the one that its path and the modules that were loaded call for. -/
def Answered (t : FileTree) (loaded : List String) (r : Request) : Prop :=
  match r.answer with
  | .missing => r.path? t = none
  | .known n => ∃ path, r.path? t = some path ∧ loaded[n]? = some path
  | .unreadable _ => ∃ path, r.path? t = some path ∧ ∀ source, t.readText path ≠ .ok source
  | .fresh path _ source => r.path? t = some path ∧ path ∉ loaded ∧ t.readText path = .ok source

theorem answered_make (t : FileTree) (loaded above : List String) (base : String)
    (base? : Option String) (specifier : String) :
    (make t loaded above base base? specifier).Answered t loaded := by
  generalize hr : make t loaded above base base? specifier = r
  have hspec := demand_spec t loaded.zipIdx (base?.getD base) specifier
  have hanswer : demand t loaded.zipIdx (base?.getD base) specifier = r.answer := by rw [← hr]; rfl
  have hpath : resolve t (base?.getD base) specifier = r.path? t := by rw [← hr]; rfl
  rw [hanswer, hpath, List.zipIdx_map_fst] at hspec
  rw [Answered]
  cases ha : r.answer with
  | missing => rw [ha] at hspec; exact hspec
  | known n =>
      rw [ha] at hspec
      obtain ⟨path, hpath, hmem⟩ := hspec
      exact ⟨path, hpath, by simpa using List.mem_zipIdx_iff_getElem?.1 hmem⟩
  | unreadable message =>
      rw [ha] at hspec
      obtain ⟨path, hpath, -, hread⟩ := hspec
      exact ⟨path, hpath, hread⟩
  | fresh path format source => rw [ha] at hspec; exact hspec

end Request

/-- The paths that are loaded by requests. -/
def loads (log : List Request) : List String := log.filterMap Request.loads?

/-- The requests that a body makes, after modules were loaded; the body of a script that is loaded is run
at once. -/
def Body.requests (t : FileTree) : Body → List String → List String → String → List Request
  | .done, _, _, _ => []
  | .require base? specifier body rest, loaded, above, base =>
    let r := Request.make t loaded above base base? specifier
    let inner := match r.answer with
      | .fresh path .script _ =>
        body.requests t (loaded ++ [path]) (path :: r.above) (directoryOf path)
      | _ => []
    r :: inner ++ rest.requests t (loaded ++ loads (r :: inner)) above base

/-! ### What has been loaded -/

theorem loads_append (log log' : List Request) : loads (log ++ log') = loads log ++ loads log' :=
  List.filterMap_append

/-- What requests have loaded, after modules were loaded, and what they were answered. -/
structure Account (t : FileTree) (loaded : List String) (log : List Request) : Prop where
  /-- No path is loaded twice. -/
  nodup : loaded.Nodup → (loaded ++ loads log).Nodup
  /-- What is loaded was required, and can be read. -/
  sound : ∀ path ∈ loads log, (∃ r ∈ log, r.path? t = some path) ∧ ∃ source, t.readText path = .ok source
  /-- What is required and can be read is loaded. -/
  complete : ∀ r ∈ log, ∀ path source, r.path? t = some path → t.readText path = .ok source →
    path ∈ loaded ++ loads log
  /-- A module that was loaded before is given again. -/
  known : ∀ r ∈ log, ∀ n, r.answer = .known n → ∃ path, r.path? t = some path ∧
    (loaded ++ loads log)[n]? = some path

namespace Account

variable {t : FileTree} {loaded : List String}

theorem nil (t : FileTree) (loaded : List String) : Account t loaded [] :=
  ⟨fun h => by simpa [loads] using h, nofun, nofun, nofun⟩

/-- Requests, and further ones after them. -/
theorem append {log log' : List Request} (ha : Account t loaded log)
    (hb : Account t (loaded ++ loads log) log') : Account t loaded (log ++ log') where
  nodup h := by
    rw [loads_append, ← List.append_assoc]
    exact hb.nodup (ha.nodup h)
  sound path hmem := by
    rw [loads_append, List.mem_append] at hmem
    rcases hmem with hmem | hmem
    · obtain ⟨⟨r, hr, hpath⟩, hread⟩ := ha.sound path hmem
      exact ⟨⟨r, List.mem_append_left _ hr, hpath⟩, hread⟩
    · obtain ⟨⟨r, hr, hpath⟩, hread⟩ := hb.sound path hmem
      exact ⟨⟨r, List.mem_append_right _ hr, hpath⟩, hread⟩
  complete r hr path source hpath hread := by
    rw [loads_append, ← List.append_assoc]
    rcases List.mem_append.1 hr with hr | hr
    · exact List.mem_append_left _ (ha.complete r hr path source hpath hread)
    · exact hb.complete r hr path source hpath hread
  known r hr n hn := by
    rw [loads_append, ← List.append_assoc]
    rcases List.mem_append.1 hr with hr | hr
    · obtain ⟨path, hpath, hplace⟩ := ha.known r hr n hn
      have hlt := (List.getElem?_eq_some_iff.1 hplace).1
      exact ⟨path, hpath, by rw [List.getElem?_append_left hlt, hplace]⟩
    · exact hb.known r hr n hn

/-- One request. -/
theorem make (t : FileTree) (loaded above : List String) (base : String) (base? : Option String)
    (specifier : String) : Account t loaded [Request.make t loaded above base base? specifier] := by
  have hspec := Request.answered_make t loaded above base base? specifier
  generalize Request.make t loaded above base base? specifier = r at hspec
  rw [Request.Answered] at hspec
  have hloads : loads [r] = r.loads?.toList := by
    rw [loads, List.filterMap_cons]
    cases r.loads? <;> rfl
  rw [Request.loads?] at hloads
  cases ha : r.answer with
  | missing =>
      rw [ha] at hspec hloads
      refine ⟨?_, ?_, ?_, ?_⟩
      · simp [hloads]
      · simp [hloads]
      · simp [hspec]
      · simp [ha]
  | known m =>
      rw [ha] at hspec hloads
      obtain ⟨path, hpath, hplace⟩ := hspec
      refine ⟨?_, ?_, ?_, ?_⟩
      · simp [hloads]
      · simp [hloads]
      · rintro _ hr path' source hpath' -
        rw [List.mem_singleton.1 hr, hpath] at hpath'
        cases hpath'
        exact List.mem_append_left _ (List.mem_of_getElem? hplace)
      · simp [ha, hpath, hloads, hplace]
  | unreadable message =>
      rw [ha] at hspec hloads
      obtain ⟨path, hpath, hread⟩ := hspec
      refine ⟨?_, ?_, ?_, ?_⟩
      · simp [hloads]
      · simp [hloads]
      · intro _ hr path' source hpath' hsource
        rw [List.mem_singleton.1 hr, hpath] at hpath'
        cases hpath'
        exact absurd hsource (hread source)
      · simp [ha]
  | fresh path format source =>
      rw [ha] at hspec hloads
      obtain ⟨hpath, hnot, hread⟩ := hspec
      refine ⟨?_, ?_, ?_, ?_⟩
      · intro hnodup
        rw [hloads, Option.toList_some, List.nodup_append]
        refine ⟨hnodup, List.pairwise_singleton _ _, ?_⟩
        rintro a hmem b hb rfl
        rw [List.mem_singleton.1 hb] at hmem
        exact hnot hmem
      · simp [hloads, hpath, hread]
      · rintro _ hr path' source' hpath' -
        rw [List.mem_singleton.1 hr, hpath] at hpath'
        cases hpath'
        rw [hloads]
        exact List.mem_append_right _ (List.mem_singleton_self path)
      · simp [ha]

end Account

/-- **Every run.** -/
theorem account_requests (t : FileTree) (body : Body) (loaded above : List String) (base : String) :
    Account t loaded (body.requests t loaded above base) := by
  -- By induction on what is required: the request itself, the body of its module, and what comes after.
  induction body generalizing loaded above base with
  | done => exact Account.nil t loaded
  | require base? specifier body rest ihBody ihRest =>
      have hfirst := Account.make t loaded above base base? specifier
      rw [Body.requests]
      generalize hr : Request.make t loaded above base base? specifier = r at hfirst ⊢
      have hinner : Account t (loaded ++ loads [r]) (match r.answer with
          | .fresh path .script _ =>
            body.requests t (loaded ++ [path]) (path :: r.above) (directoryOf path)
          | _ => []) := by
        split
        next path source ha =>
          have hloads : loads [r] = [path] := by simp [loads, Request.loads?, ha]
          rw [hloads]
          exact ihBody _ _ _
        next => exact Account.nil t _
      exact (hfirst.append hinner).append (ihRest _ _ _)

/-! ### Modules that wait -/

/-- The modules that wait are in directories that are spelled no longer than a directory. -/
def Rising (above : List String) (base : String) : Prop :=
  ∀ path ∈ above, (directoryOf path).toList.length ≤ base.toList.length

/-- No module that waits for a request is required by it. -/
theorem path_make_not_above (t : FileTree) (loaded : List String) {above : List String} {base : String}
    (hrising : Rising above base) (base? : Option String) (specifier : String) :
    ∀ path, (Request.make t loaded above base base? specifier).path? t = some path →
      path ∉ (Request.make t loaded above base base? specifier).above ∧
        Rising (path :: (Request.make t loaded above base base? specifier).above) (directoryOf path) := by
  intro path hpath
  cases hown : base?.isNone && isRelative specifier && !leadsAway t base specifier with
  | false =>
      have hnone : (Request.make t loaded above base base? specifier).above = [] :=
        if_neg (Bool.eq_false_iff.1 hown)
      rw [hnone]
      refine ⟨List.not_mem_nil, ?_⟩
      intro p hp
      obtain rfl := List.mem_singleton.1 hp
      exact Nat.le_refl _
  | true =>
      have habove : (Request.make t loaded above base base? specifier).above = above := if_pos hown
      rw [Bool.and_eq_true, Bool.and_eq_true, Option.isNone_iff_eq_none, Bool.not_eq_true'] at hown
      obtain ⟨⟨rfl, hrelative⟩, hinside⟩ := hown
      have hlonger : base.toList.length < (directoryOf path).toList.length :=
        length_lt_directoryOf hrelative hinside hpath
      rw [habove]
      refine ⟨?_, ?_⟩
      · intro hmem
        have hshort := hrising path hmem
        omega
      · intro p hp
        rcases List.mem_cons.1 hp with rfl | hp
        · exact Nat.le_refl _
        · have hshort := hrising p hp
          omega

/-- **No request, in any run, is for a module that waits for it along relative paths.** -/
theorem rising_requests (t : FileTree) (body : Body) (loaded above : List String) (base : String)
    (hrising : Rising above base) :
    ∀ r ∈ body.requests t loaded above base, ∀ path ∈ r.above, r.path? t ≠ some path := by
  induction body generalizing loaded above base with
  | done => exact nofun
  | require base? specifier body rest ihBody ihRest =>
      have hfirst := path_make_not_above t loaded hrising base? specifier
      have hspec := Request.answered_make t loaded above base base? specifier
      intro r hr
      rw [Body.requests] at hr
      generalize Request.make t loaded above base base? specifier = first at hfirst hspec hr
      rcases List.mem_append.1 hr with hr | hr
      · rcases List.mem_cons.1 hr with rfl | hr
        · intro path hmem hpath
          exact (hfirst path hpath).1 hmem
        · split at hr
          next path source ha =>
            rw [Request.Answered, ha] at hspec
            exact ihBody _ _ _ (hfirst path hspec.1).2 r hr
          next => cases hr
      · exact ihRest _ _ _ hrising r hr

/-! ### Cycles -/

/-- Requires that are nested: the body of each module requires the next specifier. -/
def Body.nest : List String → Body
  | [] => .done
  | specifier :: specifiers => .require none specifier (nest specifiers) .done

/-- While every module that was loaded waits, relative paths lead to none of them, if no manifest leads
away. -/
theorem not_known_nest {t : FileTree} {specifiers loaded above : List String} {base : String}
    (hrelative : ∀ s ∈ specifiers, isRelative s = true) (hwait : ∀ path ∈ loaded, path ∈ above)
    (hrising : Rising above base)
    (hinside : ∀ r ∈ (Body.nest specifiers).requests t loaded above base,
      leadsAway t r.base r.specifier = false) :
    ∀ r ∈ (Body.nest specifiers).requests t loaded above base, ∀ n, r.answer ≠ .known n := by
  -- By induction on the specifiers: a module that is loaded waits for all that follow.
  induction specifiers generalizing loaded above base with
  | nil => exact nofun
  | cons specifier specifiers ih =>
      rw [List.forall_mem_cons] at hrelative
      have hfirst := path_make_not_above t loaded hrising none specifier
      have hanswered := Request.answered_make t loaded above base none specifier
      rw [Body.nest, Body.requests, Body.requests, List.append_nil] at hinside ⊢
      have hstays : leadsAway t base specifier = false :=
        hinside (Request.make t loaded above base none specifier) List.mem_cons_self
      have habove : (Request.make t loaded above base none specifier).above = above := by
        rw [Request.make, hrelative.1, hstays]
        rfl
      intro r hr n hn
      generalize Request.make t loaded above base none specifier = first
        at hfirst hanswered habove hinside hr
      rw [Request.Answered] at hanswered
      rcases List.mem_cons.1 hr with rfl | hr
      · rw [hn] at hanswered
        obtain ⟨path, hpath, hplace⟩ := hanswered
        have hmem := hwait path (List.mem_of_getElem? hplace)
        exact (hfirst path hpath).1 (habove ▸ hmem)
      · split at hr
        next path source ha =>
          rw [ha] at hanswered
          rw [ha] at hinside
          refine ih hrelative.2 ?_ (hfirst path hanswered.1).2
            (fun r' hr' => hinside r' (List.mem_cons_of_mem first hr')) r hr n hn
          intro p hp
          rw [habove]
          rcases List.mem_append.1 hp with hp | hp
          · exact List.mem_cons_of_mem path (hwait p hp)
          · rw [List.mem_singleton.1 hp]
            exact List.mem_cons_self
        next => cases hr

end Module

/-! ### Files -/

/-- Whether a path leads to a place of the tree. -/
def FileTree.leadsTo (t : FileTree) (place : List String) (path : String) : Bool :=
  match t.locate path with
  | .ok found => found.reverse = place
  | .error _ => false

/-- The text of a file is read under every path that leads to the file. -/
theorem FileTree.readText_of_leadsTo {t : FileTree} {place : List String} {source path : String}
    (hfile : t.root.at? place = some (.file (some source))) (h : t.leadsTo place path = true) :
    t.readText path = .ok source := by
  rw [leadsTo] at h
  split at h
  next found hfound =>
    have hplace : found.reverse = place := by simpa using h
    have hlookup : t.lookup path = .ok (.file (some source)) := by
      simp only [lookup, hfound, bind, Except.bind, hplace, hfile]
    rw [readText, hlookup]
    rfl
  next => cases h

namespace Module

/-- Of paths that are all different, at most one leads to a place exactly if they do not differ there. -/
theorem countP_le_one_iff {p : String → Bool} {paths : List String} (h : paths.Nodup) :
    paths.countP p ≤ 1 ↔ ∀ a ∈ paths, ∀ b ∈ paths, p a = true → p b = true → a = b := by
  induction paths with
  | nil => simp
  | cons path paths ih =>
      obtain ⟨hnot, hnodup⟩ := List.nodup_cons.1 h
      cases hp : p path with
      | false =>
          rw [List.countP_cons_of_neg (by simp [hp]), ih hnodup]
          constructor
          · intro hall a ha b hb hpa hpb
            rcases List.mem_cons.1 ha with rfl | ha
            · rw [hp] at hpa
              cases hpa
            rcases List.mem_cons.1 hb with rfl | hb
            · rw [hp] at hpb
              cases hpb
            exact hall a ha b hb hpa hpb
          · intro hall a ha b hb
            exact hall a (List.mem_cons_of_mem path ha) b (List.mem_cons_of_mem path hb)
      | true =>
          rw [List.countP_cons_of_pos hp]
          constructor
          · intro hcount a ha b hb hpa hpb
            have hnone : paths.countP p = 0 := by omega
            have hno := List.countP_eq_zero.1 hnone
            rcases List.mem_cons.1 ha with rfl | ha
            · rcases List.mem_cons.1 hb with rfl | hb
              · rfl
              · exact absurd hpb (hno b hb)
            · exact absurd hpa (hno a ha)
          · intro hall
            have hno : paths.countP p = 0 := by
              rw [List.countP_eq_zero]
              intro b hb hpb
              have hsame := hall path List.mem_cons_self b (List.mem_cons_of_mem path hb) hp hpb
              exact hnot (hsame ▸ hb)
            omega

/-- **A file is loaded once for each path that leads to it.**  In every run of a program that requires
modules from its project and from theirs, no path is loaded twice; what is loaded are the paths that were
required and can be read; and a path that was loaded before gives the module that was loaded then, which
may still wait.  So a file with a text is loaded at most once exactly if all requires that mean it resolve
to the same spelling of its path.  Relative paths do not resolve to the path of a module that waits for
them, unless the manifest of a directory leads away: it names an entry from the root, which is spelled the
same wherever it is required.  So requires of relative paths that are nested are not answered by a module
that was loaded before, whichever files they mean, as long as no manifest leads away. -/
theorem loaded_once_per_path (t : FileTree) (project : String) (program : Body) :
    let log := program.requests t [] [] project
    (loads log).Nodup ∧
    (∀ path, path ∈ loads log ↔
      (∃ r ∈ log, r.path? t = some path) ∧ ∃ source, t.readText path = .ok source) ∧
    (∀ r ∈ log, ∀ n, r.answer = .known n → ∃ path, r.path? t = some path ∧ (loads log)[n]? = some path) ∧
    (∀ place source, t.root.at? place = some (.file (some source)) →
      ((loads log).countP (t.leadsTo place) ≤ 1 ↔
        ∀ r ∈ log, ∀ r' ∈ log, ∀ path path', r.path? t = some path → r'.path? t = some path' →
          t.leadsTo place path = true → t.leadsTo place path' = true → path = path')) ∧
    (∀ r ∈ log, ∀ path ∈ r.above, r.path? t ≠ some path) ∧
    (∀ specifiers, (∀ s ∈ specifiers, isRelative s = true) →
      let nested := (Body.nest specifiers).requests t [] [] project
      (∀ r ∈ nested, leadsAway t r.base r.specifier = false) →
        ∀ r ∈ nested, ∀ n, r.answer ≠ .known n) := by
  intro log
  have haccount : Account t [] log := account_requests t program [] [] project
  have hnodup : (loads log).Nodup := haccount.nodup List.nodup_nil
  have hloads : ∀ path, path ∈ loads log ↔
      (∃ r ∈ log, r.path? t = some path) ∧ ∃ source, t.readText path = .ok source := by
    intro path
    constructor
    · exact haccount.sound path
    · rintro ⟨⟨r, hr, hpath⟩, source, hread⟩
      exact haccount.complete r hr path source hpath hread
  have hnone : Rising [] project := nofun
  refine ⟨hnodup, hloads, haccount.known, ?_, rising_requests t program [] [] project hnone, ?_⟩
  · intro place source hfile
    rw [countP_le_one_iff hnodup]
    constructor
    · intro hall r hr r' hr' path path' hpath hpath' hlead hlead'
      have hread := FileTree.readText_of_leadsTo hfile hlead
      have hread' := FileTree.readText_of_leadsTo hfile hlead'
      exact hall path ((hloads path).2 ⟨⟨r, hr, hpath⟩, source, hread⟩)
        path' ((hloads path').2 ⟨⟨r', hr', hpath'⟩, source, hread'⟩) hlead hlead'
    · intro hall path hmem path' hmem' hlead hlead'
      obtain ⟨⟨r, hr, hpath⟩, -⟩ := (hloads path).1 hmem
      obtain ⟨⟨r', hr', hpath'⟩, -⟩ := (hloads path').1 hmem'
      exact hall r hr r' hr' path path' hpath hpath' hlead hlead'
  · intro specifiers hrelative nested hinside
    exact not_known_nest hrelative nofun hnone hinside

/-- Two modules that require each other are loaded again each time. -/
example :
    let t : FileTree := .workingIn ["p"] (.directory [("a.js", .file (some "")), ("b.js", .file (some ""))])
    loads ((Body.nest ["./a", "./b", "./a", "./b"]).requests t [] [] ".") =
      ["././a.js", "./././b.js", "././././a.js", "./././././b.js"] := by
  decide +kernel

/-- A module that requires itself through a manifest with an entry from the root is given itself. -/
example :
    let t : FileTree := .workingIn ["p"] (.directory [("a.js", .file (some "")),
      ("d", .directory [("package.json", .file (some "\x7b\"main\": \"/p/a.js\"\x7d"))])])
    loads ((Body.nest ["./d", "./d", "./d"]).requests t [] [] ".") = ["/p/a.js"] := by
  decide +kernel

end Module

end NotebookEngine
