/-
**Where paths lead in a tree of files.**

A path is followed one part at a time, and every part but the last has to be followed from a directory.  So
whatever has something below it is a directory.  A walk that does not come through a directory cannot tell
what the directory holds: the contents may be exchanged, and every such path leads to what it led to before.

Main definitions:

* `Path.below` — a path put behind another one;
* `FileNode.Alike` — nodes that look the same as long as no entry is followed;
* `FileTree.Passes` — whether following a path leads to a place or below it.

Main results:

* `Path.join_eq` — joining puts a path behind another one, unless it begins with a separator;
* `FileTree.lookup_of_below` — **what has something below it is a directory**;
* `FileTree.lookup_put` — **a directory that a path does not pass may hold anything**.
-/

import NotebookEngine.Files.Tree
import NotebookEngine.Proofs.Text.Closed

set_option autoImplicit false

namespace NotebookEngine

/-! ### Paths that are put together -/

namespace Path

/-- The path `p` behind `base`, with one separator between them unless `base` ends with one. -/
def below (base p : String) : String :=
  if base.isEmpty ∨ base.endsWith "/" then base ++ p else base ++ "/" ++ p

/-- Joining is putting behind, except that a path with a separator at its start stays as it is. -/
theorem join_eq (base p : String) : join base p = if isAbsolute p then p else below base p := rfl

theorem join_eq_below {p : String} (h : isAbsolute p = false) (base : String) : join base p = below base p := by
  rw [join_eq, h, if_neg Bool.false_ne_true]

theorem utf8ByteSize_le_below (base p : String) : base.utf8ByteSize ≤ (below base p).utf8ByteSize := by
  rw [below]
  split
  · rw [String.utf8ByteSize_append]
    omega
  · rw [String.utf8ByteSize_append, String.utf8ByteSize_append]
    omega

/-- What stands between the two paths is a separator or nothing. -/
theorem toList_below (base p : String) :
    ∃ sep, (below base p).toList = base.toList ++ sep ++ p.toList := by
  rw [below]
  split
  · exact ⟨[], by simp⟩
  · exact ⟨['/'], by simp⟩

theorem below_ne_empty {base p : String} (h : base ≠ "" ∨ p ≠ "") : below base p ≠ "" := by
  obtain ⟨sep, hsep⟩ := toList_below base p
  intro hempty
  rw [hempty, List.append_assoc] at hsep
  obtain ⟨hbase, hrest⟩ := List.append_eq_nil_iff.1 hsep.symm
  have hp := (List.append_eq_nil_iff.1 hrest).2
  rcases h with h | h
  · exact h (String.toList_injective hbase)
  · exact h (String.toList_injective hp)

theorem isAbsolute_below {base : String} (h : base ≠ "") (p : String) :
    isAbsolute (below base p) = isAbsolute base := by
  obtain ⟨sep, hsep⟩ := toList_below base p
  have hne : base.toList ≠ [] := fun hnil => h (String.toList_injective hnil)
  obtain ⟨c, cs, hbase⟩ := List.exists_cons_of_ne_nil hne
  rw [Bool.eq_iff_iff, isAbsolute, isAbsolute, String.startsWith_string_iff, String.startsWith_string_iff,
    hsep, hbase]
  simp

/-- The parts of a path behind another one come after the parts of that one; a separator at its end does
not count. -/
theorem pieces_below {base : String} (h : base ≠ "") (p : String) :
    ∃ parts, Text.pieces '/' (below base p).toList = parts ++ Text.pieces '/' p.toList ∧
      (Text.pieces '/' base.toList = parts ∨ Text.pieces '/' base.toList = parts ++ [[]]) := by
  have hempty : base.isEmpty = false := by simpa using h
  rw [below]
  split
  next hends =>
    have hslash : base.endsWith "/" = true := hends.resolve_left (by simp [hempty])
    rw [String.endsWith_eq_endsWith_toSlice, String.Slice.endsWith_string_iff, String.copy_toSlice] at hslash
    obtain ⟨start, hstart⟩ := hslash
    refine ⟨Text.pieces '/' start, ?_, Or.inr ?_⟩
    · rw [String.toList_append, ← hstart, List.append_assoc]
      exact Text.pieces_append_sep '/' start p.toList
    · rw [← hstart]
      exact Text.pieces_append_sep '/' start []
  next =>
    refine ⟨Text.pieces '/' base.toList, ?_, Or.inl rfl⟩
    rw [String.toList_append, String.toList_append, List.append_assoc]
    exact Text.pieces_append_sep '/' base.toList p.toList

end Path

namespace FileNode

variable {t : FileNode}

/-! ### Following a path -/

theorem walk_cons (t : FileNode) (place : List String) (part : List Char) (parts : List (List Char)) :
    t.walk place (part :: parts) = (t.step place part).bind fun next => t.walk next parts := rfl

theorem walk_append (t : FileNode) (place : List String) (parts more : List (List Char)) :
    t.walk place (parts ++ more) = (t.walk place parts).bind fun next => t.walk next more := by
  induction parts generalizing place with
  | nil => rfl
  | cons part parts ih =>
      rw [List.cons_append, walk_cons, walk_cons]
      cases t.step place part with
      | error f => rfl
      | ok next => exact ih next

/-- What following one part can come to: from a directory it stays there, goes up, or goes to an entry. -/
theorem step_cases {place next : List String} {part : List Char} (h : t.step place part = .ok next) :
    ∃ entries, t.at? place.reverse = some (.directory entries) ∧
      (next = place ∨ (∃ name, place = name :: next) ∨
        ∃ name, next = name :: place ∧ (entries.lookup name).isSome) := by
  rw [step.eq_def] at h
  split at h
  next entries hat =>
    refine ⟨entries, hat, ?_⟩
    split at h
    next =>
      cases h
      exact Or.inl rfl
    next =>
      split at h
      next =>
        cases h
        cases place with
        | nil => exact Or.inl rfl
        | cons name up => exact Or.inr (Or.inl ⟨name, rfl⟩)
      next =>
        dsimp only at h
        split at h
        next => cases h
        next =>
          split at h
          next hentry =>
            cases h
            exact Or.inr (Or.inr ⟨_, rfl, hentry⟩)
          next => cases h
  next => cases h
  next => cases h

theorem directory_of_walk {place next : List String} {parts : List (List Char)} (hne : parts ≠ [])
    (h : t.walk place parts = .ok next) : ∃ entries, t.at? place.reverse = some (.directory entries) := by
  obtain ⟨part, rest, rfl⟩ := List.exists_cons_of_ne_nil hne
  rw [walk_cons] at h
  cases hstep : t.step place part with
  | error f => rw [hstep] at h; cases h
  | ok mid =>
      obtain ⟨entries, hat, -⟩ := step_cases hstep
      exact ⟨entries, hat⟩

/-- An empty part stays in a directory. -/
theorem walk_empty {place : List String} {entries : List (String × FileNode)}
    (h : t.at? place.reverse = some (.directory entries)) : t.walk place [[]] = .ok place := by
  have hstep : t.step place [] = .ok place := by
    rw [step.eq_def, h]
    rfl
  rw [walk_cons, hstep]
  rfl

/-! ### Exchanging what a directory holds -/

/-- Nodes that look the same as long as no entry is followed: files with the same text, or directories
whose entries have the same names. -/
def Alike : FileNode → FileNode → Prop
  | .file text?, .file text?' => text? = text?'
  | .directory entries, .directory entries' =>
    ∀ name, (entries.lookup name).isSome = (entries'.lookup name).isSome
  | _, _ => False

theorem Alike.refl (node : FileNode) : Alike node node := by
  cases node with
  | file text? => exact rfl
  | directory entries => exact fun _ => rfl

theorem lookup_putEntry (name other : String) (node : FileNode) (entries : List (String × FileNode)) :
    (putEntry name node entries).lookup other = if name = other then some node else entries.lookup other := by
  induction entries with
  | nil =>
      by_cases h : name = other
      · simp [putEntry, h]
      · simp [putEntry, h, Ne.symm h]
  | cons entry entries ih =>
      obtain ⟨k, v⟩ := entry
      rw [putEntry]
      by_cases hk : k = name
      · rw [if_pos hk]
        by_cases h : name = other
        · simp [hk, h]
        · have hbeq : (other == name) = false := beq_eq_false_iff_ne.2 (Ne.symm h)
          rw [if_neg h, List.lookup_cons, List.lookup_cons, hk, hbeq]
      · rw [if_neg hk, List.lookup_cons, List.lookup_cons, ih]
        by_cases h : other = k
        · have hname : name ≠ other := fun heq => hk (heq.trans h).symm
          rw [beq_iff_eq.2 h]
          exact (if_neg hname).symm
        · rw [beq_eq_false_iff_ne.2 h]

/-- Places that are not below a directory look the same whatever it holds. -/
theorem at?_put {t : FileNode} {place : List String} {held : List (String × FileNode)}
    (hplace : t.at? place = some (.directory held)) (entries : List (String × FileNode))
    {other : List String} (hother : ¬ place <+: other) :
    Option.Rel Alike (t.at? other) ((t.put place (.directory entries)).at? other) := by
  -- By induction on the place: one entry on the way to it is exchanged, and the others stay.
  induction place generalizing t other with
  | nil => exact absurd (List.nil_prefix) hother
  | cons name names ih =>
      cases t with
      | file text? => cases hplace
      | directory all =>
          obtain ⟨child, hchild, hbelow⟩ : ∃ child, all.lookup name = some child ∧
              child.at? names = some (.directory held) := Option.bind_eq_some_iff.1 hplace
          have hput : (FileNode.directory all).put (name :: names) (.directory entries) =
              .directory (putEntry name (child.put names (.directory entries)) all) := by
            rw [put, hchild]
            rfl
          rw [hput]
          cases other with
          | nil =>
              refine .some fun k => ?_
              rw [lookup_putEntry]
              split
              next h => rw [← h, hchild]; rfl
              next => rfl
          | cons k ks =>
              have hat : ∀ es : List (String × FileNode),
                  (FileNode.directory es).at? (k :: ks) = (es.lookup k).bind fun c => c.at? ks := fun _ => rfl
              rw [hat, hat, lookup_putEntry]
              by_cases h : name = k
              · subst h
                rw [if_pos rfl, hchild]
                exact ih hbelow fun hstarts => hother (List.cons_prefix_cons.2 ⟨rfl, hstarts⟩)
              · rw [if_neg h]
                cases (all.lookup k).bind fun c => c.at? ks with
                | none => exact .none
                | some node => exact .some (Alike.refl node)

section Exchange

variable {place : List String} {held : List (String × FileNode)}
  (hplace : t.at? place = some (.directory held)) (entries : List (String × FileNode))

include hplace

/-- A step from outside a directory is the same whatever the directory holds. -/
theorem step_put {here : List String} (hhere : ¬ place <+: here.reverse) (part : List Char) :
    (t.put place (.directory entries)).step here part = t.step here part := by
  have hrel := at?_put hplace entries hhere
  -- A step asks what a place looks like and nothing more.
  rw [step.eq_def, step.eq_def]
  cases hold : t.at? here.reverse with
  | none =>
      rw [hold] at hrel
      cases hrel' : (t.put place (.directory entries)).at? here.reverse with
      | none => rfl
      | some node => rw [hrel'] at hrel; cases hrel
  | some node =>
      rw [hold] at hrel
      cases hnew : (t.put place (.directory entries)).at? here.reverse with
      | none => rw [hnew] at hrel; cases hrel
      | some node' =>
          rw [hnew] at hrel
          cases hrel with
          | some halike =>
              cases node with
              | file text? =>
                  cases node' with
                  | file text?' => rfl
                  | directory es => exact halike.elim
              | directory es =>
                  cases node' with
                  | file text?' => exact halike.elim
                  | directory es' => simp only [halike (String.ofList part)]

/-- A walk that stays outside a directory is the same whatever the directory holds. -/
theorem walk_put (parts : List (List Char)) {here : List String}
    (hnot : ∀ n next, t.walk here (parts.take n) = .ok next → ¬ place <+: next.reverse) :
    (t.put place (.directory entries)).walk here parts = t.walk here parts := by
  induction parts generalizing here with
  | nil => rfl
  | cons part parts ih =>
      rw [walk_cons, walk_cons, step_put hplace entries (hnot 0 here rfl) part]
      cases hstep : t.step here part with
      | error f => rfl
      | ok mid =>
          refine ih fun n next hnext => hnot (n + 1) next ?_
          rw [List.take_succ_cons, walk_cons, hstep]
          exact hnext

end Exchange

end FileNode

namespace FileTree

variable {t : FileTree}

/-! ### Following a path -/

/-- Which paths can be followed. -/
theorem locate_eq_ok_iff {path : String} {place : List String} :
    t.locate path = .ok place ↔ '\x00' ∉ path.toList ∧ path ≠ "" ∧ path.utf8ByteSize < 4096 ∧
      t.root.walk (t.start path) (Text.pieces '/' path.toList) = .ok place := by
  rw [locate]
  split
  next hzero =>
    refine ⟨nofun, fun h => absurd ?_ h.1⟩
    exact List.contains_iff_mem.1 hzero
  next hzero =>
    rw [List.contains_iff_mem] at hzero
    split
    next hempty => exact ⟨nofun, fun ⟨_, hne, _⟩ => absurd (by simpa using hempty) hne⟩
    next hne =>
      have hne : path ≠ "" := by simpa using hne
      split
      next hlong => exact ⟨nofun, fun ⟨_, _, hshort, _⟩ => absurd hlong (Nat.not_le_of_lt hshort)⟩
      next hshort => exact ⟨fun h => ⟨hzero, hne, Nat.lt_of_not_le hshort, h⟩, fun h => h.2.2.2⟩

/-- A path begins where the one begins that it is put behind. -/
theorem start_below {base : String} (h : base ≠ "") (t : FileTree) (p : String) :
    t.start (Path.below base p) = t.start base := by
  rw [start, start, Path.isAbsolute_below h]

/-- What a path leads to is at the place that it leads to. -/
theorem lookup_eq_ok_iff {path : String} {node : FileNode} :
    t.lookup path = .ok node ↔ ∃ place, t.locate path = .ok place ∧ t.root.at? place.reverse = some node := by
  rw [lookup]
  cases hlocate : t.locate path with
  | error f => exact ⟨nofun, nofun⟩
  | ok place =>
      simp only [bind, Except.bind]
      cases hat : t.root.at? place.reverse with
      | none =>
          refine ⟨nofun, ?_⟩
          rintro ⟨_, ⟨⟩, hnode⟩
          rw [hat] at hnode
          cases hnode
      | some found =>
          constructor
          · rintro ⟨⟩
            exact ⟨place, rfl, hat⟩
          · rintro ⟨_, ⟨⟩, hnode⟩
            rw [hat] at hnode
            cases hnode
            rfl

/-- **What has something below it is a directory.** -/
theorem lookup_of_below {base p : String} {node : FileNode} (hbase : base ≠ "")
    (h : t.lookup (Path.below base p) = .ok node) : ∃ entries, t.lookup base = .ok (.directory entries) := by
  obtain ⟨place, hlocate, -⟩ := lookup_eq_ok_iff.1 h
  obtain ⟨hzero, -, hshort, hwalk⟩ := locate_eq_ok_iff.1 hlocate
  obtain ⟨parts, hpieces, hparts⟩ := Path.pieces_below hbase p
  rw [start_below hbase, hpieces, FileNode.walk_append] at hwalk
  cases hmid : t.root.walk (t.start base) parts with
  | error f => rw [hmid] at hwalk; cases hwalk
  | ok mid =>
      rw [hmid] at hwalk
      obtain ⟨entries, hat⟩ := FileNode.directory_of_walk (Text.pieces_ne_nil '/' p.toList) hwalk
      -- A separator at the end of `base` is one more part, which stays where the walk has come to.
      have hfound : t.root.walk (t.start base) (Text.pieces '/' base.toList) = .ok mid := by
        rcases hparts with hparts | hparts
        · rw [hparts, hmid]
        · rw [hparts, FileNode.walk_append, hmid]
          exact FileNode.walk_empty hat
      have hnotzero : '\x00' ∉ base.toList := by
        obtain ⟨sep, hsep⟩ := Path.toList_below base p
        rw [hsep] at hzero
        exact fun hmem => hzero (List.mem_append_left _ (List.mem_append_left _ hmem))
      have hbaseShort : base.utf8ByteSize < 4096 :=
        Nat.lt_of_le_of_lt (Path.utf8ByteSize_le_below base p) hshort
      exact ⟨entries, lookup_eq_ok_iff.2
        ⟨mid, locate_eq_ok_iff.2 ⟨hnotzero, hbase, hbaseShort, hfound⟩, hat⟩⟩

/-! ### Questions about a path -/

theorem isFile_iff {path : String} : t.isFile path = true ↔ ∃ text?, t.lookup path = .ok (.file text?) := by
  rw [isFile]
  split
  next text? h => exact ⟨fun _ => ⟨text?, h⟩, fun _ => rfl⟩
  next h =>
    refine ⟨nofun, ?_⟩
    rintro ⟨text?, hfile⟩
    exact absurd hfile (h text?)

theorem isDirectory_iff {path : String} :
    t.isDirectory path = true ↔ ∃ entries, t.lookup path = .ok (.directory entries) := by
  rw [isDirectory]
  split
  next entries h => exact ⟨fun _ => ⟨entries, h⟩, fun _ => rfl⟩
  next h =>
    refine ⟨nofun, ?_⟩
    rintro ⟨entries, hfound⟩
    exact absurd hfound (h entries)

theorem readText_eq_ok_iff {path text : String} :
    t.readText path = .ok text ↔ t.lookup path = .ok (.file (some text)) := by
  rw [readText]
  cases t.lookup path with
  | error f => exact ⟨nofun, nofun⟩
  | ok node =>
      simp only [bind, Except.bind]
      cases node with
      | directory entries => exact ⟨nofun, nofun⟩
      | file text? =>
          cases text? with
          | none => exact ⟨nofun, nofun⟩
          | some found => simp

/-- A file or a directory below a path makes it a directory. -/
theorem isDirectory_of_below {base p : String} (hbase : base ≠ "")
    (h : t.isFile (Path.below base p) = true ∨ t.isDirectory (Path.below base p) = true) :
    t.isDirectory base = true := by
  have hfound : ∃ node, t.lookup (Path.below base p) = .ok node := by
    rcases h with h | h
    · obtain ⟨text?, h⟩ := isFile_iff.1 h
      exact ⟨_, h⟩
    · obtain ⟨entries, h⟩ := isDirectory_iff.1 h
      exact ⟨_, h⟩
  obtain ⟨node, hnode⟩ := hfound
  exact isDirectory_iff.2 (lookup_of_below hbase hnode)

/-! ### Exchanging what a directory holds -/

/-- Following a path leads to a place or below it. -/
def Passes (t : FileTree) (path : String) (place : List String) : Prop :=
  ∃ n next, t.root.walk (t.start path) ((Text.pieces '/' path.toList).take n) = .ok next ∧
    place <+: next.reverse

section Exchange

variable {place : List String} {held : List (String × FileNode)}
  (hplace : t.root.at? place = some (.directory held)) (entries : List (String × FileNode))

include hplace

/-- **A directory that a path does not pass may hold anything**: the path leads to something that looks the
same, or it cannot be followed for the same reason. -/
theorem lookup_put {path : String} (hnot : ¬ t.Passes path place) :
    (∃ f, t.lookup path = .error f ∧ (t.put place (.directory entries)).lookup path = .error f) ∨
      ∃ node node', t.lookup path = .ok node ∧
        (t.put place (.directory entries)).lookup path = .ok node' ∧ FileNode.Alike node node' := by
  have hnever : ∀ n next, t.root.walk (t.start path) ((Text.pieces '/' path.toList).take n) = .ok next →
      ¬ place <+: next.reverse := fun n next hnext hstarts => hnot ⟨n, next, hnext, hstarts⟩
  have hwalk := FileNode.walk_put hplace entries (Text.pieces '/' path.toList) hnever
  have hlocate : (t.put place (.directory entries)).locate path = t.locate path := by
    rw [locate, locate, start_put, root_put, hwalk]
  rw [lookup, lookup, hlocate]
  cases hfound : t.locate path with
  | error f => exact Or.inl ⟨f, rfl, rfl⟩
  | ok found =>
      have houtside : ¬ place <+: found.reverse := by
        refine hnever (Text.pieces '/' path.toList).length found ?_
        rw [List.take_length]
        exact (locate_eq_ok_iff.1 hfound).2.2.2
      have hrel := FileNode.at?_put hplace entries houtside
      simp only [bind, Except.bind, root_put]
      cases hold : t.root.at? found.reverse with
      | none =>
          rw [hold] at hrel
          cases hnew : (t.root.put place (.directory entries)).at? found.reverse with
          | none => exact Or.inl ⟨_, rfl, rfl⟩
          | some node => rw [hnew] at hrel; cases hrel
      | some node =>
          rw [hold] at hrel
          cases hnew : (t.root.put place (.directory entries)).at? found.reverse with
          | none => rw [hnew] at hrel; cases hrel
          | some node' =>
              rw [hnew] at hrel
              cases hrel with
              | some halike => exact Or.inr ⟨node, node', rfl, rfl, halike⟩

theorem isFile_put {path : String} (hnot : ¬ t.Passes path place) :
    (t.put place (.directory entries)).isFile path = t.isFile path := by
  rw [isFile, isFile]
  rcases lookup_put hplace entries hnot with ⟨f, hold, hnew⟩ | ⟨node, node', hold, hnew, halike⟩
  · rw [hold, hnew]
  · rw [hold, hnew]
    cases node <;> cases node' <;> first | rfl | exact halike.elim

theorem readText_put {path : String} (hnot : ¬ t.Passes path place) :
    (t.put place (.directory entries)).readText path = t.readText path := by
  rw [readText, readText]
  rcases lookup_put hplace entries hnot with ⟨f, hold, hnew⟩ | ⟨node, node', hold, hnew, halike⟩
  · rw [hold, hnew]
  · rw [hold, hnew]
    cases node with
    | file text? =>
        cases node' with
        | file text?' => rw [show text? = text?' from halike]
        | directory es => exact halike.elim
    | directory es =>
        cases node' with
        | file text?' => exact halike.elim
        | directory es' => rfl

end Exchange

end FileTree

end NotebookEngine
