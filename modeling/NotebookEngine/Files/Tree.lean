/-
**A tree of files.**

All files, from the root on: directories, text files, and files that are no text.  A path is followed
one part at a time, as an operating system does.  It begins at the root if a separator is its first
character, and in the working directory otherwise; `..` goes up, and stays where it is at the root; every
other part must be an entry of a directory.

Main definitions:

* `FileNode` — a file or a directory;
* `FileNode.put` — a directory with an entry and the directories it needs;
* `FileNode.walk` — where the parts of a path lead;
* `FileTree` — all files, with a working directory;
* `FileFault`, `FileFault.message` — the reasons a file is not reached;
* `FileTree.locate`, `FileTree.lookup` — where a path leads, and what is there;
* `FileTree.readText`, `FileTree.isFile`, `FileTree.isDirectory` — questions about a path;
* `FileTree.writeText`, `FileTree.makeDirectory` — the tree with a file written or a directory made.
-/

import NotebookEngine.Files.Path

set_option autoImplicit false

namespace NotebookEngine

/-- A file or a directory. -/
inductive FileNode where
  /-- A file, with its text if it is one. -/
  | file (text? : Option String)
  /-- A directory with its entries. -/
  | directory (entries : List (String × FileNode))
  deriving Inhabited

/-- The reasons a file is not reached. -/
inductive FileFault where
  | notFound
  | denied
  | notDirectory
  | isDirectory
  | nameTooLong
  | noText
  | zeroInName
  deriving DecidableEq, Inhabited

/-- The text of a fault. -/
def FileFault.message : FileFault → String
  | .notFound => "No such file or directory (os error 2)"
  | .denied => "Permission denied (os error 13)"
  | .notDirectory => "Not a directory (os error 20)"
  | .isDirectory => "Is a directory (os error 21)"
  | .nameTooLong => "File name too long (os error 36)"
  | .noText => "stream did not contain valid UTF-8"
  | .zeroInName => "file name contained an unexpected NUL byte"

namespace FileNode

/-! ### Entries -/

/-- The empty tree. -/
def empty : FileNode := .directory []

/-- The entry of a name. -/
def child? (name : String) : FileNode → Option FileNode
  | .file _ => none
  | .directory entries => entries.lookup name

/-- What is at a place, given as the names that lead there. -/
def at? (t : FileNode) : List String → Option FileNode
  | [] => some t
  | name :: names => (t.child? name).bind fun c => c.at? names

/-- The entries with one replaced or added. -/
def putEntry (name : String) (node : FileNode) :
    List (String × FileNode) → List (String × FileNode)
  | [] => [(name, node)]
  | (k, v) :: rest => if k = name then (k, node) :: rest else (k, v) :: putEntry name node rest

/-- The tree with `node` at a place, making the directories that lead there. -/
def put : FileNode → List String → FileNode → FileNode
  | _, [], node => node
  | t, name :: names, node =>
    let entries := match t with
      | .directory entries => entries
      | .file _ => []
    let old := (entries.lookup name).getD empty
    .directory (putEntry name (put old names node) entries)

/-! ### Following a path -/

/-- The place that one part of a path leads to from `place`, given in reverse order. -/
def step (t : FileNode) (place : List String) (part : List Char) :
    Except FileFault (List String) :=
  match t.at? place.reverse with
  | some (.directory entries) =>
    if Path.isIdle part then .ok place
    else if part = ['.', '.'] then .ok place.tail
    else
      let name := String.ofList part
      if name.utf8ByteSize > 255 then .error .nameTooLong
      else if (entries.lookup name).isSome then .ok (name :: place) else .error .notFound
  | some (.file _) => .error .notDirectory
  | none => .error .notFound

/-- The place that the parts of a path lead to. -/
def walk (t : FileNode) : List String → List (List Char) → Except FileFault (List String)
  | place, [] => .ok place
  | place, part :: parts => do
    let place ← t.step place part
    t.walk place parts

/-- The tree with the directories that the parts of a path lead through, as far as they are missing. -/
def makeWay (t : FileNode) : List String → List (List Char) → FileNode
  | _, [] => t
  | place, part :: parts =>
    match t.step place part with
    | .ok next => t.makeWay next parts
    | .error .notFound =>
      let next := String.ofList part :: place
      (t.put next.reverse empty).makeWay next parts
    | .error _ => t

end FileNode

/-- All files, with a working directory. -/
structure FileTree where
  root : FileNode
  /-- The names that lead from the root to the working directory. -/
  here : List String
  deriving Inhabited

namespace FileTree

/-- No files: the root is the working directory. -/
def empty : FileTree := ⟨.empty, []⟩

/-- The tree with nothing in it but the directory that some names lead to, in which the work is done. -/
def workingIn (here : List String) (directory : FileNode) : FileTree :=
  ⟨FileNode.empty.put here directory, here⟩

/-- The place at which a path begins, in reverse order. -/
def start (t : FileTree) (path : String) : List String :=
  if Path.isAbsolute path then [] else t.here.reverse

/-- The place that a path leads to, in reverse order. -/
def locate (t : FileTree) (path : String) : Except FileFault (List String) :=
  if path.toList.contains '\x00' then .error .zeroInName
  else if path.isEmpty then .error .notFound
  else if path.utf8ByteSize ≥ 4096 then .error .nameTooLong
  else t.root.walk (t.start path) (Text.pieces '/' path.toList)

/-- What is at a path. -/
def lookup (t : FileTree) (path : String) : Except FileFault FileNode := do
  let place ← t.locate path
  match t.root.at? place.reverse with
  | some node => .ok node
  | none => .error .notFound

/-! ### Questions about a path -/

/-- Whether there is a file at the path. -/
def isFile (t : FileTree) (path : String) : Bool :=
  match t.lookup path with
  | .ok (.file _) => true
  | _ => false

/-- Whether there is a directory at the path. -/
def isDirectory (t : FileTree) (path : String) : Bool :=
  match t.lookup path with
  | .ok (.directory _) => true
  | _ => false

/-- The text of the file at the path. -/
def readText (t : FileTree) (path : String) : Except FileFault String := do
  match ← t.lookup path with
  | .file (some text) => .ok text
  | .file none => .error .noText
  | .directory _ => .error .isDirectory

/-! ### Writing -/

/-- The tree with something else at a place. -/
def put (t : FileTree) (place : List String) (node : FileNode) : FileTree :=
  { t with root := t.root.put place node }

@[simp] theorem root_put (t : FileTree) (place : List String) (node : FileNode) :
    (t.put place node).root = t.root.put place node := rfl

@[simp] theorem start_put (t : FileTree) (place : List String) (node : FileNode) (path : String) :
    (t.put place node).start path = t.start path := rfl

/-- The tree after a text was written to the path. -/
def writeText (t : FileTree) (path text : String) : Except FileFault FileTree :=
  match t.lookup path with
  | .ok (.file _) => do
    let place ← t.locate path
    .ok (t.put place.reverse (.file (some text)))
  | .ok (.directory _) => .error .isDirectory
  | .error .notFound =>
    match (Text.pieces '/' path.toList).reverse with
    | [] => .error .notFound
    | [] :: _ => .error (if path.isEmpty then .notFound else .isDirectory)
    | name :: above => do
      if Path.isIdle name ∨ name = ['.', '.'] then .error .notFound
      else
        let place ← t.root.walk (t.start path) above.reverse
        match t.root.at? place.reverse with
        | some (.directory _) =>
          .ok (t.put (place.reverse ++ [String.ofList name]) (.file (some text)))
        | _ => .error .notDirectory
  | .error f => .error f

/-- The tree with the directory of a path and those that lead there, as far as they are missing. -/
def makeDirectory (t : FileTree) (path : String) : FileTree :=
  { t with root := t.root.makeWay (t.start path) (Text.pieces '/' path.toList) }

end FileTree

end NotebookEngine
