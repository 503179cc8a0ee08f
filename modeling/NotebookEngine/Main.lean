/-
**The command-line program.**

The files below the working directory are read, the command line is carried out on them, and what it
wrote is put back.  Files elsewhere are not read: a path that leads out of the working directory finds
nothing but the directories above it.

Main definitions:

* `Main.readTree`, `Main.writeTree` — files, and changes to them;
* `main` — the program.
-/

import NotebookEngine.Command.Execute

set_option autoImplicit false

namespace NotebookEngine

namespace Main

/-- The number of directories that may be nested. -/
def nesting : Nat := 64

/-- The files below a directory, as far as they can be read. -/
def readTree : Nat → IO.FS.DirEntry → IO FileNode
  | 0, _ => pure .empty
  | depth + 1, entry => do
    if ← entry.path.isDir then
      let mut entries : List (String × FileNode) := []
      for e in ← entry.path.readDir do
        entries := (e.fileName, ← readTree depth e) :: entries
      pure (.directory entries)
    else
      let bytes ← IO.FS.readBinFile entry.path
      pure (.file (String.fromUTF8? bytes))

/-- Write the files that differ from what is there. -/
def writeTree (path : String) (before? : Option FileNode) : FileNode → IO Unit
  | .file (some text) => do
    match before? with
    | some (.file (some old)) => if old ≠ text then IO.FS.writeFile path text
    | _ => IO.FS.writeFile path text
  | .file none => pure ()
  | .directory entries => do
    if before?.isNone then IO.FS.createDirAll path
    for h : i in [0:entries.length] do
      let e := entries[i]
      writeTree (path ++ "/" ++ e.1) (before?.bind fun b => b.child? e.1) e.2
termination_by t => sizeOf t
decreasing_by
  have h1 : sizeOf entries[i] < sizeOf entries := List.sizeOf_lt_of_mem (List.getElem_mem _)
  have h2 : sizeOf entries[i].2 < sizeOf entries[i] := by cases entries[i]; simp +arith
  simp only [FileNode.directory.sizeOf_spec]
  omega

/-- The identity of a cell that has none: a random one. -/
def randomIds : IO (Nat → String) := do
  let seed ← IO.rand 0 (Nat.pow 2 62)
  pure fun i => "cell-" ++ toString seed ++ "-" ++ toString i

end Main

end NotebookEngine

open NotebookEngine in
/-- Carry out the command line. -/
def main (words : List String) : IO UInt32 := do
  let here ← IO.currentDir
  let directory ← Main.readTree Main.nesting ⟨here, "."⟩
  let names := (Path.components here.toString).map fun part => String.ofList part.1
  let surroundings : Command.Surroundings :=
    { files := .workingIn names directory, fresh := ← Main.randomIds, installer? := none, time := "" }
  let outcome := Command.execute surroundings words
  IO.print outcome.output
  IO.eprint outcome.errors
  Main.writeTree "." (some directory) ((outcome.files.root.at? names).getD directory)
  pure outcome.status.toUInt32
