/-
**Command files.**

The program that installs packages may be a command file.  The few commands that such a stand-in uses
are understood here: `echo`, `printf`, `exit`, `mkdir`, output sent to the error stream or to a file.

Main definitions:

* `CommandFile.words` — a line split into words and separators;
* `CommandFile.State` — the exit status, the bytes of the error stream, the files;
* `CommandFile.run` — the result of running a command file.
-/

import NotebookEngine.Files.Tree
import NotebookEngine.Text.Bytes

set_option autoImplicit false

namespace NotebookEngine

namespace CommandFile

/-! ### Words -/

/-- A word of a command line. -/
inductive Word where
  | text (cs : List Char)
  /-- The arguments of the file, each a word. -/
  | arguments
  | redirect
  | redirectError
  | separator
  deriving DecidableEq, Inhabited

/-- Where a line is being split. -/
inductive Quoting where
  | plain
  | single
  | double
  | comment
  deriving DecidableEq

/-- Close the word that is being gathered. -/
def closeWord (open? : Option (List Char)) (after : List Word) : List Word :=
  match open? with
  | some cs => .text cs.reverse :: after
  | none => after

/-- The words of a text. -/
def words : Quoting → Option (List Char) → List Char → List Word
  | _, open?, [] => closeWord open? []
  | .single, open?, c :: cs =>
    if c = '\'' then words .plain open? cs
    else words .single (some (c :: open?.getD [])) cs
  | .double, open?, '$' :: '@' :: '"' :: cs =>
    closeWord (open?.filter (!·.isEmpty)) (.arguments :: words .plain none cs)
  | .double, open?, '\\' :: c :: cs =>
    if c = '"' ∨ c = '\\' ∨ c = '$' then words .double (some (c :: open?.getD [])) cs
    else words .double (some (c :: '\\' :: open?.getD [])) cs
  | .double, open?, c :: cs =>
    if c = '"' then words .plain open? cs
    else words .double (some (c :: open?.getD [])) cs
  | .comment, open?, c :: cs =>
    if c = '\n' then .separator :: words .plain open? cs else words .comment open? cs
  | .plain, open?, '>' :: '&' :: '2' :: cs => closeWord open? (.redirectError :: words .plain none cs)
  | .plain, open?, '\\' :: c :: cs => words .plain (some (c :: open?.getD [])) cs
  | .plain, open?, c :: cs =>
    if c = ' ' ∨ c = '\t' then closeWord open? (words .plain none cs)
    else if c = '\n' ∨ c = ';' then closeWord open? (.separator :: words .plain none cs)
    else if c = '>' then closeWord open? (.redirect :: words .plain none cs)
    else if c = '\'' then words .single (some (open?.getD [])) cs
    else if c = '"' then words .double (some (open?.getD [])) cs
    else if c = '#' ∧ open?.isNone then
      words .comment none cs
    else words .plain (some (c :: open?.getD [])) cs

/-! ### Running -/

/-- The state of a run. -/
structure State where
  status : Nat
  errors : List Nat
  files : FileTree
  stopped : Bool

/-- A command without its redirections. -/
structure Command where
  arguments : List (List Char)
  toErrors : Bool
  target : Option (List Char)

/-- Gather the words of one command. -/
def gather (arguments : List String) : Command → List Word → Command
  | c, [] => c
  | c, .text w :: ws => gather arguments { c with arguments := c.arguments ++ [w] } ws
  | c, .arguments :: ws =>
    gather arguments { c with arguments := c.arguments ++ arguments.map String.toList } ws
  | c, .redirectError :: ws => gather arguments { c with toErrors := true } ws
  | c, .redirect :: .text w :: ws => gather arguments { c with target := some w } ws
  | c, .redirect :: ws => gather arguments c ws
  | c, .separator :: ws => gather arguments c ws

/-- The bytes that a format of `printf` stands for. -/
def formatBytes : List Char → List Nat
  | [] => []
  | '\\' :: 'n' :: cs => 10 :: formatBytes cs
  | '\\' :: 't' :: cs => 9 :: formatBytes cs
  | '\\' :: '\\' :: cs => 92 :: formatBytes cs
  | '\\' :: a :: b :: c :: cs =>
    if a.isDigit ∧ b.isDigit ∧ c.isDigit then
      ((a.toNat - 48) * 64 + (b.toNat - 48) * 8 + (c.toNat - 48)) % 256 :: formatBytes cs
    else 92 :: formatBytes (a :: b :: c :: cs)
  | c :: cs => Text.toBytes (String.singleton c) ++ formatBytes cs

/-- The state after a command printed some bytes. -/
def State.print (directory : String) (c : Command) (bytes : List Nat) (s : State) : State :=
  match c.target with
  | some w =>
    match s.files.writeText (Path.join directory (String.ofList w)) (Text.ofBytes bytes) with
    | .ok files => { s with files := files, status := 0 }
    | .error _ => { s with status := 2 }
  | none =>
    if c.toErrors then { s with errors := s.errors ++ bytes, status := 0 }
    else { s with status := 0 }

/-- The state after one command. -/
def State.run (directory : String) (c : Command) (s : State) : State :=
  match c.arguments with
  | [] => s
  | name :: rest =>
    match String.ofList name with
    | "echo" =>
      s.print directory c (Text.toBytes (String.ofList ([' '].intercalate rest) ++ "\n"))
    | "printf" => s.print directory c (formatBytes (rest.headD []))
    | "exit" =>
      { s with
        stopped := true
        status := match rest with
          | [] => s.status
          | w :: _ => (String.ofList w).toNat?.getD 2 % 256 }
    | "mkdir" =>
      let make (t : FileTree) (w : List Char) : FileTree :=
        t.makeDirectory (Path.join directory (String.ofList w))
      { s with files := (rest.filter (· ≠ ['-', 'p'])).foldl make s.files, status := 0 }
    | "true" => { s with status := 0 }
    | "false" => { s with status := 1 }
    | _ => { s with status := 127 }

/-- The commands of a list of words. -/
def commands : List Word → List (List Word)
  | [] => [[]]
  | .separator :: ws => [] :: commands ws
  | w :: ws =>
    match commands ws with
    | [] => [[w]]
    | c :: cs => (w :: c) :: cs

/-- The state after running a command file in a directory. -/
def run (text directory : String) (arguments : List String) (files : FileTree) : State :=
  let step (s : State) (ws : List Word) : State :=
    if s.stopped then s else s.run directory (gather arguments ⟨[], false, none⟩ ws)
  (commands (words .plain none text.toList)).foldl step ⟨0, [], files, false⟩

end CommandFile

end NotebookEngine
