/-
**Failures of the engine itself.**

What goes wrong inside a notebook's own code is an event of its run.  A failure is what keeps the engine
from doing its work: a document that cannot be read, an installer that gives up, a project that is not
there.

Main definitions:

* `Failure` — the causes;
* `Failure.message` — the text of a failure;
* `Failure.hinted` — the text with advice on how to recover, where there is any.
-/

import NotebookEngine.Json.Cursor

set_option autoImplicit false

namespace NotebookEngine

/-- A failure of the engine or of one of its collaborators. -/
inductive Failure where
  /-- A notebook document that cannot be read. -/
  | document (text : String)
  /-- A module that cannot be installed. -/
  | moduleInstall (module : Option String) (text : String)
  /-- A program that cannot be compiled. -/
  | compilation (text : String)
  /-- A source map that cannot be read. -/
  | sourceMap (text : String)
  /-- A script engine that cannot be driven. -/
  | engine (text : String)
  /-- A JSON text that cannot be read. -/
  | json (text : String)
  /-- A file that cannot be read or written. -/
  | file (text : String)
  /-- A request that makes no sense. -/
  | invalidOperation (text : String)
  deriving DecidableEq, Inhabited

namespace Failure

/-- The text of a failure. -/
def message : Failure → String
  | .document text => "parse error: " ++ text
  | .moduleInstall none text => "module installation failed: " ++ text
  | .moduleInstall (some m) text => "module installation failed for " ++ m ++ ": " ++ text
  | .compilation text => "compilation failed: " ++ text
  | .sourceMap text => "source map error: " ++ text
  | .engine text => "runtime error: " ++ text
  | .json text => "JSON error: " ++ text
  | .file text => "IO error: " ++ text
  | .invalidOperation text => "invalid operation: " ++ text

/-- Advice on how to recover. -/
def hint : Failure → Option String
  | .document _ | .json _ =>
    some "check that the notebook is a JSON document with a \x60cells\x60 array"
  | .moduleInstall _ _ =>
    some "make sure \x60npm\x60 is on your PATH and the project directory is writable"
  | .engine _ => some "re-run with --verbose to see the engine log"
  | _ => none

/-- The text with the advice on a line of its own. -/
def hinted (f : Failure) : String :=
  match f.hint with
  | some advice => f.message ++ "\n  hint: " ++ advice
  | none => f.message

end Failure

end NotebookEngine
