/-
**Installing the packages that cells need.**

Main definitions:

* `Installer` — what makes the packages of a source text available;
* `Installer.none` — installs nothing;
* `Package.missing` — the packages of a source text that a project lacks;
* `Installer.command` — installs the missing packages by running a program.
-/

import NotebookEngine.Package.Name
import NotebookEngine.Package.CommandFile
import NotebookEngine.Failure
import NotebookEngine.Text.Blank

set_option autoImplicit false

namespace NotebookEngine

/-- What makes the packages of a source text available in a project: given the files, the project and
the text, the files afterwards. -/
abbrev Installer := FileTree → String → String → Except Failure FileTree

namespace Package

/-- Whether a project has a package: its manifest is there. -/
def isInstalled (t : FileTree) (project package : String) : Bool :=
  t.isFile (Path.join (Path.join (Path.join project "node_modules") package) "package.json")

/-- The packages of a source text that the project lacks. -/
def missing (t : FileTree) (project source : String) : List String :=
  (required source).filter fun p => !isInstalled t project p

end Package

namespace Installer

/-- Installs nothing. -/
def none : Installer := fun t _ _ => .ok t

/-- The text of an installing program, found from the project directory. -/
def programText (t : FileTree) (project path : String) : Except FileFault String :=
  if !t.isDirectory project then .error .notFound
  else if !path.toList.contains '/' then .error .notFound
  else
    let path := Path.join project path
    match t.lookup path with
    | .ok (.file (some text)) => if path.endsWith ".sh" then .ok text else .error .denied
    | .ok _ => .error .denied
    | .error f => .error f

/-- Installs the missing packages by running the program at a path; without a path there is no program
to run. -/
def command (path? : Option String) : Installer := fun t project source =>
  match Package.missing t project source with
  | [] => .ok t
  | missing =>
    match path? with
    | .none => .error (.moduleInstall .none "npm not found in PATH")
    | .some path =>
      let names := " ".intercalate missing
      match programText t project path with
      | .error f =>
        .error (.moduleInstall (some names) ("Failed to run npm: " ++ f.message))
      | .ok text =>
        let result := CommandFile.run text project ("install" :: "--save" :: missing) t
        if result.status = 0 then .ok result.files
        else .error (.moduleInstall (some names) (Text.trim (Text.ofBytes result.errors)))

end Installer

end NotebookEngine
