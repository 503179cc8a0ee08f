/-
**Resolving module specifiers to files.**

A specifier that starts like a path is looked up from the requiring directory; a bare one in the
`node_modules` of that directory and of each above it.  A file is tried under its own name, then with
an extension, then as a directory with a manifest or an index file.

Main definitions:

* `Module.splitPackage` — a bare specifier as a package and a path inside it;
* `Module.resolveFile`, `Module.resolveDirectory` — the candidates of a path and of a directory;
* `Module.resolve` — the file of a specifier;
* `Module.Loaded`, `Module.load` — the text of a module with its format, or why it cannot be read.
-/

import NotebookEngine.Files.Tree
import NotebookEngine.Json.Reader

set_option autoImplicit false

namespace NotebookEngine

namespace Module

/-! ### Specifiers -/

/-- Whether a specifier is a path. -/
def isPath (specifier : String) : Bool :=
  specifier.startsWith "./" || specifier.startsWith "../" || specifier.startsWith "/"

/-- Split a bare specifier into its package and the path inside it. -/
def splitPackage (specifier : String) : String × Option String :=
  match Text.splitOnChar '/' specifier with
  | first :: second :: rest =>
    if first.startsWith "@" then
      match rest with
      | [] => (specifier, none)
      | _ => (first ++ "/" ++ second, some ("/".intercalate rest))
    else (first, some ("/".intercalate (second :: rest)))
  | _ => (specifier, none)

/-! ### Candidates -/

/-- The extensions that a path may leave out, in the order in which they are tried. -/
def extensions : List String := ["js", "json", "cjs"]

/-- The entry file that a manifest names. -/
def manifestMain (t : FileTree) (directory : String) : Option String :=
  match t.readText (Path.join directory "package.json") with
  | .error _ => none
  | .ok text =>
    match Json.parse text with
    | .error _ => none
    | .ok manifest => (manifest.field? "main").bind Json.text?

/-- The files that an entry of a manifest may mean. -/
def entryCandidates (path : String) : List String :=
  [path, Path.join path "index.js", path ++ ".js"]

/-- The files that a directory may stand for. -/
def directoryCandidates (t : FileTree) (directory : String) : List String :=
  (match manifestMain t directory with
    | some entry => entryCandidates (Path.join directory entry)
    | none => []) ++ [Path.join directory "index.js"]

/-- The file that a directory stands for. -/
def resolveDirectory (t : FileTree) (directory : String) : Option String :=
  (directoryCandidates t directory).find? t.isFile

/-- The files that a path may mean. -/
def fileCandidates (t : FileTree) (path : String) : List String :=
  (path :: extensions.map fun e => path ++ "." ++ e) ++
    if t.isDirectory path then directoryCandidates t path else []

/-- The file that a path means. -/
def resolveFile (t : FileTree) (path : String) : Option String :=
  (fileCandidates t path).find? t.isFile

/-- The file that a bare specifier means among the packages of one directory. -/
def resolvePackage (t : FileTree) (modules specifier : String) : Option String :=
  let (package, inner) := splitPackage specifier
  let directory := Path.join modules package
  if t.isDirectory directory then
    match inner with
    | some path => resolveFile t (Path.join directory path)
    | none => resolveDirectory t directory
  else none

/-- A bare specifier without the mark of a platform module. -/
def withoutScheme (specifier : String) : String :=
  match Text.dropStart? "node:".toList specifier.toList with
  | some rest => String.ofList rest
  | none => specifier

/-- The file of a specifier required from the directory `base`. -/
def resolve (t : FileTree) (base specifier : String) : Option String :=
  if isPath specifier then resolveFile t (Path.join base specifier)
  else
    let specifier := withoutScheme specifier
    (Path.ancestors base).findSome? fun directory =>
      let modules := Path.join directory "node_modules"
      if t.isDirectory modules then resolvePackage t modules specifier else none

/-! ### Loading -/

/-- The formats of modules. -/
inductive Format where
  /-- A body that fills in its exports. -/
  | script
  /-- A value. -/
  | json
  deriving DecidableEq, Inhabited

/-- What loading a module gives. -/
inductive Loaded where
  /-- The text of a module. -/
  | text (format : Format) (path source : String)
  /-- Why there is none. -/
  | failed (message : String)
  deriving DecidableEq, Inhabited

/-- The text of the module at a path. -/
def load (t : FileTree) (path : String) : Loaded :=
  match t.readText path with
  | .ok source => .text (if Path.extension? path = some "json" then .json else .script) path source
  | .error f => .failed (path ++ ": " ++ f.message)

end Module

end NotebookEngine
