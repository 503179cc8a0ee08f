/-
**Names that become members.**

What a namespace exports is a member of its object, and wherever a program uses a name that some
namespace exports, the member takes its place.  Names are compared as they are written: of two namespaces
that export one name the last one counts, and a variable of that name elsewhere is taken for it too.

Main definitions:

* `Script.Role`, `Script.Form.roles` — what the parts of a node are, as far as names are concerned;
* `Script.Owners` — the namespaces that names belong to;
* `Script.ownersOf` — those of a program;
* `Script.qualify` — a tree with names and known members of enumerations replaced;
* `Script.usedNames` — the names that a tree makes use of.
-/

import NotebookEngine.Script.Enumeration
import NotebookEngine.Script.Lowering

set_option autoImplicit false

namespace NotebookEngine

namespace Script

/-! ### Roles -/

/-- What a part of a node is, as far as names are concerned. -/
inductive Role where
  | value
  /-- What is bound or assigned. -/
  | target
  /-- A name that stands for itself. -/
  | fixed
  /-- What the whole is. -/
  | same
  deriving DecidableEq

/-- The roles of the first parts of a form and of the others. -/
def Form.roles : Form → List Role × Role
  | .property computed => ([if computed then .value else .fixed, .value], .value)
  | .patternProperty computed => ([if computed then .value else .fixed, .same], .value)
  | .shorthandPattern => ([.target, .value], .value)
  | .method _ _ _ computed => ([if computed then .value else .fixed, .value], .target)
  | .function _ => ([.fixed, .value], .target)
  | .functionDecl _ => ([.fixed, .value], .target)
  | .arrow _ => ([.value], .target)
  | .class => ([.fixed, .value], .value)
  | .classDecl => ([.fixed, .value], .value)
  | .field _ computed => ([if computed then .value else .fixed, .value], .value)
  | .accessorField _ computed => ([if computed then .value else .fixed, .value], .value)
  | .declarator => ([.target, .value], .value)
  | .assign _ => ([.target, .value], .value)
  | .forIn => ([.target, .value], .value)
  | .forOf _ => ([.target, .value], .value)
  | .catchClause => ([.target, .value], .value)
  | .arrayPattern => ([], .target)
  | .objectPattern => ([], .target)
  | .rest => ([], .target)
  | .parameterField => ([], .target)
  | .defaulted => ([.target, .value], .value)
  | .exportSpecifier _ => ([], .fixed)
  | .exportNamespace => ([], .fixed)
  | .enumDecl _ _ => ([.fixed], .value)
  | .namespaceDecl _ _ => ([.fixed], .value)
  | .importEquals _ => ([], .fixed)
  | _ => ([], .value)

/-- The role of the part of a form that is at a place. -/
def Form.roleAt (f : Form) (outer : Role) (i : Nat) : Role :=
  match f.roles.1[i]?.getD f.roles.2 with
  | .same => outer
  | role => role

/-! ### Owners -/

/-- The namespaces that names belong to; a name that a program exports itself belongs to none. -/
abbrev Owners := List (String × Option String)

/-- The namespace that a name belongs to. -/
def Owners.find? (o : Owners) (name : String) : Option String := (o.lookup name).join

/-- The names that are exported with a declaration. -/
def exportedNames (d : Node) : List String :=
  match d.form with
  | .declare _ => (declaredNames d).map Node.nameText
  | .enumDecl _ _ | .namespaceDecl _ _ => [(d.part 0).nameText]
  | _ => []

mutual

/-- Owners with those of the names in a tree, the namespace around which is given. -/
def addOwners (around : Option String) (o : Owners) : Node → Owners
  | .mk (.namespaceDecl false _) _ (name :: items) => addOwnersIn (some name.nameText) o items
  | .mk (.namespaceDecl _ _) _ _ => o
  | .mk .ambient _ _ => o
  | .mk .exportDecl _ [d] =>
    (exportedNames d).foldl (fun o name => (name, around) :: o) (addOwners around o d)
  | .mk (.importEquals true) _ (name :: _) => (name.nameText, around) :: o
  | .mk _ _ parts => addOwnersIn around o parts

/-- Owners with those of the names in trees. -/
def addOwnersIn (around : Option String) (o : Owners) : List Node → Owners
  | [] => o
  | n :: ns => addOwnersIn around (addOwners around o n) ns

end

/-- The namespaces that the names of a program belong to. -/
def ownersOf (program : Node) : Owners := addOwners none [] program

/-! ### Replacing -/

/-- What is known of a program while its names are replaced. -/
structure Names where
  enums : EnumTable
  owners : Owners

/-- Where in a program a name stands. -/
structure Standing where
  role : Role
  /-- Within what is written to. -/
  written : Bool
  /-- Within the target of a declaration. -/
  declared : Bool
  /-- Within a namespace. -/
  inNamespace : Bool
  /-- Within a declaration that a namespace exports. -/
  exported : Bool

/-- Whether the part of a form that is at a place is written to, the whole being so or not. -/
def Form.writesPart (f : Form) (outer : Bool) (i : Nat) : Bool :=
  match f with
  | .assign _ | .defaulted => i = 0
  | .update _ _ => true
  | .shorthandPattern => outer && i = 0
  | .member _ _ _ | .privateMember _ _ _ | .index _ => false
  | _ => outer

/-- Where the part of a form stands. -/
def Standing.part (s : Standing) (f : Form) (i : Nat) : Standing :=
  { role := f.roleAt s.role i
    written := f.writesPart s.written i
    declared := s.declared || (f = .declarator && i = 0 && !s.exported)
    inNamespace := match f with
      | .namespaceDecl _ _ => true
      | _ => s.inNamespace
    exported := match f with
      | .exportDecl => s.inNamespace
      | .declare _ => s.exported
      | _ => false }

/-- The member that a name is, where it stands for one. -/
def owned? (names : Names) (s : Standing) (name : Node) : Option Node :=
  if s.declared || s.role = .fixed then none
  else
    match name.form with
    | .name w => (names.owners.find? w).map fun o => memberAt o w name.span
    | _ => none

/-- A node whose parts were treated, with its own name replaced. -/
def qualifyStep (names : Names) (s : Standing) (n : Node) : Node :=
  match n.form, n.parts with
  | .name _, _ => (owned? names s n).getD n
  | .shorthand, [name] =>
    match owned? names { s with role := .value } name with
    | some m => .mk (.property false) n.span [name, m]
    | none => n
  | .shorthandPattern, name :: rest =>
    match owned? names { s with role := .target } name with
    | some m =>
      let value := if (rest.headD .absent).isAbsent then m
        else Node.made .defaulted [m, rest.headD .absent]
      .mk (.patternProperty false) n.span [name, value]
    | none => n
  | _, _ => n

mutual

/-- A tree with names and known members of enumerations replaced. -/
def qualify (names : Names) (s : Standing) : Node → Node
  | .mk .shorthand span parts => qualifyStep names s (.mk .shorthand span parts)
  | .mk form span parts =>
    if s.role = .fixed then .mk form span parts
    else
      match if s.written then none else memberConstant? names.enums (.mk form span parts) with
      | some v => v.node
      | none =>
        match form, parts with
        | .asserted, [e] => qualify names s e
        | .shorthandPattern, name :: rest =>
          qualifyStep names s
            (.mk form span (name :: qualifyParts names (s.part form) 1 rest))
        | _, parts =>
          qualifyStep names s (.mk form span (qualifyParts names (s.part form) 0 parts))

/-- The parts of a node with names replaced; `standing` says where the part of a place stands. -/
def qualifyParts (names : Names) (standing : Nat → Standing) : Nat → List Node → List Node
  | _, [] => []
  | i, n :: ns => qualify names (standing i) n :: qualifyParts names standing (i + 1) ns

end

/-- A program with names and known members of enumerations replaced. -/
def qualifyProgram (program : Node) : Node :=
  qualify ⟨enumTable program, ownersOf program⟩ ⟨.value, false, false, false, false⟩ program

/-! ### Names in use -/

mutual

/-- The names that a tree makes use of: those it refers to, other than what is bound or assigned. -/
def usedNames (role : Role) : Node → List String
  | .mk (.name w) _ _ => if role = .value then [w] else []
  | .mk (.importEquals exported) _ [name, place] =>
    if exported then name.nameText :: usedNames .value place else []
  | .mk .shorthandPattern _ (_ :: rest) => usedNamesIn (fun _ => .value) 1 rest
  | .mk form _ parts =>
    if role = .fixed then [] else usedNamesIn (form.roleAt role) 0 parts

/-- The names that trees make use of; `roles` says what the tree of a place is. -/
def usedNamesIn (roles : Nat → Role) : Nat → List Node → List String
  | _, [] => []
  | i, n :: ns => usedNames (roles i) n ++ usedNamesIn roles (i + 1) ns

end

/-- The name that the place of an import starts with. -/
def rootName (n : Node) : String :=
  match n with
  | .mk (.name w) _ _ => w
  | .mk (.member _ _ _) _ [o] => rootName o
  | _ => ""

/-- The names that are in use because of imports of other names; `n` bounds the length of a chain. -/
def chainedNames (imports : List (String × String)) : Nat → List String → List String
  | 0, _ => []
  | n + 1, used =>
    let more := used.filterMap fun name => imports.lookup name
    if more.isEmpty then [] else more ++ chainedNames imports n more

/-- The items of a namespace without the imports that are not in use. -/
def dropUnusedImports (items : List Node) : List Node :=
  let used := items.flatMap (usedNames .value)
  let imports := items.filterMap fun n =>
    match n.form with
    | .importEquals false => some ((n.part 0).nameText, rootName (n.part 1))
    | _ => none
  let used := used ++ chainedNames imports imports.length used
  items.filter fun n =>
    match n.form with
    | .importEquals false => used.contains (n.part 0).nameText
    | _ => true

end Script

end NotebookEngine
