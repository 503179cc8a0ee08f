/-
**Parameters of constructors that are fields.**

A parameter that is also a field becomes a field without a value and an assignment in the constructor.
The values of the other fields are moved behind these assignments, which come right after every call of
the superclass's constructor, or first of all where there is none.

Main definitions:

* `Script.aliasName` — the name of a variable for the value of an expression;
* `Script.setAfterSuper` — a constructor's body with assignments in it;
* `Script.lowerClass` — a class whose constructor's parameters are no fields.
-/

import NotebookEngine.Script.Literal
import NotebookEngine.Script.Lowering

set_option autoImplicit false

namespace NotebookEngine

namespace Script

/-! ### Variables for keys -/

/-- The name that an expression suggests for a variable. -/
def suggestedName? : Node → Option String
  | .mk (.name w) _ _ => some ("_" ++ w)
  | .mk (.member name _ _) _ [o] => some ((suggestedName? o).getD "" ++ "_" ++ name)
  | .mk (.index _) _ [o, k] =>
    some ((suggestedName? o).getD "" ++ "_" ++ (suggestedName? k).getD "")
  | .mk (.call _) _ (f :: _) => suggestedName? f
  | .mk .chain _ [e] => suggestedName? e
  | _ => none

/-- The name of a variable for the value of an expression. -/
def aliasName (e : Node) : String :=
  let name := (suggestedName? e).getD "_key"
  if name.startsWith "_" then name else "_" ++ name

/-- Whether the expression is a literal. -/
def isLiteral (e : Node) : Bool :=
  match e.form with
  | .string _ _ | .number _ _ | .bigint _ _ | .bool _ | .null | .regex _ _ => true
  | .template _ _ => e.parts.isEmpty
  | _ => false

/-! ### Assignments to fields -/

/-- The member of the object under construction that a key names. -/
def ownMember (computed : Bool) (k : Node) : Node :=
  let this := Node.made .this []
  if computed then .made (.index false) [this, k]
  else
    match k.form with
    | .name w => .made (.member w k.span false) [this]
    | .privateName w => .made (.privateMember w k.span false) [this]
    | _ => .made (.index false) [this, k]

/-- The assignment that sets a field. -/
def fieldAssign (computed : Bool) (k value : Node) : Node :=
  .made (.assign "=") [ownMember computed k, value]

/-- A member of a class whose value was moved away: the member, the assignment that takes its place, and
the variable for its key. -/
structure MovedField where
  member : Node
  assigns : List Node
  bareNames : List String

/-- A member of a class without its value. -/
def moveValue (m : Node) : MovedField :=
  match m.form, m.parts with
  | .field false computed, [k, v] =>
    if v.isAbsent then ⟨m, [], []⟩
    else if computed && !isLiteral k then
      let name := aliasName k
      let key := Node.made (.assign "=") [.named name, k]
      ⟨.mk m.form m.span [key, .absent], [fieldAssign true (.named name) v], [name]⟩
    else ⟨.mk m.form m.span [k, .absent], [fieldAssign computed k v], []⟩
  | .decorated, .mk (.field false computed) span [k, v] :: marks =>
    if v.isAbsent || (computed && !isLiteral k) then ⟨m, [], []⟩
    else
      ⟨.mk .decorated m.span (.mk (.field false computed) span [k, .absent] :: marks),
        [fieldAssign computed k v], []⟩
  | _, _ => ⟨m, [], []⟩

/-! ### Constructors -/

/-- Whether the node is a call of the superclass's constructor. -/
def isSuperCall (n : Node) : Bool :=
  match n.form with
  | .call _ => (n.part 0).form = .super
  | _ => false

/-- Whether a node keeps to itself what calls of the superclass's constructor are in it. -/
def isSuperScope (f : Form) : Bool :=
  match f with
  | .function _ | .functionDecl _ | .method _ _ _ _ => true
  | _ => false

/-- Whether the value of the part of a form at a place is not used, the form having so many parts; `outer`
says so of the whole. -/
def Form.ignoresPart (f : Form) (outer : Bool) (count i : Nat) : Bool :=
  match f with
  | .expression => true
  | .sequence => outer || i + 1 < count
  | .paren => outer
  | _ => false

mutual

/-- A tree with assignments after each call of the superclass's constructor; `ignored` says that the value
of the tree is not used. -/
def addAfterSuper (assigns : List Node) (ignored : Bool) : Node → Node
  | .mk form span parts =>
    if isSuperScope form then .mk form span parts
    else
      let n := Node.mk form span
        (addAfterSuperIn assigns (form.ignoresPart ignored parts.length) 0 parts)
      if !isSuperCall n then n
      else if ignored then .made .sequence (n :: assigns)
      else
        .made (.index false) [.made .array (n :: assigns), .made (.number 0 "0") []]

/-- Trees with assignments after each call of the superclass's constructor; `ignores` says whether the
value of the tree of a place is not used. -/
def addAfterSuperIn (assigns : List Node) (ignores : Nat → Bool) : Nat → List Node → List Node
  | _, [] => []
  | i, n :: ns => addAfterSuper assigns (ignores i) n :: addAfterSuperIn assigns ignores (i + 1) ns

end

mutual

/-- Whether a tree calls the superclass's constructor, other than within what keeps it to itself. -/
def callsSuper : Node → Bool
  | .mk form span parts =>
    !isSuperScope form && (isSuperCall (.mk form span parts) || callsSuperIn parts)

/-- Whether one of the trees calls the superclass's constructor. -/
def callsSuperIn : List Node → Bool
  | [] => false
  | n :: ns => callsSuper n || callsSuperIn ns

end

/-- Whether a statement is a string alone. -/
def isDirective (s : Node) : Bool :=
  match s.form with
  | .expression =>
    match (s.part 0).form with
    | .string _ _ => true
    | _ => false
  | _ => false

/-- The statements of a constructor with assignments in them. -/
def setAfterSuper (assigns statements : List Node) : List Node :=
  if callsSuperIn statements then addAfterSuperIn assigns (fun _ => false) 0 statements
  else
    statements.takeWhile isDirective ++
      assigns.map (fun a => .made .expression [a]) ++ statements.dropWhile isDirective

/-! ### Classes -/

/-- The parameter without its being a field. -/
def plainParam (p : Node) : Node :=
  match p.form, p.parts with
  | .parameterField, [q] => q
  | .decorated, .mk .parameterField _ [q] :: marks => .mk .decorated p.span (q :: marks)
  | _, _ => p

/-- The identifier of a parameter that is a field. -/
def fieldParam? (p : Node) : Option Node :=
  match p.form, p.parts with
  | .parameterField, [q] => (boundNames q).head?
  | .decorated, .mk .parameterField _ [q] :: _ => (boundNames q).head?
  | _, _ => none

/-- The identifiers of the parameters of a class's constructor that are fields. -/
def fieldParams (members : List Node) : List Node :=
  members.flatMap fun m =>
    match m.form with
    | .method .constructor _ _ _ => (m.parts.drop 2).filterMap fieldParam?
    | _ => []

/-- The constructor with assignments in its body, none of its parameters being a field. -/
def lowerConstructor (assigns : List Node) (m : Node) : Node :=
  match m.form, m.parts with
  | .method .constructor _ _ _, k :: body :: params =>
    let statements := setAfterSuper assigns body.parts
    .mk m.form m.span (k :: .mk body.form body.span statements :: params.map plainParam)
  | _, _ => m

/-- A class whose constructor's parameters are no fields, and the variables for the keys of its other
fields. -/
def lowerClass (n : Node) : Node × List String :=
  let members := n.parts.drop 2
  let names := fieldParams members
  if names.isEmpty then (n, [])
  else
    let moved := members.map moveValue
    let assigns := names.map (fun f => fieldAssign false f (.named f.nameText)) ++
      moved.flatMap MovedField.assigns
    let declared := names.map fun f => Node.made (.field false false) [f, .absent]
    let members := moved.map fun m => lowerConstructor assigns m.member
    (.mk n.form n.span (n.parts.take 2 ++ declared ++ members), moved.flatMap MovedField.bareNames)

end Script

end NotebookEngine
