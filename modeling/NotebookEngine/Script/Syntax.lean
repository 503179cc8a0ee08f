/-
**Syntax trees of scripts.**

A node has a form, a span of source text and parts, which are nodes again.  The form says what the node
is and which parts it has, in order; a part that may be left out is a node of the form `absent`.  One
type for all nodes lets a pass over a whole program be written, and reasoned about, once.

Main definitions:

* `Script.Span` — a stretch of source text;
* `Script.Form` — what a node is;
* `Script.Node` — a node;
* `Script.Node.rebuild` — a pass over a tree, from the leaves up;
* `Script.Node.all` — whether a condition holds at every node.
-/

set_option autoImplicit false

namespace NotebookEngine

namespace Script

/-! ### Spans -/

/-- A stretch of source text; characters are counted from one, and a node that was made up has the span
from zero to zero. -/
structure Span where
  lo : Nat
  hi : Nat
  deriving DecidableEq, Inhabited

/-- The span of a node that was made up. -/
def Span.none : Span := ⟨0, 0⟩

/-! ### Forms -/

/-- How variables are declared. -/
inductive Declaration where
  | variable
  | lexical
  | constant
  deriving DecidableEq, Inhabited

/-- The word of a declaration. -/
def Declaration.word : Declaration → String
  | .variable => "var"
  | .lexical => "let"
  | .constant => "const"

/-- How a function runs. -/
structure FunctionMode where
  isAsync : Bool
  isGenerator : Bool
  deriving DecidableEq, Inhabited

/-- A function that runs to its end when it is called. -/
def FunctionMode.plain : FunctionMode := ⟨false, false⟩

/-- What a method is for. -/
inductive MethodKind where
  | method
  | getter
  | setter
  | constructor
  deriving DecidableEq, Inhabited

/-- What a node is. The parts of each form are listed after it. -/
inductive Form where
  /-- A part that was left out. -/
  | absent
  /-- An identifier, as an expression, a binding or a label of a member. -/
  | name (text : String)
  | this
  | super
  | null
  | bool (value : Bool)
  | number (value : Float) (raw : String)
  | bigint (value : Nat) (raw : String)
  | string (value raw : String)
  | regex (pattern flags : String)
  /-- A template: the expressions between its texts. -/
  | template (cooked : List (Option String)) (raw : List String)
  | importMeta
  | newTarget
  /-- The items, `absent` for a hole. -/
  | array
  /-- The properties. -/
  | object
  /-- A key and a value. -/
  | property (computed : Bool)
  /-- A name that is also the value. -/
  | shorthand
  /-- A name and the value it has by default; only valid where a pattern is meant. -/
  | shorthandDefault
  /-- An expression whose items are spread. -/
  | spread
  /-- A key, a body and the parameters. -/
  | method (kind : MethodKind) (mode : FunctionMode) (isStatic computed : Bool)
  /-- A name, a body and the parameters. -/
  | function (mode : FunctionMode)
  /-- A body, which is a block or an expression, and the parameters. -/
  | arrow (isAsync : Bool)
  /-- A name, a superclass and the members. -/
  | class : Form
  /-- A function and a template. -/
  | tagged
  | unary (op : String)
  | update (op : String) (before : Bool)
  | binary (op : String)
  | assign (op : String)
  /-- A condition and two values. -/
  | conditional
  /-- A function and the arguments. -/
  | call (optional : Bool)
  /-- A constructor and the arguments. -/
  | new (hasArguments : Bool)
  /-- An object. -/
  | member (name : String) (nameSpan : Span) (optional : Bool)
  /-- An object; the name is private to a class. -/
  | privateMember (name : String) (nameSpan : Span) (optional : Bool)
  /-- An object and a key. -/
  | index (optional : Bool)
  /-- A chain that ends early where an optional part meets nothing. -/
  | chain
  | sequence
  | paren
  /-- A name of which it is said that it has a value, before one of its members is taken. -/
  | asserted
  /-- The value, which may be absent. -/
  | yield (delegate : Bool)
  | await
  /-- The arguments. -/
  | importCall
  /-- A name that is private to a class. -/
  | privateName (name : String)
  /-- The items. -/
  | arrayPattern
  /-- The properties. -/
  | objectPattern
  /-- A key and a pattern. -/
  | patternProperty (computed : Bool)
  /-- A name, and the value it has by default, which may be absent. -/
  | shorthandPattern
  | rest
  /-- A pattern and the value it has by default. -/
  | defaulted
  | block
  | empty
  | expression
  /-- A condition and two statements, the second of which may be absent. -/
  | ifThen
  /-- A start, a condition, a step and a body; all but the last may be absent. -/
  | forLoop
  /-- A target, an object and a body. -/
  | forIn
  /-- A target, an object and a body. -/
  | forOf (isAwait : Bool)
  /-- A condition and a body. -/
  | whileLoop
  /-- A body and a condition. -/
  | doWhile
  /-- The value, which may be absent. -/
  | return
  | break (label : Option String)
  | continue (label : Option String)
  | throw
  /-- A block, a catch clause and a block; one of the last two may be absent. -/
  | try
  /-- A pattern, which may be absent, and a block. -/
  | catchClause
  /-- A value and the cases. -/
  | switch
  /-- A value, absent for the default, and the statements. -/
  | case
  /-- A statement. -/
  | labelled (label : String) (labelSpan : Span)
  | debugger
  /-- An object and a body. -/
  | with
  /-- The declarators. -/
  | declare (kind : Declaration)
  /-- The declarators of variables that are let go of at the end of their block. -/
  | using (isAwait : Bool)
  /-- A pattern and a value, which may be absent. -/
  | declarator
  /-- A name, a body and the parameters. -/
  | functionDecl (mode : FunctionMode)
  /-- A name, a superclass and the members. -/
  | classDecl
  /-- A key and a value, which may be absent. -/
  | field (isStatic computed : Bool)
  /-- A key and a value, which may be absent; the field is reached by a getter and a setter. -/
  | accessorField (isStatic computed : Bool)
  /-- A block. -/
  | staticBlock
  /-- A class or a member and its decorators. -/
  | decorated
  /-- The imported bindings. -/
  | import (source raw : String) (sourceSpan : Span) (typeOnly : Bool)
  /-- A name for the default export. -/
  | importDefault
  /-- A name for all exports. -/
  | importNamespace
  /-- A local name, and the exported one, a name or a string, which may be absent. -/
  | importNamed (typeOnly : Bool)
  /-- A declaration. -/
  | exportDecl
  /-- A declaration or an expression. -/
  | exportDefault
  /-- The exported bindings, and an object if more is said about the source. -/
  | exportNamed (source : Option String) (typeOnly : Bool)
  /-- A local name and the exported one, which may be absent. -/
  | exportSpecifier (typeOnly : Bool)
  /-- A name for all exports. -/
  | exportNamespace
  /-- Nothing, or an object that says more about the source. -/
  | exportAll (source : String)
  /-- The value that is all a module exports. -/
  | exportAssign
  /-- A name and the members. -/
  | enumDecl (isConst declared : Bool)
  /-- A value, which may be absent. -/
  | enumMember (name : String)
  /-- A name and the statements; the namespace may be named after a point, within another one. -/
  | namespaceDecl (declared dotted : Bool)
  /-- A name within a namespace and the name or member that it stands for. -/
  | importEquals (exported : Bool)
  /-- A parameter that is also a field. -/
  | parameterField
  /-- A statement about types alone; the name it declares, if any. -/
  | typeOnly (name : Option String)
  /-- The declaration of something that is defined elsewhere. -/
  | ambient
  /-- A note in the output that a call has no effects, before the call. -/
  | pure
  /-- The statements of a program. -/
  | program (shebang : Option String)
  deriving DecidableEq, Inhabited

/-! ### Nodes -/

/-- A node of a syntax tree. -/
inductive Node where
  | mk (form : Form) (span : Span) (parts : List Node)
  deriving Inhabited

namespace Node

/-- What the node is. -/
def form : Node → Form
  | mk f _ _ => f

/-- The source text of the node. -/
def span : Node → Span
  | mk _ s _ => s

/-- The parts of the node. -/
def parts : Node → List Node
  | mk _ _ ps => ps

/-- A part that was left out. -/
def absent : Node := mk .absent .none []

/-- Whether the node was left out. -/
def isAbsent (n : Node) : Bool := n.form = .absent

/-- A node that was made up. -/
def made (form : Form) (parts : List Node) : Node := mk form .none parts

/-- An identifier that was made up. -/
def named (text : String) : Node := made (.name text) []

/-- The text of an identifier. -/
def nameText (n : Node) : String :=
  match n.form with
  | .name text => text
  | _ => ""

/-- A part by its place, `absent` if there is none. -/
def part (n : Node) (i : Nat) : Node := n.parts[i]?.getD absent

/-! ### Passes -/

mutual

/-- The tree with every node replaced, from the leaves up: `f` is given the node with its new parts. -/
def rebuild (f : Node → Node) : Node → Node
  | mk form span parts => f (mk form span (rebuildAll f parts))

/-- The trees with every node replaced. -/
def rebuildAll (f : Node → Node) : List Node → List Node
  | [] => []
  | n :: ns => rebuild f n :: rebuildAll f ns

end

mutual

/-- Whether a condition holds at every node. -/
def all (p : Node → Bool) : Node → Bool
  | mk form span parts => p (mk form span parts) && allIn p parts

/-- Whether a condition holds at every node of the trees. -/
def allIn (p : Node → Bool) : List Node → Bool
  | [] => true
  | n :: ns => all p n && allIn p ns

end

mutual

/-- The number of levels of the tree. -/
def depth : Node → Nat
  | mk _ _ parts => depthIn parts + 1

/-- The greatest number of levels of the trees. -/
def depthIn : List Node → Nat
  | [] => 0
  | n :: ns => max (depth n) (depthIn ns)

end

theorem rebuildAll_eq_map (f : Node → Node) (ns : List Node) :
    rebuildAll f ns = ns.map (rebuild f) := by
  induction ns with
  | nil => rfl
  | cons n ns ih => simp [rebuildAll, ih]

end Node

end Script

end NotebookEngine
