/-
**The members of enumerations.**

The value of a member is worked out beforehand where its expression allows it.  Enumerations are told
apart by their names alone: two of one name are one, and of two members of one name in them the last one
counts.

Main definitions:

* `Script.EnumValue` — what is known about the value of a member;
* `Script.EnumTable` — the members of the enumerations of a program;
* `Script.evaluate` — the value of an expression within an enumeration;
* `Script.enumTable` — the members of the enumerations of a program;
* `Script.memberConstant?` — the known value that an expression names.
-/

import NotebookEngine.Script.Literal

set_option autoImplicit false

namespace NotebookEngine

namespace Script

/-! ### Values -/

/-- What is known about the value of a member. -/
inductive EnumValue where
  | number (x : Float)
  | string (s : String)
  /-- Nothing was written, and nothing follows from the member before. -/
  | missing
  /-- An expression whose value is not known. -/
  | open (n : Node)

namespace EnumValue

/-- Whether the value is known. -/
def isKnown : EnumValue → Bool
  | number _ | string _ => true
  | missing | .open _ => false

/-- Whether the value is an expression. -/
def isOpen : EnumValue → Bool
  | .open _ => true
  | _ => false

/-- The expression for the value. -/
def node : EnumValue → Node
  | number x => numberNode x
  | string s => stringNode s
  | missing => voidNode
  | .open n => n

/-- The value of a member after this one that has none of its own. -/
def next : EnumValue → EnumValue
  | number x => number (x + 1)
  | _ => missing

/-- The text of a known value. -/
def text? : EnumValue → Option String
  | number x => some (numberText x)
  | string s => some s
  | _ => none

end EnumValue

/-! ### Tables -/

/-- The members of enumerations, each under the names of the enumeration and of the member; the last
one comes first. -/
abbrev EnumTable := List ((String × String) × EnumValue)

/-- The value of a member. -/
def EnumTable.find? (t : EnumTable) (enum member : String) : Option EnumValue :=
  t.lookup (enum, member)

/-- The value of a member, if it is known. -/
def EnumTable.known? (t : EnumTable) (enum member : String) : Option EnumValue :=
  (t.find? enum member).filter EnumValue.isKnown

/-- The name that a key between brackets is, if that is plain. -/
def keyText? (key : Node) : Option String :=
  match key.form, key.parts with
  | .string s _, _ => some s
  | .template [some s] _, [] => some s
  | _, _ => none

/-- The known value that an expression names. -/
def memberConstant? (t : EnumTable) (n : Node) : Option EnumValue :=
  match n.form, n.parts with
  | .member name _ false, [.mk (.name e) _ _] => t.known? e name
  | .index false, [.mk (.name e) _ _, key] => (keyText? key).bind (t.known? e)
  | _, _ => none

/-! ### Evaluation -/

/-- A member of an object by its name; the name has a place in the source. -/
def memberAt (object name : String) (span : Span) : Node :=
  .made (.member name span false) [.named object]

/-- The value of an operation on two numbers. -/
def numberOperation? (op : String) (x y : Float) : Option Float :=
  match op with
  | "+" => some (x + y)
  | "-" => some (x - y)
  | "*" => some (x * y)
  | "/" => some (x / y)
  | "%" => some (remainder x y)
  | "**" => some (power x y)
  | "|" => some (bitwise Nat.lor x y)
  | "&" => some (bitwise Nat.land x y)
  | "^" => some (bitwise Nat.xor x y)
  | "<<" => some (shiftLeft x y)
  | ">>" => some (shiftRight x y)
  | ">>>" => some (shiftRightZero x y)
  | _ => none

/-- The value of an operation with one operand. -/
def unaryValue (op : String) (span : Span) (whole : Node) (v : EnumValue) : EnumValue :=
  let others (x : Float) : Option Float :=
    if op = "-" then some (-x)
    else if op = "+" then some x
    else if op = "~" then some (ofInt32 (-(toInt32 x) - 1))
    else none
  if ["+", "-", "~"].contains op then
    match v with
    | .number x => (others x).elim (.open whole) .number
    | _ => .open (.mk (.unary op) span [v.node])
  else .open whole

/-- The value of an operation with two operands; what is known of these is put in their place if the
value itself is not. -/
def binaryValue (op : String) (span : Span) (a b : Node) (v w : EnumValue) : EnumValue :=
  let rebuilt : EnumValue :=
    .open (.mk (.binary op) span [if v.isKnown then v.node else a, if w.isKnown then w.node else b])
  match numberOperation? op 0 0 with
  | none => .open (.mk (.binary op) span [a, b])
  | some _ =>
    match v, w with
    | .number x, .number y => (numberOperation? op x y).elim rebuilt .number
    | _, _ =>
      match op, v.text?, w.text? with
      | "+", some s, some t => .string (s ++ t)
      | _, _, _ => rebuilt

/-- The text of a template whose values are known. -/
def templateText? : List String → List EnumValue → Option String
  | [s], [] => some s
  | s :: rest, v :: vs => do
    let t ← v.text?
    let u ← templateText? rest vs
    pure (s ++ t ++ u)
  | _, _ => none

mutual

/-- The value of an expression within an enumeration, before the members it names are qualified. -/
def rawValue (t : EnumTable) (enum : String) : Node → EnumValue
  | .mk (.number x _) _ _ => .number x
  | .mk (.string s _) _ _ => .string (wholeLetters s)
  | .mk (.name w) span _ =>
    match t.find? enum w with
    | some v => if v.isKnown then v else .open (memberAt enum w span)
    | none => .open (.mk (.name w) span [])
  | .mk .paren _ [e] => rawValue t enum e
  | .mk (.unary op) span [e] =>
    unaryValue op span (.mk (.unary op) span [e]) (rawValue t enum e)
  | .mk (.binary op) span [a, b] =>
    binaryValue op span a b (rawValue t enum a) (rawValue t enum b)
  | .mk (.template cooked raw) span es =>
    (templateText? raw (rawValues t enum es)).elim (.open (.mk (.template cooked raw) span es)) .string
  | .mk form span parts =>
    let n := Node.mk form span parts
    (memberConstant? t n).getD (.open n)

/-- The values of expressions within an enumeration. -/
def rawValues (t : EnumTable) (enum : String) : List Node → List EnumValue
  | [] => []
  | e :: es => rawValue t enum e :: rawValues t enum es

end

/-- An expression with the names of members of its enumeration qualified. -/
def qualifyMembers (t : EnumTable) (enum : String) (n : Node) : Node :=
  n.rebuild fun m =>
    match m.form with
    | .name w => if (t.find? enum w).isSome then memberAt enum w m.span else m
    | _ => m

/-- The value of an expression within an enumeration. -/
def evaluate (t : EnumTable) (enum : String) (n : Node) : EnumValue :=
  match rawValue t enum n with
  | .open e => .open (qualifyMembers t enum e)
  | v => v

/-! ### Programs -/

/-- A table with members of an enumeration; `next` is the value of one that has none of its own. -/
def addMembers (enum : String) : EnumTable → EnumValue → List Node → EnumTable
  | t, _, [] => t
  | t, next, m :: ms =>
    match m.form with
    | .enumMember name =>
      let v := if (m.part 0).isAbsent then next else evaluate t enum (m.part 0)
      addMembers enum (((enum, name), v) :: t) v.next ms
    | _ => addMembers enum t next ms

mutual

/-- A table with the members of the enumerations in a tree. What is only declared has none. -/
def addEnums (t : EnumTable) : Node → EnumTable
  | .mk (.enumDecl _ false) _ (name :: members) => addMembers name.nameText t (.number 0) members
  | .mk (.enumDecl _ _) _ _ => t
  | .mk (.namespaceDecl true _) _ _ => t
  | .mk .ambient _ _ => t
  | .mk _ _ parts => addEnumsIn t parts

/-- A table with the members of the enumerations in trees. -/
def addEnumsIn (t : EnumTable) : List Node → EnumTable
  | [] => t
  | n :: ns => addEnumsIn (addEnums t n) ns

end

/-- The members of the enumerations of a program. -/
def enumTable (program : Node) : EnumTable := addEnums [] program

end Script

end NotebookEngine
