/-
**Writing programs.**

A program is written with four blanks for each level, and while it is written the places of the source
that its parts come from are noted.

Main definitions:

* `Script.Writer` — what was written so far;
* `Script.Mark` — a place of the output and the place of the source that it comes from;
* `Script.printNode` — writes a node;
* `Script.printProgram` — the text of a program and its marks.
-/

import NotebookEngine.Script.Syntax

set_option autoImplicit false

namespace NotebookEngine

namespace Script

/-! ### Writers -/

/-- A place of the output, lines and columns counted from zero, and the place of the source that it comes
from, characters counted from one. -/
structure Mark where
  line : Nat
  column : Nat
  place : Nat
  deriving DecidableEq

/-- What was written so far. -/
structure Writer where
  text : String
  line : Nat
  column : Nat
  /-- The number of levels. -/
  level : Nat
  /-- Nothing was written on the line. -/
  fresh : Bool
  /-- A place of the source to note as soon as something is written on the line. -/
  pending : Option Nat
  /-- The places noted so far, the last first. -/
  marks : List Mark

/-- A writer that has written nothing. -/
def Writer.start : Writer := ⟨"", 0, 0, 0, true, none, []⟩

/-- An action of a writer. -/
abbrev Printing := StateM Writer

/-- Notes a place of the source where the writer is. -/
def Writer.mark (w : Writer) (place : Nat) : Writer :=
  if place = 0 then w
  else
    let m : Mark := ⟨w.line, w.column, place⟩
    if w.marks.head? = some m then w else { w with marks := m :: w.marks }

/-- Writes the blanks at the start of a line. -/
def Writer.startLine (w : Writer) : Writer :=
  if !w.fresh then w
  else
    let blanks := 4 * w.level
    let w := { w with
      text := w.text ++ String.ofList (List.replicate blanks ' ')
      column := blanks
      fresh := false }
    match w.pending with
    | some place => { w.mark place with pending := none }
    | none => w

/-- The number of line ends in some characters, and the number of characters after the last one. -/
def countLines (cs : List Char) (column : Nat) : Nat × Nat :=
  cs.foldl (fun (n, c) ch => if ch = '\n' then (n + 1, 0) else (n, c + 1)) (0, column)

/-- Writes text; a line end in it is counted as a character. -/
def Writer.put (w : Writer) (s : String) : Writer :=
  if s.isEmpty then w
  else
    let w := w.startLine
    { w with text := w.text ++ s, column := w.column + s.length }

/-- Writes text that may take up several lines. -/
def Writer.putLines (w : Writer) (s : String) : Writer :=
  if s.isEmpty then w
  else
    let w := w.startLine
    let (lines, column) := countLines s.toList w.column
    { w with text := w.text ++ s, line := w.line + lines, column }

/-- Writes text. -/
def put (s : String) : Printing Unit := modify fun w => w.put s

/-- Writes text that comes from a stretch of the source. -/
def putFrom (span : Span) (s : String) : Printing Unit :=
  modify fun w => if s.isEmpty then w else ((w.startLine.mark span.lo).put s).mark span.hi

/-- Notes a place of the source. -/
def markAt (place : Nat) : Printing Unit :=
  modify fun w =>
    if place = 0 then w else if w.fresh then { w with pending := some place } else w.mark place

/-- Notes where a node starts. -/
def markStart (n : Node) : Printing Unit := markAt n.span.lo

/-- Notes where the last character of a node is. -/
def markLast (n : Node) : Printing Unit := markAt (n.span.hi - 1)

/-- Notes where a node ends. -/
def markEnd (n : Node) : Printing Unit := markAt n.span.hi

/-- Ends the line, unless nothing was written on it. -/
def newline : Printing Unit :=
  modify fun w =>
    if w.fresh then w
    else
      { w with
        text := w.text.push '\n'
        line := w.line + 1
        column := 0
        fresh := true
        pending := none }

/-- Writes something one level further in. -/
def indented (p : Printing Unit) : Printing Unit := do
  modify fun w => { w with level := w.level + 1 }
  p
  modify fun w => { w with level := w.level - 1 }

/-! ### Lists -/

/-- Writes nodes with a text between them. -/
def putSeparated (one : Node → Printing Unit) (separator : String) : List Node → Printing Unit
  | [] => pure ()
  | [n] => one n
  | n :: ns => do
    one n
    put separator
    putSeparated one separator ns

/-- Writes items on lines of their own, with commas between them. -/
def putItems (one : Node → Printing Unit) : List Node → Printing Unit
  | [] => pure ()
  | [n] => one n
  | n :: ns => do
    one n
    put ","
    if n.isAbsent && (match ns with | [m] => m.isAbsent | _ => false) then put " "
    newline
    putItems one ns

/-- Writes each node on a line of its own. -/
def putLines (one : Node → Printing Unit) : List Node → Printing Unit
  | [] => pure ()
  | n :: ns => do
    one n
    newline
    putLines one ns

/-- Writes nodes in round brackets. -/
def putArguments (one : Node → Printing Unit) (ns : List Node) : Printing Unit := do
  put "("
  putSeparated one ", " ns
  put ")"

/-- Writes parameters in round brackets; those with decorators start on a new line. -/
def putParameters (one : Node → Printing Unit) (ns : List Node) : Printing Unit :=
  putArguments (fun n => do if n.form = .decorated then newline
                            one n) ns

/-! ### Parts -/

/-- Whether a point after a node would be taken for the point of a number. -/
def endsInDigits (n : Node) : Bool :=
  let digits (raw : String) : Bool :=
    let cs := raw.toList.filter (· ≠ '_')
    cs.all Char.isDigit && !(cs.length > 1 && cs.head? = some '0')
  match n.form with
  | .number _ raw => digits raw
  | .unary "-" => n.span.lo = 0 && (match (n.part 0).form with | .number _ raw => digits raw | _ => false)
  | _ => false

/-- Writes the point before the name of a member, or the mark of an optional one. -/
def putPoint (owner : Node) (optional : Bool) : Printing Unit := do
  if optional then put "?."
  else
    if endsInDigits owner then put "."
    put "."

/-- Writes a statement in braces. -/
def putBlock (one : Node → Printing Unit) (n : Node) : Printing Unit := do
  markStart n
  put "\x7b"
  if !n.parts.isEmpty then
    newline
    indented (putLines one n.parts)
  markLast n
  put "\x7d"

/-- Writes the key of a member. -/
def putKey (one : Node → Printing Unit) (computed : Bool) (k : Node) : Printing Unit := do
  if computed then
    put "["
    one k
    put "]"
  else one k

/-- Writes the words before a function's name. -/
def putFunctionWord (mode : FunctionMode) : Printing Unit := do
  if mode.isAsync then put "async "
  put "function"
  if mode.isGenerator then put "*"

/-- Writes a function. -/
def putFunction (one : Node → Printing Unit) (mode : FunctionMode) (n : Node) : Printing Unit := do
  markStart n
  putFunctionWord mode
  let name := n.part 0
  if !name.isAbsent then
    put " "
    one name
  else if mode.isGenerator then put " "
  putParameters one (n.parts.drop 2)
  put " "
  one (n.part 1)

/-- Writes a class. -/
def putClass (one : Node → Printing Unit) (n : Node) : Printing Unit := do
  markStart n
  put "class"
  if !(n.part 0).isAbsent then
    put " "
    one (n.part 0)
  if !(n.part 1).isAbsent then
    put " extends "
    one (n.part 1)
  put " \x7b"
  newline
  indented (putLines one (n.parts.drop 2))
  markLast n
  put "\x7d"

/-- Writes a method; in an object there is a blank after its key. -/
def putMethod (one : Node → Printing Unit) (kind : MethodKind) (mode : FunctionMode)
    (isStatic computed inObject : Bool) (n : Node) : Printing Unit := do
  markStart n
  if isStatic then put "static "
  if mode.isAsync then put "async "
  if mode.isGenerator then put "*"
  match kind with
  | .getter => put "get "
  | .setter => put "set "
  | _ => pure ()
  putKey one computed (n.part 0)
  if inObject then put " "
  putParameters one (n.parts.drop 2)
  if kind ≠ .constructor then put " "
  one (n.part 1)

/-- Writes a property of an object. -/
def putProperty (one : Node → Printing Unit) (n : Node) : Printing Unit :=
  match n.form with
  | .method kind mode isStatic computed => putMethod one kind mode isStatic computed true n
  | _ => one n

/-- Writes the pattern of an object. -/
def putObjectPattern (one : Node → Printing Unit) (ns : List Node) : Printing Unit := do
  if ns.isEmpty then put "\x7b\x7d"
  else
    put "\x7b "
    putSeparated one ", " ns
    put " \x7d"

/-- Writes a template, from a place on to a place at the end. -/
def putTemplate (one : Node → Printing Unit) (hi : Nat) :
    Nat → List String → List Node → Printing Unit
  | _, [], _ => pure ()
  | lo, raw :: raws, values => do
    let stop := match values with
      | v :: _ => v.span.lo - 2
      | [] => hi
    modify fun w => if raw.isEmpty then w else ((w.startLine.mark lo).putLines raw).mark stop
    match values with
    | [] => putTemplate one hi 0 raws []
    | v :: vs =>
      put "$\x7b"
      one v
      put "\x7d"
      putTemplate one hi (v.span.hi + 1) raws vs

/-- Whether a blank keeps an operator from running into its operand. -/
def touches (op : String) (operand : Node) : Bool :=
  op.length > 2 ||
    match operand.form with
    | .unary inner => (op = "+" || op = "-") && inner = op
    | .update inner true => (op = "+" && inner = "++") || (op = "-" && inner = "--")
    | _ => false

/-- The statements that end without a semicolon, and after which no line is started by themselves. -/
def isBlock (n : Node) : Bool := n.form = .block

/-- Writes the body of a statement, which may be a block. -/
def putBody (one : Node → Printing Unit) (n : Node) : Printing Unit := do
  one n
  if !isBlock n then newline

/-! ### Exports -/

/-- Writes what more is said about the source of an export. -/
def putAttributes (one : Node → Printing Unit) (attributes : List Node) : Printing Unit :=
  attributes.forM fun a => do
    put " with "
    one a

/-- Writes exported bindings. -/
def putExports (one : Node → Printing Unit) (n : Node) (source : Option String) :
    Printing Unit := do
  let (attributes, bindings) := n.parts.partition fun p => p.form = .object
  markStart n
  put "export "
  match bindings with
  | [m] =>
    match m.form with
    | .exportNamespace => one m
    | _ =>
      put "\x7b "
      one m
      put " \x7d"
  | [] => put "\x7b \x7d"
  | ms =>
    put "\x7b "
    putSeparated one ", " ms
    put " \x7d"
  match source with
  | some s => put (" from " ++ s)
  | none => pure ()
  putAttributes one attributes
  put ";"

/-! ### Nodes -/

/-- Writes decorators, a line each. -/
def putDecorators (one : Node → Printing Unit) (n : Node) : Printing Unit :=
  (n.parts.drop 1).forM fun d => do
    markAt (d.span.lo - 1)
    put "@"
    one d
    newline

/-- What is decorated; it starts where the first decorator does, which is noted again for a class. -/
def undecorated (n : Node) : Node :=
  let place := (n.part 1).span.lo - 1
  match n.part 0 with
  | .mk .class span parts => .mk .class ⟨place, span.hi⟩ parts
  | .mk .classDecl span parts => .mk .classDecl ⟨place, span.hi⟩ parts
  | .mk form span parts => .mk form ⟨0, span.hi⟩ parts

/-- Writes the head of a loop over the parts of an object, and its body. -/
def putEachLoop (one : Node → Printing Unit) (word : String) (n : Node) : Printing Unit := do
  one (n.part 0)
  put (" " ++ word ++ " ")
  one (n.part 1)
  put ")"
  one (n.part 2)

/-- Writes a node without a semicolon after an expression or a declaration. -/
def putNode (one : Node → Printing Unit) (n : Node) : Printing Unit := do
  let part := n.part
  match n.form with
  | .absent => pure ()
  | .name w => putFrom n.span w
  | .this => putFrom n.span "this"
  | .super => putFrom n.span "super"
  | .null => putFrom n.span "null"
  | .bool b => putFrom n.span (if b then "true" else "false")
  | .number _ raw => putFrom n.span raw
  | .bigint _ raw => putFrom n.span raw
  | .string _ raw => putFrom n.span raw
  | .regex p f => putFrom n.span ("/" ++ p ++ "/" ++ f)
  | .template _ raw =>
    markStart n
    put "\x60"
    putTemplate one (n.span.hi - 1) (n.span.lo + 1) raw n.parts
    put "\x60"
  | .importMeta => putFrom n.span "import.meta"
  | .newTarget => putFrom n.span "new.target"
  | .array =>
    markStart n
    put "["
    if !n.parts.isEmpty then
      newline
      let trailing := match n.parts.getLast? with
        | some m => m.isAbsent
        | none => false
      indented do
        putItems one n.parts
        if trailing then put ", "
        newline
    markLast n
    put "]"
  | .object =>
    markStart n
    put "\x7b"
    if !n.parts.isEmpty then
      newline
      indented do
        putItems (putProperty one) n.parts
        newline
    markLast n
    put "\x7d"
  | .property computed =>
    putKey one computed (part 0)
    put ": "
    one (part 1)
  | .shorthand => one (part 0)
  | .shorthandDefault =>
    one (part 0)
    put " = "
    one (part 1)
  | .spread =>
    markStart n
    put "..."
    one (part 0)
  | .method kind mode isStatic computed => putMethod one kind mode isStatic computed false n
  | .function mode => putFunction one mode n
  | .functionDecl mode => putFunction one mode n
  | .arrow isAsync =>
    markStart n
    if isAsync then put "async "
    putArguments one (n.parts.drop 1)
    put "=>"
    if isBlock (part 0) then one (part 0) else indented (one (part 0))
  | .class => putClass one n
  | .classDecl => putClass one n
  | .tagged =>
    markStart n
    one (part 0)
    one (part 1)
  | .unary op =>
    markStart n
    put op
    if touches op (part 0) then put " "
    one (part 0)
  | .update op before =>
    markStart n
    if before then
      put op
      one (part 0)
    else
      one (part 0)
      put op
  | .binary op =>
    markStart n
    one (part 0)
    put (" " ++ op ++ " ")
    one (part 1)
  | .assign op =>
    markStart n
    one (part 0)
    put (" " ++ op ++ " ")
    one (part 1)
  | .conditional =>
    markStart n
    one (part 0)
    put " ? "
    one (part 1)
    put " : "
    one (part 2)
  | .call optional =>
    markStart n
    one (part 0)
    if optional then put "?."
    putArguments one (n.parts.drop 1)
  | .new hasArguments =>
    markStart n
    put "new "
    one (part 0)
    if hasArguments then putArguments one (n.parts.drop 1)
  | .member name span optional =>
    markStart n
    one (part 0)
    putPoint (part 0) optional
    putFrom span name
  | .privateMember name span optional =>
    markStart n
    one (part 0)
    putPoint (part 0) optional
    putFrom span ("#" ++ name)
  | .index optional =>
    markStart n
    one (part 0)
    put (if optional then "?.[" else "[")
    one (part 1)
    put "]"
  | .chain => one (part 0)
  | .asserted => one (part 0)
  | .sequence =>
    markStart n
    putSeparated one ", " n.parts
  | .paren =>
    markStart n
    put "("
    one (part 0)
    markLast n
    put ")"
  | .yield delegate =>
    markStart n
    put (if delegate then "yield*" else "yield")
    if !(part 0).isAbsent then
      put " "
      one (part 0)
  | .await =>
    markStart n
    put "await "
    one (part 0)
  | .importCall =>
    markStart n
    put "import"
    putArguments one n.parts
  | .privateName name => putFrom n.span ("#" ++ name)
  | .arrayPattern =>
    markStart n
    put "["
    putSeparated one ", " n.parts
    put "]"
  | .objectPattern =>
    markStart n
    putObjectPattern one n.parts
  | .patternProperty computed =>
    putKey one computed (part 0)
    put ": "
    one (part 1)
  | .shorthandPattern =>
    one (part 0)
    if !(part 1).isAbsent then
      put " = "
      one (part 1)
  | .rest =>
    put "..."
    one (part 0)
  | .defaulted =>
    one (part 0)
    put " = "
    one (part 1)
  | .block => putBlock one n
  | .empty => put ";"
  | .expression =>
    one (part 0)
    put ";"
  | .ifThen =>
    markStart n
    put "if ("
    one (part 0)
    put ") "
    one (part 1)
    if !(part 2).isAbsent then
      if isBlock (part 1) then put " " else newline
      put "else "
      one (part 2)
  | .forLoop =>
    markStart n
    put "for("
    one (part 0)
    put ";"
    if !(part 1).isAbsent then
      put " "
      one (part 1)
    put ";"
    if !(part 2).isAbsent then
      put " "
      one (part 2)
    put ")"
    one (part 3)
  | .forIn =>
    markStart n
    put "for("
    putEachLoop one "in" n
  | .forOf isAwait =>
    markStart n
    put (if isAwait then "for await (" else "for (")
    putEachLoop one "of" n
  | .whileLoop =>
    markStart n
    put "while("
    one (part 0)
    put ")"
    one (part 1)
  | .doWhile =>
    markStart n
    put "do "
    putBody one (part 0)
    put "while ("
    one (part 1)
    put ")"
  | .return =>
    markStart n
    put "return"
    if !(part 0).isAbsent then
      put " "
      one (part 0)
    put ";"
  | .break label =>
    markStart n
    put "break"
    match label with
    | some l => put (" " ++ l)
    | none => pure ()
    put ";"
  | .continue label =>
    markStart n
    put "continue"
    match label with
    | some l => put (" " ++ l)
    | none => pure ()
    put ";"
  | .throw =>
    markStart n
    put "throw "
    one (part 0)
    put ";"
  | .try =>
    markStart n
    put "try "
    one (part 0)
    if !(part 1).isAbsent then
      put " "
      one (part 1)
    if !(part 2).isAbsent then
      put " finally"
      one (part 2)
  | .catchClause =>
    markStart n
    put "catch "
    if !(part 0).isAbsent then
      put "("
      one (part 0)
      put ")"
    put " "
    one (part 1)
  | .switch =>
    markStart n
    put "switch("
    one (part 0)
    put ")\x7b"
    newline
    indented (putLines one (n.parts.drop 1))
    markLast n
    put "\x7d"
  | .case =>
    markStart n
    if (part 0).isAbsent then put "default:"
    else
      put "case "
      one (part 0)
      put ":"
    if n.parts.length > 1 then
      newline
      indented (putLines one (n.parts.drop 1))
  | .labelled label span =>
    markStart n
    putFrom span label
    put ": "
    one (part 0)
  | .debugger =>
    markStart n
    put "debugger;"
  | .with =>
    markStart n
    put "with("
    one (part 0)
    put ")"
    one (part 1)
  | .declare kind =>
    markStart n
    put kind.word
    put " "
    putSeparated one ", " n.parts
  | .using isAwait =>
    markStart n
    put (if isAwait then "await using " else "using ")
    putSeparated one ", " n.parts
  | .declarator =>
    one (part 0)
    if !(part 1).isAbsent then
      put " = "
      one (part 1)
  | .field isStatic computed =>
    markStart n
    if isStatic then put "static "
    putKey one computed (part 0)
    if !(part 1).isAbsent then
      put " = "
      one (part 1)
    put ";"
  | .accessorField isStatic computed =>
    markStart n
    if isStatic then put "static "
    put "accessor "
    putKey one computed (part 0)
    if !(part 1).isAbsent then
      put " = "
      one (part 1)
    put ";"
  | .staticBlock =>
    markStart n
    put "static"
    one (part 0)
  | .decorated =>
    putDecorators one n
    one (undecorated n)
  | .exportDecl =>
    let d := part 0
    let decorated := d.form = .decorated
    if decorated then putDecorators one d
    markStart n
    put "export "
    one (if decorated then d.part 0 else d)
    markEnd n
  | .exportDefault =>
    markStart n
    put "export default "
    one (part 0)
    match (part 0).form with
    | .functionDecl _ | .classDecl | .decorated => pure ()
    | _ => put ";"
  | .exportNamed source _ => putExports one n source
  | .exportSpecifier _ =>
    one (part 0)
    if !(part 1).isAbsent then
      put " as "
      one (part 1)
  | .exportNamespace =>
    put "* as "
    one (part 0)
  | .exportAll source =>
    markStart n
    put ("export * from " ++ source)
    putAttributes one n.parts
    put ";"
  | .pure =>
    put "/*#__PURE__*/ "
    one (part 0)
  | _ => pure ()

/-- The statements whose parts include declarations without a semicolon of their own. -/
def isLoopHead (n : Node) : Bool :=
  match n.form with
  | .forLoop | .forIn | .forOf _ => true
  | _ => false

/-- Writes a node; a declaration that is a statement is followed by a semicolon, and `n` bounds the
depth. -/
def printNode : Nat → Bool → Node → Printing Unit
  | 0, _, _ => pure ()
  | depth + 1, inHead, n => do
    let head := isLoopHead n
    let one (m : Node) : Printing Unit :=
      match m.form with
      | .declare _ | .using _ => printNode depth head m
      | _ => printNode depth false m
    putNode one n
    match n.form with
    | .declare _ | .using _ => if !inHead then put ";"
    | _ => pure ()

/-- Writes the items of a program. A block ends no line. -/
def printItems (depth : Nat) : List Node → Printing Unit
  | [] => pure ()
  | n :: ns => do
    printNode depth false n
    if !isBlock n then newline
    printItems depth ns

/-- The text of a program and the places that its parts come from. -/
def printProgram (program : Node) : String × List Mark :=
  let action : Printing Unit := do
    match program.form with
    | .program (some line) =>
      markStart program
      put ("#!" ++ line)
      newline
    | _ => pure ()
    printItems (program.depth + 1) program.parts
  let (_, w) := action.run Writer.start
  (w.text, w.marks.reverse)

end Script

end NotebookEngine
