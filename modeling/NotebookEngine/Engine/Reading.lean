/-
**Reading programs before they run.**

A text is parsed, and faults that can be told before it runs are found: names that are declared twice,
and forms that have no meaning where they stand.

Main definitions:

* `Engine.SyntaxFault` — a message and the place it is about;
* `Engine.readProgram` — the program that a text writes.
-/

import NotebookEngine.Script.Parser
import NotebookEngine.Engine.Hoisting
import NotebookEngine.Text.Numeral

set_option autoImplicit false

namespace NotebookEngine

namespace Engine

open Script (Node Form Complaint Problem Token)

/-- Why a text is no program, and where. -/
structure SyntaxFault where
  message : String
  place : Nat
  deriving DecidableEq, Inhabited

/-! ### What stands before a place -/

/-- The text before a place, from the last character on, without blanks. -/
def textBefore (text : List Char) (place : Nat) : List Char :=
  (text.take place).reverse.dropWhile Numeral.isGap

/-- The word that a reversed text starts with. -/
def lastWord (before : List Char) : String :=
  String.ofList ((before.takeWhile fun c => Script.isIdentifierPart c).reverse)

/-- What stands before a group in brackets that a reversed text starts with, given how many of them are
open. -/
def beforeGroup (depth : Nat) : List Char → List Char
  | [] => []
  | c :: cs =>
    if ")]\x7d".toList.contains c then beforeGroup (depth + 1) cs
    else if "([\x7b".toList.contains c then
      if depth ≤ 1 then cs.dropWhile Numeral.isGap else beforeGroup (depth - 1) cs
    else if depth = 0 then c :: cs
    else beforeGroup depth cs

/-- The brackets that are open after a text, the innermost first, each with the text before it from the
last character on. -/
def openBrackets (stack : List (Char × List Char)) (mark? : Option Char) (before : List Char) :
    List Char → List (Char × List Char)
  | [] => stack
  | c :: cs =>
    match mark? with
    | some m => openBrackets stack (if c = m && before.head? ≠ some '\\' then none else mark?) (c :: before) cs
    | none =>
      if c = '"' || c = '\'' then openBrackets stack (some c) (c :: before) cs
      else if "([\x7b".toList.contains c then
        openBrackets ((c, before.dropWhile Numeral.isGap) :: stack) none (c :: before) cs
      else openBrackets (if ")]\x7d".toList.contains c then stack.tail else stack) none (c :: before) cs

/-- What an innermost open bracket belongs to. -/
inductive Surround where
  | top
  | block
  | switch
  | classBody
  | object
  | forHead
  | group
  deriving DecidableEq

/-- What the innermost bracket that is open at a place belongs to. -/
def surround (text : List Char) (place : Nat) : Surround :=
  match openBrackets [] none [] (text.take place) with
  | [] => .top
  | ('\x7b', before) :: _ =>
    match before with
    | [] => .block
    | '>' :: '=' :: _ => .block
    | ')' :: _ => if lastWord (beforeGroup 0 before) = "switch" then .switch else .block
    | c :: _ =>
      if "(,=[:?&|!+$".toList.contains c || lastWord before = "return" then .object
      else if ";\x7b\x7d".toList.contains c then .block
      else if lastWord before ∈ ["else", "do", "try", "finally", "catch", "static"] then .block
      else .classBody
  | ('(', before) :: _ => if lastWord before ∈ ["for", "await"] then .forHead else .group
  | _ => .group

/-- Whether a statement may start at a place. -/
def startsStatement (text : List Char) (place : Nat) : Bool :=
  match textBefore text place with
  | [] => true
  | c :: _ => "\x7b\x7d;)".toList.contains c

/-- Whether a place is where a value starts that is no part of an operation. -/
def startsValue (text : List Char) (place : Nat) : Bool :=
  match textBefore text place with
  | [] => true
  | '>' :: '=' :: _ => true
  | c :: before =>
    "\x7b\x7d;)(,[?:".toList.contains c || (c = '=' && !(before.head?.any "=!<>".toList.contains)) ||
      lastWord (c :: before) ∈ ["return", "throw", "else", "do", "case"]

/-! ### Messages -/

/-- The message about a token that is not the one expected. -/
def unexpectedToken (t : Token) (text : String) : String :=
  match t.lexeme with
  | .finish => "Unexpected end of input"
  | .number _ _ => "Unexpected number"
  | .string _ _ => "Unexpected string"
  | _ =>
    match t.word? with
    | some w =>
      if Script.isReserved w then "Unexpected token '" ++ w ++ "'"
      else "Unexpected identifier '" ++ w ++ "'"
    | none => if text = "\x60" then "Unexpected string template" else "Unexpected token '" ++ text ++ "'"

/-- The message about a token that is not the one expected at a place. -/
def unexpectedAt (text : List Char) (place : Nat) : String :=
  let token := Script.lex (text.drop place) place
  unexpectedToken token (String.ofList ((text.drop token.lo).take (token.hi - token.lo)))

/-- The message about names that a declaration must not declare. -/
def forbiddenName (text : List Char) (place : Nat) : String :=
  if lastWord (textBefore text place) = "function" then "invalid function name in strict code"
  else
    match openBrackets [] none [] (text.take place) with
    | ('(', before) :: _ =>
      if lastWord before ∈ ["for", "catch"] then "invalid variable name in strict mode"
      else "invalid argument name in strict code"
    | _ => "invalid variable name in strict mode"

/-- The message about a name that is missing. -/
def missingName (text : List Char) (place : Nat) : String :=
  match textBefore text place with
  | '.' :: _ => "expecting field name"
  | before =>
    match lastWord before with
    | "function" => "function name expected"
    | "class" => "class statement requires a name"
    | "let" | "const" | "var" => "variable name expected"
    | _ => if surround text place = .group then "missing formal parameter" else "variable name expected"

/-- The message about the end of a block that is missing. -/
def missingEnd (text : List Char) (place : Nat) (isFinish : Bool) (unexpected : String) : String :=
  match surround text place with
  | .switch => "invalid switch statement"
  | .object => unexpected
  | .classBody => "invalid property name"
  | _ => if isFinish then "unexpected token in expression: ''" else unexpected

/-- The first connective of a text, if `??` comes before it. -/
def looseConnective (follows : Bool) : List Char → Option String
  | '?' :: '?' :: cs => looseConnective true cs
  | '&' :: '&' :: _ => if follows then some "&&" else none
  | '|' :: '|' :: _ => if follows then some "||" else none
  | _ :: cs => looseConnective follows cs
  | [] => none

/-- The message about a fault of a text. -/
def faultMessage (text : List Char) (p : Problem) : String :=
  let token := Script.lex (text.drop p.place) p.place
  let shown := String.ofList ((text.drop token.lo).take (token.hi - token.lo))
  let after := (text.drop p.place).head?
  let before := textBefore text p.place
  let word := lastWord before
  let unexpected := unexpectedToken token shown
  let inExpression := "unexpected token in expression: '" ++ shown ++ "'"
  let declares := word ∈ ["let", "const", "var", "function", "class"]
  if (after.any fun c => c.toNat ≥ 128 && !Script.isIdentifierStart c) then "unexpected character"
  else if startsStatement text p.place && token.word?.any fun w => w ∈ ["enum", "export", "extends"] then
    "unsupported keyword: " ++ shown
  else if after = some '#' then
    if (text.drop (p.place + 1)).head?.any Script.isIdentifierStart then
      "unexpected token in expression: '#" ++
        String.ofList ((text.drop (p.place + 1)).takeWhile fun c => Script.isIdentifierPart c) ++ "'"
    else "invalid first character of private name"
  else
    match p.complaint with
    | .statementEndExpected => "expecting ';'"
    | .semicolonExpected =>
      if before.head? = some '\x7d' && lastWord (beforeGroup 0 before) = "try" then
        "expecting catch or finally"
      else "expecting ';'"
    | .expected "';'" _ =>
      match openBrackets [] none [] (text.take p.place) with
      | ('(', outer) :: _ =>
        let head := (text.take p.place).drop (outer.length + 1)
        if head.contains ';' then unexpected
        else "expected 'of' or 'in' in for control expression"
      | _ => "expecting ';'"
    | .expected "'\x7d'" _ => missingEnd text p.place token.isFinish unexpected
    | .expressionExpected =>
      if before.head? = some '.' && (before.drop 1).head? ≠ some '.' then "expecting field name"
      else if token.isWord "const" then
        "lexical declarations can't appear in single-statement context"
      else inExpression
    | .unexpectedEnd => inExpression
    | .identifierExpected =>
      match (text.take p.place).getLast? with
      | some '#' => "invalid first character of private name"
      | some '@' => "unexpected token in expression: '@'"
      | _ => missingName text p.place
    | .expected _ _ => unexpected
    | .unexpected _ wanted =>
      match wanted with
      | "meta" => "meta expected"
      | "target" => "expecting target"
      | "yield, an identifier, [ or \x7b" => missingName text p.place
      | "identifier, string literal, numeric literal or [ for the computed key" => "invalid property name"
      | "* for generator, private key, identifier or async" => "expecting ';'"
      | _ => if declares then missingName text p.place else unexpected
    | .unexpectedCharacter _ => inExpression
    | .unterminatedString | .unterminatedTemplate => "unexpected end of string"
    | .unterminatedRegex =>
      if (text.drop p.place).contains '\n' then "unexpected line terminator in regexp"
      else "unexpected end of regexp"
    | .unterminatedComment => "unexpected end of comment"
    | .unknownRegexFlags | .repeatedRegexFlag _ => "invalid regular expression flags"
    | .badEscape _ =>
      if (text.drop (p.place + 1)).head? = some 'x' then "Invalid hexadecimal escape sequence"
      else "Invalid Unicode escape sequence"
    | .assignmentTarget | .assignmentLeft => "invalid assignment left-hand side"
    | .notPattern | .notSimpleTarget => "invalid destructuring target"
    | .assignedProperty => "Unexpected token '='"
    | .constantInitializer =>
      if after = some '\x7b' || after = some '[' then "variable name expected"
      else "missing initializer for const variable"
    | .patternInitializer => "variable name expected"
    | .evalOrArguments => forbiddenName text p.place
    | .awaitedLoop => "'for await' loop should be used with 'of'"
    | .forInitializer => "a declaration in the head of a for-of loop can't have an initializer"
    | .forDeclarations => "expected 'of' or 'in' in for control expression"
    | .lastRest => unexpected
    | .declarationPlace =>
      if token.isWord "class" then "class declarations can't appear in single-statement context"
      else "function declarations can't appear in single-statement context"
    | .breakOutside => "break must be inside loop or switch"
    | .continueOutside => "continue must be inside loop"
    | .breakLabel | .continueLabel => "break/continue label not found"
    | .returnOutside => "return not in a function"
    | .repeatedLabel _ => "duplicate label name"
    | .repeatedDefault => "duplicate default"
    | .repeatedConstructor => "property constructor appears more than once"
    | .constructorGenerator | .constructorAsync | .constructorAccessor => "invalid method name"
    | .constructorField => "invalid field name"
    | .getterParameters | .setterParameters | .setterRest =>
      "invalid number of arguments for getter or setter"
    | .superCall => "super() is only valid in a derived class constructor"
    | .superAlone => "'super' is only valid in a method"
    | .newTargetOutside => "new.target only allowed within functions"
    | .awaitOutside => "unexpected 'await' keyword"
    | .reservedInAsync "await" =>
      let next := Script.lex token.rest token.hi
      match next.lexeme with
      | .word _ _ | .number _ _ | .string _ _ => if next.afterLineEnd then inExpression else "expecting ';'"
      | _ => unexpected
    | .unaryPower => "unparenthesized unary expression can't appear on the left-hand side of '**'"
    | .mixedNullish =>
      let rest := text.drop p.place
      let follows := before.take 2 = ['?', '?']
      match looseConnective follows rest with
      | some op =>
        if surround text p.place = .group then "Unexpected token '" ++ op ++ "'" else "expecting ';'"
      | none => "cannot mix ?? with && or ||"
    | .chainConstructor => "new keyword cannot be used with an optional chain"
    | .chainTemplate => "template literal cannot appear in an optional chain"
    | .emptyParentheses => "unexpected token in expression: ')'"
    | .spreadInParentheses => "unexpected token in expression: '...'"
    | .importArguments => "unexpected token in expression: ')'"
    | .strictDirective => "\"use strict\" not allowed in function with default or destructuring parameter"
    | .octalLiteral => "Octal literals are not allowed in strict mode"
    | .octalEscape =>
      if (openMark text p.place) then "Octal escape sequences are not allowed in template strings"
      else "Octal escape sequences are not allowed in strict mode"
    | .decimalEscape => "Octal literals are not allowed in strict mode"
    | .withStatement => "invalid keyword: with"
    | .identifierAfterNumber | .digitExpected _ | .separatorMisplaced => "invalid number literal"
    | .throwLineBreak => "line terminator not allowed after throw"
    | .modulePlace => inExpression
    | .reservedInStrict w =>
      if declares then missingName text p.place
      else if w = "let" && startsStatement text p.place then
        if before.head? = some ')' then "lexical declarations can't appear in single-statement context"
        else "variable name expected"
      else if w = "yield" && startsValue text p.place then "unexpected 'yield' keyword"
      else inExpression
    | _ => unexpected
where
  /-- Whether a template is open at a place. -/
  openMark (text : List Char) (place : Nat) : Bool :=
    (text.take place).reverse.find? (fun c => "'\"\x60".toList.contains c) = some '\x60'

/-- Whether a fault only counts in strict programs. -/
def onlyStrict : Complaint → Bool
  | .octalLiteral | .octalEscape | .decimalEscape | .withStatement | .reservedInStrict _
  | .evalOrArguments | .labelledFunction | .reservedInAsync _ => true
  | _ => false

/-! ### Names that are declared twice -/

/-- The names declared so far in a block of a function. -/
structure BlockNames where
  lexical : List String
  /-- The variables of the function that were declared in the block or in blocks within. -/
  hoisted : List String
  /-- The parameters of the function, if the block is its body. -/
  parameters : List String
  isBody : Bool
  /-- Whether the block only holds what a catch clause binds. -/
  isCatch : Bool
  deriving Inhabited

/-- A block without names. -/
def BlockNames.inner : BlockNames := ⟨[], [], [], false, false⟩

/-- The body of a function. -/
def BlockNames.body (parameters : List String) : BlockNames := ⟨[], [], parameters, true, false⟩

/-- A check of a program: the names declared so far, the innermost block first. -/
abbrev Check := Except SyntaxFault (List BlockNames)

/-- Note a name that a block declares for itself. -/
def noteLexical (sloppyFunction : Bool) (n : Node) (blocks : List BlockNames) : Check :=
  let name := n.nameText
  let place := n.span.lo - 1
  match blocks with
  | [] => .ok []
  | b :: outer =>
    if b.lexical.contains name && !sloppyFunction then
      .error ⟨"invalid redefinition of lexical identifier", place⟩
    else if outer.head?.any fun o => o.isCatch && o.lexical.contains name then
      .error ⟨"invalid redefinition of lexical identifier", place⟩
    else if b.isBody && b.parameters.contains name then
      .error ⟨"invalid redefinition of parameter name", place⟩
    else if b.hoisted.contains name then .error ⟨"invalid redefinition of a variable", place⟩
    else .ok ({ b with lexical := name :: b.lexical } :: outer)

/-- Note a variable of a function. -/
def noteVariable (n : Node) (blocks : List BlockNames) : Check :=
  let name := n.nameText
  if blocks.any fun b => !b.isCatch && b.lexical.contains name then
    .error ⟨"invalid redefinition of lexical identifier", n.span.lo - 1⟩
  else .ok (blocks.map fun b => { b with hoisted := name :: b.hoisted })

/-- Note the names that a declaration declares. -/
def noteDeclaration (n : Node) (blocks : List BlockNames) : Check :=
  let names := Script.declaredNames n
  match n.form with
  | .declare .variable => names.foldlM (fun bs m => noteVariable m bs) blocks
  | _ => names.foldlM (fun bs m => noteLexical false m bs) blocks

/-- A node without parentheses around it. -/
def withoutParens : Node → Node
  | .mk .paren _ [n] => withoutParens n
  | n => n

/-- Whether a node can be assigned to, and a name that must not be. -/
def assignability (strict : Bool) (n : Node) : Option String → Option String := fun otherwise =>
  match (withoutParens n).form with
  | .name w =>
    if strict && (w = "eval" || w = "arguments") then some "invalid lvalue in strict mode" else none
  | .member _ _ _ | .privateMember _ _ _ | .index _ | .asserted => none
  | _ => otherwise

/-- The name of a member of a class or of a property, if it is written as a name or a text. -/
def keyName? (key : Node) : Option String :=
  match key.form with
  | .name w => some w
  | .string s _ => some s
  | .privateName w => some ("#" ++ w)
  | _ => none

/-- The first of some names that was there before. -/
def firstRepeated (seen : List String) : List (String × Nat) → Option (String × Nat)
  | [] => none
  | (name, place) :: rest =>
    if seen.contains name then some (name, place) else firstRepeated (name :: seen) rest

/-- A fault among the members of a class. -/
def memberFault? (members : List Node) : Option SyntaxFault :=
  let fixed := members.findSome? fun m =>
    let name? := keyName? (m.part 0)
    match m.form with
    | .method _ _ isStatic false =>
      if isStatic && name? = some "prototype" || name? = some "#constructor" then
        some ⟨"invalid method name", m.span.lo - 1⟩
      else none
    | .field isStatic false =>
      if isStatic && name? = some "prototype" || name? = some "constructor" ||
          name? = some "#constructor" then
        some ⟨"invalid field name", m.span.lo - 1⟩
      else none
    | _ => none
  let privates := members.filterMap fun m =>
    match (m.part 0).form, m.form with
    | .privateName w, .method .getter _ _ _ => some ("get " ++ w, m.span.lo - 1)
    | .privateName w, .method .setter _ _ _ => some ("set " ++ w, m.span.lo - 1)
    | .privateName w, _ => some (w, m.span.lo - 1)
    | _, _ => none
  fixed.or ((firstRepeated [] privates).map fun (_, place) =>
    ⟨"private class field is already defined", place⟩)

/-- A fault of a node by itself. -/
def ownFault? (strict : Bool) (n : Node) : Option SyntaxFault :=
  let place := n.span.lo - 1
  match n.form with
  | .unary "delete" =>
    let operand := n.part 0
    let operand := if operand.form = .paren then operand.part 0 else operand
    match operand.form with
    | .name _ =>
      if strict then some ⟨"cannot delete a direct reference in strict mode", place⟩ else none
    | _ => none
  | .update _ _ =>
    (assignability strict (n.part 0) (some "invalid increment/decrement operand")).map (⟨·, place⟩)
  | .assign _ => (assignability strict (n.part 0) none).map (⟨·, place⟩)
  | .forIn | .forOf _ =>
    match (n.part 0).form with
    | .declare _ | .using _ | .arrayPattern | .objectPattern => none
    | _ =>
      (assignability strict (n.part 0) (some "invalid for in/of left hand-side")).map
        (⟨·, (n.part 0).span.lo - 1⟩)
  | .expression =>
    match (n.part 0).form with
    | .privateName w => some ⟨"unexpected token in expression: '#" ++ w ++ "'", place⟩
    | _ => none
  | .shorthandDefault => some ⟨"Unexpected token '='", place⟩
  | .object =>
    let protos := (n.parts.filter fun m => m.form = .property false &&
      keyName? (m.part 0) = some "__proto__").map fun m => ("__proto__", m.span.lo - 1)
    (firstRepeated [] protos).map fun (_, second) => ⟨"duplicate __proto__ property name", second⟩
  | .classDecl | .class => memberFault? (n.parts.drop 2)
  | .importMeta => some ⟨"import.meta only valid in module code", place⟩
  | .decorated => some ⟨"unexpected token in expression: '@'", place⟩
  | .functionDecl _ =>
    if (n.part 0).isAbsent then some ⟨"function name expected", place⟩ else none
  | .with => if strict then some ⟨"invalid keyword: with", place⟩ else none
  | _ => none

/-- Check the names of parameters: they must differ where the function is strict or does more than list
them. -/
def checkParameters (strict : Bool) (ps : List Node) : Except SyntaxFault Unit :=
  let isSimple := ps.all fun p =>
    match p.form with
    | .name _ => true
    | _ => false
  let names := (ps.flatMap Script.boundNames).map fun m => (m.nameText, m.span.lo - 1)
  match firstRepeated [] names with
  | some (_, place) =>
    if strict || !isSimple then .error ⟨"duplicate argument names not allowed in this context", place⟩
    else .ok ()
  | none => .ok ()

mutual

/-- Check a node; the names declared so far come back with those that it declares. -/
def checkNode (strict : Bool) : Node → List BlockNames → Check
  | .mk form span parts, blocks =>
    match ownFault? strict (.mk form span parts) with
    | some fault => .error fault
    | none =>
      match form with
      | .declare _ => do
        let blocks ← noteDeclaration (.mk form span parts) blocks
        checkNodes strict parts blocks
      | .functionDecl _ => do
        let name := Node.part (.mk form span parts) 0
        let blocks ← if blocks.head?.any BlockNames.isBody then noteVariable name blocks
          else noteLexical (!strict) name blocks
        let _ ← checkFunction strict parts
        pure blocks
      | .classDecl => do
        let blocks ← noteLexical false (Node.part (.mk form span parts) 0) blocks
        let _ ← checkNodes true parts blocks
        pure blocks
      | .class => do
        let _ ← checkNodes true parts blocks
        pure blocks
      | .function _ => do
        let _ ← checkFunction strict parts
        pure blocks
      | .method _ _ _ _ => do
        checkParameters true (parts.drop 2)
        let _ ← checkFunction strict parts
        pure blocks
      | .arrow _ => do
        let _ ← checkArrow strict parts
        pure blocks
      | .block | .forLoop | .forIn | .forOf _ | .switch | .staticBlock =>
        inBlock (checkNodes strict parts (.inner :: blocks))
      | .catchClause =>
        let names := patternNames (Node.part (.mk form span parts) 0)
        inBlock (checkNodes strict parts (⟨names, [], [], false, true⟩ :: blocks))
      | _ => checkNodes strict parts blocks
where
  /-- The names of the outer blocks after an inner one. -/
  inBlock (c : Check) : Check := do pure (← c).tail

/-- Check nodes one after the other. -/
def checkNodes (strict : Bool) : List Node → List BlockNames → Check
  | [], blocks => .ok blocks
  | n :: ns, blocks => do checkNodes strict ns (← checkNode strict n blocks)

/-- Check a function: its name, body and parameters. -/
def checkFunction (strict : Bool) : List Node → Check
  | _ :: .mk form span statements :: ps => do
    let strict := strict || asksStrict (.mk form span statements)
    checkParameters strict ps
    let blocks := [BlockNames.body (ps.flatMap patternNames)]
    let _ ← checkNodes strict ps []
    if form = .block then checkNodes strict statements blocks
    else checkNodes strict statements []
  | _ => .ok []

/-- Check an arrow function: its body and parameters. -/
def checkArrow (strict : Bool) : List Node → Check
  | .mk form span statements :: ps => do
    let strict := strict || asksStrict (.mk form span statements)
    checkParameters true ps
    let blocks := [BlockNames.body (ps.flatMap patternNames)]
    let _ ← checkNodes strict ps []
    if form = .block then checkNodes strict statements blocks
    else checkNode strict (.mk form span statements) blocks
  | _ => .ok []

end

/-! ### Calls of base constructors -/

mutual

/-- The place of a call of a base constructor where there is none, given whether there is one, and whether
the node is a member of a class that has a base. -/
def misplacedSuper (allowed derived : Bool) : Node → Option Nat
  | .mk form span parts =>
    match form with
    | .call _ =>
      if parts.head?.any (fun f => f.form = .super) && !allowed then some (span.lo - 1)
      else misplacedSupers allowed false parts
    | .function _ | .functionDecl _ | .field _ _ | .staticBlock => misplacedSupers false false parts
    | .method kind _ _ _ => misplacedSupers (derived && kind = .constructor) false parts
    | .classDecl | .class => misplacedSupers false ((parts[1]?).any fun b => !b.isAbsent) parts
    | _ => misplacedSupers allowed false parts

/-- The same for the nodes of a list. -/
def misplacedSupers (allowed derived : Bool) : List Node → Option Nat
  | [] => none
  | n :: ns => (misplacedSuper allowed derived n).or (misplacedSupers allowed derived ns)

end

/-! ### Programs -/

/-- The program that a text writes. -/
def readProgram (text : String) (strict : Bool) : Except SyntaxFault Node := do
  let chars := text.toList
  let parsed := Script.parseItems chars (Script.Setting.module false) .moduleItem
  let report (p : Problem) : SyntaxFault := ⟨faultMessage chars p, p.place⟩
  let counts (p : Problem) : Bool := strict || !onlyStrict p.complaint
  let issue? := parsed.issues.find? fun p => counts p && p.complaint ≠ .assignmentLeft
  match parsed.program with
  | .error p =>
    .error (report ((issue?.filter fun q => q.place < p.place).getD p))
  | .ok n =>
    let strict := strict || asksStrict (.made .block n.parts)
    let module? := n.parts.findSome? fun m => moduleFault? chars m
    let super? := (misplacedSupers false false n.parts).map
      (SyntaxFault.mk "super() is only valid in a derived class constructor")
    let check? := match checkNodes strict n.parts [.body []] with
      | .error fault => some fault
      | .ok _ => none
    match [issue?.map report, module?, super?, check?].reduceOption.mergeSort (·.place ≤ ·.place) with
    | fault :: _ => .error fault
    | [] => .ok n
where
  /-- The fault of a part of a program that only modules have. -/
  moduleFault? (chars : List Char) (m : Node) : Option SyntaxFault :=
    let place := m.span.lo - 1
    match m.form with
    | .import _ _ _ _ => some ⟨unexpectedAt chars (place + 6), place⟩
    | .exportDecl | .exportDefault | .exportNamed _ _ | .exportAll _ | .exportAssign =>
      some ⟨"unsupported keyword: export", place⟩
    | _ => none

end Engine

end NotebookEngine
