/-
**Expressions.**

Main definitions:

* `Script.expression` — an expression, possibly with commas;
* `Script.assignment` — an expression without commas;
* `Script.unaryExpression` — an expression without operators between operands;
* `Script.primary` — an expression without operators.
-/

import NotebookEngine.Script.Parser.Functions
import NotebookEngine.Script.Parser.Targets

set_option autoImplicit false

namespace NotebookEngine

namespace Script

/-! ### Templates -/

/-- The stretches of a template from the token on, which opens it or closes a value, and the values
between them. The template starts at `lo`. -/
def templateParts (rec : Grammar) (lo : Nat) :
    Nat → Parser (List (Except Problem (List Char) × List Char) × List Node)
  | 0 => pure ([], [])
  | n + 1 => do
    let t := (← get).token
    let part := lexTemplate (.ok []) [] 0 t.rest t.hi
    match part.ending with
    | .missing => failAt lo .unterminatedTemplate
    | .close =>
      stepPast part.place part.rest
      pure ([(part.cooked, part.raw)], [])
    | .value =>
      stepPast part.place part.rest
      let e ← withIn (rec .expression)
      if !(← at? "\x7d") then fail (.expected "'\x7d'" (← get).token.lexeme.title)
      let (parts, values) ← templateParts rec lo n
      pure ((part.cooked, part.raw) :: parts, e :: values)

/-- The first problem of the stretches of a template. -/
def firstProblem : List (Except Problem (List Char) × List Char) → Option Problem
  | [] => none
  | (.error p, _) :: _ => some p
  | (.ok _, _) :: rest => firstProblem rest

/-- A template from its first mark on. -/
def template (rec : Grammar) (tagged : Bool) : Parser Node := do
  let lo ← here
  let (parts, values) ← templateParts rec lo (← get).limit
  match firstProblem parts with
  | some p => if !tagged then throw p
  | none => pure ()
  let cooked := parts.map fun p =>
    match p.1 with
    | .ok cs => some (String.ofList (joinHalves cs))
    | .error _ => none
  nodeFrom lo (.template cooked (parts.map fun p => String.ofList p.2)) values

/-! ### Lists and objects -/

/-- Goes over the comma after an item of a list or an object that starts at `lo`, unless the closing
mark follows; a comma before the closing mark is remembered. -/
def itemComma (lo : Nat) (close : String) : Parser Unit := do
  if !(← at? close) then
    expect ","
    if ← at? close then
      modify fun s => { s with commas := (lo, s.before.lo) :: s.commas }

/-- An item of a list that starts at `lo`. -/
def arrayItem (rec : Grammar) (lo : Nat) : Parser (Option Node) := do
  if ← at? "]" then pure none
  else if ← eat "," then pure (some .absent)
  else
    let n ← spreadable rec
    itemComma lo "]"
    pure (some n)

/-- What may follow the key of a property. -/
def afterKeyWanted : String :=
  "... , *,  (, [, :, , ?, =, an identifier, public, protected, private, readonly, <."

/-- Whether a token may follow the key of a property. -/
def followsKey (t : Token) (named : Bool) : Bool :=
  match t.lexeme with
  | .word _ _ | .string _ _ | .number _ _ => true
  | .punct p => ["(", "[", ":", ",", "?", "=", "*", "<"].contains p || (p = "\x7d" && named)
  | _ => false

/-- Notes the modifier of a property that may have none. -/
def noteAsyncModifier : Option Nat → Parser Unit
  | some place => noteAt place .asyncModifier
  | none => pure ()

/-- A property from its key on; `modifier?` is the place of a modifier before it. -/
def propertyFrom (rec : Grammar) (lo : Nat) (modifier? : Option Nat) (k : Node × Bool) :
    Parser Node := do
  let head := MemberHead.plain lo
  let keep (m : Option Node) : Node := m.getD .absent
  let t := (← get).token
  let named := !k.2 && (match k.1.form with | .name _ => true | _ => false)
  if (← setting).typed && !followsKey t named then
    note .semicolonExpected
    pure (.mk (.property k.2) k.1.span [k.1, .absent])
  else if ← eat ":" then
    let v ← withIn (rec .assignment)
    nodeFrom lo (.property k.2) [k.1, v]
  else if ← atMethod then
    pure (keep (← methodFrom rec head k .method .plain))
  else if !named then failUnexpected "identifier"
  else
    if (← setting).typed && (← eat "?") then noteAt (← get).before.lo .optionalProperty
    let word := k.1.nameText
    if (← at? "=") || (← at? ",") || (← at? "\x7d") then
      if isReserved word && !(← setting).typed then noteAt k.1.start .reservedShorthand
      if ← eat "=" then
        let v ← withIn (rec .assignment)
        nodeFrom lo .shorthandDefault [k.1, v]
      else pure (.mk .shorthand k.1.span [k.1])
    else if word = "async" then
      noteAsyncModifier modifier?
      let generator ← eat "*"
      let k ← key rec
      pure (keep (← methodFrom rec head k .method ⟨true, generator⟩))
    else if word = "get" || word = "set" then
      noteAsyncModifier modifier?
      let kind : MethodKind := if word = "get" then .getter else .setter
      let k ← key rec
      let m ← methodFrom rec head k kind .plain
      match m with
      | some n => noteAccessor kind k.1.start (n.parts.drop 2)
      | none => pure ()
      pure (keep m)
    else failUnexpected afterKeyWanted

/-- A property of an object that starts at a place. -/
def objectItem (rec : Grammar) (start : Nat) : Parser (Option Node) := do
  if ← at? "\x7d" then pure none
  else
    let lo ← here
    let item ← do
      if ← at? "..." then spreadable rec
      else if ← eat "*" then
        let k ← key rec
        let m ← methodFrom rec (MemberHead.plain lo) k .method ⟨false, true⟩
        pure (m.getD .absent)
      else
        let modified ← fieldModifier
        propertyFrom rec lo (if modified then some lo else none) (← key rec)
    itemComma start "\x7d"
    pure (some item)

/-! ### Operators between operands -/

/-- Whether the node is an arrow function. -/
def isArrow (n : Node) : Bool :=
  match n.form with
  | .arrow _ => true
  | _ => false

/-- How tightly an operator binds; zero if it is none. -/
def precedence (op : String) : Nat :=
  if op = "??" || op = "||" then 1
  else if op = "&&" then 2
  else if op = "|" then 3
  else if op = "^" then 4
  else if op = "&" then 5
  else if ["==", "!=", "===", "!=="].contains op then 6
  else if ["<", ">", "<=", ">=", "in", "instanceof"].contains op then 7
  else if ["<<", ">>", ">>>"].contains op then 8
  else if op = "+" || op = "-" then 9
  else if ["*", "/", "%"].contains op then 10
  else if op = "**" then 11
  else 0

/-- The operator that the token is, between two operands. -/
def operatorOf (t : Token) (withoutIn : Bool) : Option String :=
  match t.lexeme with
  | .punct p => if precedence p > 0 then some p else none
  | .word w false =>
    if (w = "in" && !withoutIn) || w = "instanceof" then some w else none
  | _ => none

/-- Whether the node is an operation with one of the operators. -/
def isBinary (n : Node) (ops : List String) : Bool :=
  match n.form with
  | .binary op => ops.contains op
  | _ => false

/-- The operators after an operand that bind tighter than `least`; `n` bounds their number. -/
def operatorsFor (rec : Grammar) : Nat → Nat → Node → Parser Node
  | 0, _, left => pure left
  | n + 1, least, left => do
    let t := (← get).token
    let c ← setting
    if c.typed && least < 7 && !t.afterLineEnd && (t.isWord "as" || t.isWord "satisfies") then
      step
      if !(← eatWord "const") then innerType rec
      operatorsFor rec n least left
    else
      match operatorOf t c.withoutIn with
      | none => pure left
      | some op =>
        let level := precedence op
        if level ≤ least then pure left
        else
          step
          if op = "**" then
            match left.form with
            | .unary _ | .await => fail .unaryPower
            | _ => pure ()
          let first ← rec .unary
          let right ← if isArrow first then pure first
            else operatorsFor rec n (if op = "**" then level - 1 else level) first
          if op = "??" then
            if isBinary left ["&&", "||"] then noteAt left.start .mixedNullish
            if isBinary right ["&&", "||"] then noteAt right.start .mixedNullish
          if (op = "&&" || op = "||") && isBinary left ["??"] then noteAt left.start .mixedNullish
          let e ← nodeFrom left.start (.binary op) [left, right]
          operatorsFor rec n least e

/-- An operand; where it is missing before an operator, the fault is noted and nothing stands for it. -/
def firstOperand (rec : Grammar) : Parser Node := fun s =>
  match rec .unary s with
  | .ok n t => .ok n t
  | .error e t =>
    let t := { t with setting := s.setting }
    if (operatorOf t.token s.setting.withoutIn).isSome then
      let issue : Problem := ⟨t.token.lo, .expressionExpected⟩
      .ok (.mk .absent ⟨t.token.lo + 1, t.token.lo + 1⟩ [])
        (if t.quiet then t else { t with issues := issue :: t.issues })
    else .error e t

/-- An expression with operators between operands. -/
def binaryExpression (rec : Grammar) : Parser Node := do
  let left ← firstOperand rec
  if isArrow left then pure left else operatorsFor rec (← get).limit 0 left

/-- The two choices of a conditional expression that starts at a place, from its first mark on. -/
def choices (rec : Grammar) (lo : Nat) (test : Node) : Parser Node := do
  step
  let yes ← within
    (fun c => { c with withoutIn := false, inConditional := true, colonEnds := true })
    (rec .assignment)
  expect ":"
  let no ← within (fun c => { c with inConditional := true, colonEnds := false })
    (rec .assignment)
  nodeFrom lo .conditional [test, yes, no]

/-- The operators that assign. -/
def assignmentOperators : List String :=
  ["=", "+=", "-=", "*=", "/=", "%=", "**=", "<<=", ">>=", ">>>=", "&=", "|=", "^=", "&&=", "||=",
    "??="]

/-- Whether an expression can be written to at all, if only as a fault that is noted. -/
def isWritable (e : Node) : Bool :=
  match e.form with
  | .name _ | .member _ _ _ | .privateMember _ _ _ | .index _ | .paren | .chain | .arrayPattern
  | .objectPattern => true
  | _ => false

/-- An assignment to the expression, if one follows. -/
def assignmentTo (rec : Grammar) (lo : Nat) (e : Node) : Parser Node := do
  let t := (← get).token
  match assignmentOperators.find? t.isPunct with
  | none => pure e
  | some op =>
    let target ←
      if op = "=" then asPattern .target e
      else do
        if !isSimpleTarget e then noteAt e.start .assignmentLeft
        pure e
    if !isWritable target then failAt e.start .assignmentTarget
    step
    let v ← rec .assignment
    nodeFrom lo (.assign op) [target, v]

/-! ### Brackets and arrows -/

/-- What stands in round brackets before it is known whether they hold parameters. -/
structure BracketItem where
  node : Node
  isPattern : Bool

/-- Whether a token may follow the mark of an optional parameter. -/
def followsOptional (t : Token) : Bool := [",", ":", ")", "="].any t.isPunct

/-- An expression in round brackets, or one whose items are spread. Where it starts with a name it ends
before a mark that may say that a parameter is optional. -/
def namedItem (rec : Grammar) (start : Nat) : Parser Node := do
  let t := (← get).token
  let next ← peek
  let generic := t.isWord "async" && next.isPunct "<"
  if t.isNameRef && !generic then
    modify fun s => { s with arrowStart := some start }
    withIn do
      let e ← binaryExpression rec
      if isArrow e then pure e else assignmentTo rec t.lo e
  else if t.isPunct "..." && next.isNameRef then
    step
    let e ← withIn (binaryExpression rec)
    nodeFrom t.lo .spread [e]
  else spreadable rec

/-- An item in round brackets and the comma after it. -/
def bracketItem (rec : Grammar) : Parser (Option BracketItem) := do
  if ← at? ")" then pure none
  else
    let modifierPlace ← here
    let modified ← fieldModifier
    let lo ← here
    let typed := (← setting).typed
    let e ← if typed then namedItem rec modifierPlace else spreadable rec
    let next ← peek
    let optional := typed && (← at? "?") && followsOptional next
    if optional then
      step
      if e.form = .spread then noteAt (← get).before.lo .restOptional
      match e.form with
      | .name _ => pure ()
      | _ => if e.form ≠ .spread then failAt e.start .optionalPattern
    let e ← if !optional && typed && e.form ≠ .spread && (← at? "?") then choices rec lo e else pure e
    let item ←
      if typed && (optional || (← at? ":")) then do
        let _ ← annotation rec
        let p ←
          if e.form = .spread then do
            let inner ← asPattern .binding (e.part 0)
            pure (.mk .rest e.span [inner])
          else asPattern .binding e
        if ← at? "=" then
          step
          let v ← withIn (rec .assignment)
          pure (BracketItem.mk (← nodeFrom lo .defaulted [p, v]) true)
        else pure (BracketItem.mk p true)
      else pure (BracketItem.mk e false)
    if modified then noteAt modifierPlace .parameterFieldPlace
    if !(← at? ")") then expect ","
    pure (some item)

/-- The parameters that items in brackets are. -/
def bracketParams : List BracketItem → Parser (List Node)
  | [] => pure []
  | i :: is => do
    let p ←
      if i.isPattern then pure i.node
      else if i.node.form = .spread then do
        if !is.isEmpty then noteAt i.node.start .lastRest
        let inner ← asPattern .binding (i.node.part 0)
        pure (.mk .rest i.node.span [inner])
      else asPattern .binding i.node
    let ps ← bracketParams is
    pure (p :: ps)

/-- An arrow function from its arrow on. -/
def arrowFrom (rec : Grammar) (lo : Nat) (isAsync : Bool) (items : List BracketItem) :
    Parser Node := do
  expect "=>"
  let params ← bracketParams items
  let body ← arrowBody rec isAsync
  nodeFrom lo (.arrow isAsync) (body :: params.filter fun p => !isThisParameter p)

/-- Notes the first property with a value by default of each object among the nodes. -/
def noteDefaults : List Node → Parser Unit
  | [] => pure ()
  | n :: ns => do
    if n.form = .object then
      match n.parts.find? fun p => p.form = .shorthandDefault with
      | some p => noteAt p.start .assignedProperty
      | none => pure ()
    noteDefaults ns

/-- An arrow function whose result has a type, where a colon might also end a conditional part. -/
def typedArrow (rec : Grammar) (lo : Nat) (isAsync : Bool) (items : List BracketItem) :
    Parser (Option Node) := do
  let c ← setting
  if c.typed && c.inConditional && (← at? ":") then
    attempt do
      resultType rec
      let n ← arrowFrom rec lo isAsync items
      if c.colonEnds && !(← at? ":") && !(← at? ";") then failUnexpected "fail"
      pure n
  else pure none

/-- Round brackets, which hold an expression, the parameters of an arrow function, or, after `async`,
the arguments of a call. -/
def bracketed (rec : Grammar) (lo : Nat) (arrowAllowed : Bool) (callee : Option Node) :
    Parser Node := do
  let bracket ← here
  expect "("
  let items ← within (fun c => { c with inConditional := false, colonEnds := false })
    (sequenceOf (bracketItem rec))
  expect ")"
  let isAsync := callee.isSome
  match ← typedArrow rec lo isAsync items with
  | some n => pure n
  | none =>
    let c ← setting
    let result ←
      if c.typed && !c.colonEnds && (← at? ":") then
        attempt do
          resultType rec
          if !(← at? "=>") then failUnexpected "fail"
      else pure none
    if (items.any fun i => i.isPattern) || result.isSome || (← at? "=>") then
      if (← get).token.afterLineEnd then failAt lo .arrowLineBreak
      if !arrowAllowed then failAt lo .arrowPlace
      arrowFrom rec lo isAsync items
    else
      let nodes := items.map BracketItem.node
      noteDefaults nodes
      match callee with
      | some f => nodeFrom lo (.call false) (f :: nodes)
      | none =>
        match nodes with
        | [] => failAt bracket .emptyParentheses
        | [n] =>
          if n.form = .spread then failAt n.start .spreadInParentheses
          else nodeFrom bracket .paren [n]
        | n :: _ =>
          match nodes.find? fun m => m.form = .spread with
          | some m => failAt m.start .spreadInParentheses
          | none =>
            let last := nodes.getLastD n
            nodeFrom bracket .paren [.mk .sequence ⟨n.span.lo, last.span.hi⟩ nodes]

/-! ### Expressions without operators -/

/-- A name, or an arrow function that starts with it. -/
def nameOrArrow (rec : Grammar) (arrowAllowed : Bool) : Parser Node := do
  let lo ← here
  let id ← identifier
  let t := (← get).token
  if arrowAllowed && id.nameText = "async" && !t.afterLineEnd && t.isPunct "(" then
    bracketed rec lo true (some id)
  else if arrowAllowed && id.nameText = "async" && !t.afterLineEnd && t.isWord "of" &&
      (← setting).loopStart.isSome && !(← peek).isPunct "=>" then
    if (← setting).loopStart = some false then noteAt lo .forAsync
    pure id
  else if arrowAllowed && id.nameText = "async" && !t.afterLineEnd && t.isNameRef then
    let p ← bindingIdentifier false
    if (← setting).typed && p.nameText = "as" && !(← at? "=>") then
      let _ ← rec .typeExpr
      pure id
    else arrowFrom rec lo true [⟨p, true⟩]
  else if arrowAllowed && !t.afterLineEnd && t.isPunct "=>" then
    if id.nameText = "eval" || id.nameText = "arguments" then noteAt lo .evalOrArguments
    arrowFrom rec lo false [⟨id, true⟩]
  else pure id

/-- An expression without operators; `base` parses what a class extends. -/
def primary (rec : Grammar) (base : Parser Node) : Parser Node := do
  let t := (← get).token
  let lo := t.lo
  let arrowAllowed := (← get).arrowStart = some lo
  match t.lexeme with
  | .number v raw =>
    step
    nodeFrom lo (.number v raw) []
  | .bigint v raw =>
    step
    nodeFrom lo (.bigint v raw) []
  | .string v raw =>
    step
    nodeFrom lo (.string v raw) []
  | .backtick => template rec false
  | .bad p => throw p
  | .word w escaped =>
    let next ← peek
    if escaped then nameOrArrow rec arrowAllowed
    else if w = "this" then
      step
      nodeFrom lo .this []
    else if w = "null" then
      step
      nodeFrom lo .null []
    else if w = "true" || w = "false" then
      step
      nodeFrom lo (.bool (w = "true")) []
    else if w = "function" then functionFrom rec lo false false false
    else if w = "async" && next.isWord "function" && !next.afterLineEnd then
      step
      functionFrom rec lo true false false
    else if w = "class" then classFrom rec base lo false false false []
    else if !isReserved w || w = "let" ||
        (!(← setting).typed && (w = "await" || w = "yield" || strictWords.contains w)) then
      nameOrArrow rec arrowAllowed
    else fail .expressionExpected
  | .punct "[" =>
    step
    let items ← sequenceOf (arrayItem rec lo)
    expect "]"
    nodeFrom lo .array items
  | .punct "\x7b" =>
    step
    let items ← sequenceOf (objectItem rec lo)
    expect "\x7d"
    nodeFrom lo .object (items.filter fun n => !n.isAbsent)
  | .punct "(" => bracketed rec lo arrowAllowed none
  | .punct "@" =>
    let marks ← decorators rec
    if ← atWord "class" then classFrom rec base lo false false false marks
    else fail .expressionExpected
  | .punct "#" => privateName
  | .punct p =>
    if p = "/" || p = "/=" then
      rescan (lexRegex t.text lo t.afterLineEnd)
      match (← get).token.lexeme with
      | .regex pattern flags =>
        step
        nodeFrom lo (.regex pattern flags) []
      | .bad problem => throw problem
      | _ => fail .expressionExpected
    else fail .expressionExpected
  | _ => fail .expressionExpected

/-! ### Members and calls -/

/-- The words that continue an expression and start none. -/
def infixWords : List String :=
  ["in", "instanceof", "of", "as", "satisfies", "else", "case", "default", "catch", "finally",
    "extends", "implements"]

/-- Whether an expression may start with the token. -/
def startsExpression (t : Token) : Bool :=
  match t.lexeme with
  | .word w _ => !infixWords.contains w
  | .number _ _ | .bigint _ _ | .string _ _ | .backtick | .regex _ _ => true
  | .punct p =>
    ["(", "[", "\x7b", "+", "-", "!", "~", "++", "--", "/", "/=", "<", "@", "#"].contains p
  | _ => false

/-- Whether type arguments may end before the token. -/
def followsTypeArguments (t : Token) : Bool :=
  if t.isPunct "(" || t.lexeme.title = "\x60" then true
  else if ["<", ">", "+", "-", ">>", ">>>", ">=", ">>="].any t.isPunct then false
  else t.afterLineEnd || !startsExpression t

/-- One more part of a chain that starts at `lo`: a member, a call or a template; the flag says whether
the chain has an optional part. -/
def chainStep (rec : Grammar) (lo : Nat) (withoutCall : Bool) (c : Node × Bool) :
    Parser (Option (Node × Bool)) := do
  let (n, optional) := c
  let t := (← get).token
  let member (isOptional : Bool) : Parser (Node × Bool) := do
    if ← at? "#" then
      let p ← privateName
      let name := match p.form with
        | .privateName w => w
        | _ => ""
      pure (← nodeFrom lo (.privateMember name p.span isOptional) [n], optional || isOptional)
    else
      let p ← anyName
      pure (← nodeFrom lo (.member p.nameText p.span isOptional) [n], optional || isOptional)
  let index (isOptional : Bool) : Parser (Node × Bool) := do
    step
    let e ← withIn (rec .expression)
    expect "]"
    pure (← nodeFrom lo (.index isOptional) [n, e], optional || isOptional)
  let call (isOptional : Bool) : Parser (Node × Bool) := do
    let args ← arguments rec
    pure (← nodeFrom lo (.call isOptional) (n :: args), optional || isOptional)
  match t.lexeme with
  | .punct "!" =>
    if (← setting).typed && !t.afterLineEnd then
      step
      let next := (← get).token
      match n.form with
      | .name _ =>
        if next.isPunct "." || next.isPunct "[" then
          pure (some (← nodeFrom lo .asserted [n], optional))
        else pure (some c)
      | _ => pure (some c)
    else pure none
  | .punct "?." =>
    step
    if n.form = .super then
      if ← at? "(" then
        let _ ← call true
        fail .superOptionalCall
      else
        let _ ← if ← at? "[" then index true else member true
        fail (if withoutCall then .superCall else .superAlone)
    else if ← at? "[" then pure (some (← index true))
    else if (← setting).typed && ((← at? "<") || (← at? "<<")) then
      typeArguments rec
      pure (some (← call true))
    else if ← at? "(" then pure (some (← call true))
    else if (← get).token.lexeme.title = "\x60" then
      let q ← template rec true
      noteAt lo .chainTemplate
      pure (some (← nodeFrom lo .tagged [n, q], true))
    else pure (some (← member true))
  | .punct "[" => pure (some (← index false))
  | .punct "(" => if withoutCall then pure none else pure (some (← call false))
  | .punct "." =>
    step
    pure (some (← member false))
  | .backtick =>
    let q ← template rec true
    if optional then noteAt lo .chainTemplate
    pure (some (← nodeFrom lo .tagged [n, q], optional))
  | .punct p =>
    if (p = "<" || p = "<<") && (← setting).typed then
      match ← attempt (do
        typeArguments rec
        if !followsTypeArguments (← get).token then failUnexpected "fail") with
      | some _ => pure (some c)
      | none => pure none
    else pure none
  | _ => pure none

/-- The parts of a chain after its start. -/
def chainFrom (rec : Grammar) (lo : Nat) (withoutCall : Bool) (c : Node × Bool) :
    Parser (Node × Bool) := do
  let before ← here
  let d ← extend (chainStep rec lo withoutCall) c
  if c.1.form = .super && (← here) = before then
    fail (if withoutCall then .superCall else .superAlone)
  pure d

/-- What stands after `new`, or a member; `n` bounds the words `new` in a row. -/
def newOrMember (rec : Grammar) (base : Parser Node) : Nat → Bool → Parser (Node × Bool)
  | 0, _ => fail .expressionExpected
  | n + 1, afterNew => do
    let lo ← here
    if ← eatWord "new" then
      if ← eat "." then
        if ← eatWord "target" then
          if !(← setting).hasNewTarget then noteAt lo .newTargetOutside
          chainFrom rec lo true (← nodeFrom lo .newTarget [], false)
        else failUnexpected "target"
      else
        let (callee, optional) ← newOrMember rec base n true
        if isArrow callee then pure (callee, false)
        else
          if optional then failAt callee.start .chainConstructor
          if (← setting).typed && (← at? "<") then
            let _ ← attempt do
              typeArguments rec
              if !(← at? "(") then expect "("
          if ← at? "(" then
            let args ← arguments rec
            chainFrom rec lo true (← nodeFrom lo (.new true) (callee :: args), false)
          else if !afterNew then pure (← nodeFrom lo (.new false) [callee], false)
          else pure (← nodeFrom lo (.new false) [callee], false)
    else if ← eatWord "super" then
      chainFrom rec lo true (← nodeFrom lo .super [], false)
    else
      let e ← primary rec base
      if isArrow e then pure (e, false) else chainFrom rec lo true (e, false)

/-- A chain that ends early where an optional part meets nothing. -/
def closeChain (c : Node × Bool) : Node :=
  if c.2 then .mk .chain c.1.span [c.1] else c.1

/-- What stands to the left of an assignment, or a call; `n` bounds the depth. -/
def leftSide (rec : Grammar) : Nat → Parser Node
  | 0 => fail .expressionExpected
  | n + 1 => do
    let t := (← get).token
    let lo := t.lo
    if t.isWord "super" then
      step
      pure (closeChain (← chainFrom rec lo false (← nodeFrom lo .super [], false)))
    else if t.isWord "import" then
      step
      if ← eat "." then
        let p ← anyName
        if p.nameText ≠ "meta" then failUnexpected "meta"
        pure (closeChain (← chainFrom rec lo false (← nodeFrom lo .importMeta [], false)))
      else
        let args ← arguments rec
        if args.length ≠ 1 && args.length ≠ 2 then failAt lo .importArguments
        pure (closeChain (← chainFrom rec lo false (← nodeFrom lo .importCall args, false)))
    else
      let c ← newOrMember rec (leftSide rec n) (← get).limit false
      match c.1.form with
      | .arrow _ => pure c.1
      | .new false => pure c.1
      | _ =>
        if ← at? "(" then
          let args ← arguments rec
          let call ← nodeFrom lo (.call false) (c.1 :: args)
          pure (closeChain (← chainFrom rec lo false (call, c.2)))
        else pure (closeChain c)

/-! ### Operators -/

/-- The words and marks before an operand. -/
def unaryOperators : List String := ["delete", "void", "typeof", "+", "-", "~", "!"]

/-- An operand, or nothing where it is missing; its fault is noted. -/
def operandOrGap (p : Parser Node) : Parser Node := fun s =>
  match p s with
  | .ok n t => .ok n t
  | .error e t =>
    .ok (.mk .absent .none []) (if t.quiet then t else { t with issues := e :: t.issues })

/-- An expression without operators between operands. -/
def unaryExpression (rec : Grammar) : Parser Node := do
  let t := (← get).token
  let lo := t.lo
  if (← setting).typed && t.isPunct "<" then
    step
    if !(← eatWord "const") then innerType rec
    closeAngle
    rec .unary
  else if t.isPunct "++" || t.isPunct "--" then
    step
    let e ← rec .unary
    if !isSimpleTarget e then noteAt e.start .assignmentLeft
    nodeFrom lo (.update t.lexeme.title true) [e]
  else
    let op? := unaryOperators.find? fun op => t.isPunct op || t.isWord op
    match op? with
    | some op =>
      step
      let e ← operandOrGap (rec .unary)
      nodeFrom lo (.unary op) [e]
    | none =>
      if t.isWord "await" && ((← setting).typed || (← setting).isAsync) then
        step
        if ← at? "*" then fail .awaitStar
        let c ← setting
        if c.inFunction && !c.isAsync then noteAt lo .awaitOutside
        if c.inParameters && !c.inFunction then noteAt lo .awaitInParameters
        let e ← rec .unary
        nodeFrom lo .await [e]
      else
        let e ← leftSide rec (← get).limit
        let u := (← get).token
        if isArrow e || u.afterLineEnd then pure e
        else if u.isPunct "++" || u.isPunct "--" then
          if !isSimpleTarget e then noteAt e.start .assignmentLeft
          step
          nodeFrom lo (.update u.lexeme.title false) [e]
        else pure e

/-- An expression that may choose between two. -/
def conditionalExpression (rec : Grammar) : Parser Node := do
  let lo ← here
  let test ← binaryExpression rec
  if isArrow test then pure test
  else if ← at? "?" then choices rec lo test
  else pure test

/-- What a generator hands out. -/
def yieldExpression (rec : Grammar) : Parser Node := do
  let lo ← here
  let c ← setting
  if c.inParameters && !c.inFunction then failAt lo .yieldInParameters
  step
  let t := (← get).token
  let star := t.isPunct "*" && !t.afterLineEnd
  if !star && ((← atStatementEnd) || !startsExpression t) then nodeFrom lo (.yield false) [.absent]
  else
    if star then step
    let e ← rec .assignment
    nodeFrom lo (.yield star) [e]

/-- An arrow function with type parameters. -/
def genericArrow (rec : Grammar) : Parser (Option Node) := do
  let t := (← get).token
  let next ← peek
  if !(← setting).typed then pure none
  else if t.isPunct "<" then
    attempt do
      typeParameters rec .ofFunction
      let e ← rec .assignment
      if !isArrow e then failUnexpected "fail"
      pure (.mk e.form ⟨t.lo + 1, e.span.hi⟩ e.parts)
  else if t.isWord "async" && next.isPunct "<" && !next.afterLineEnd then
    attempt do
      step
      typeParameters rec .ofFunction
      expect "("
      let items ← sequenceOf (bracketItem rec)
      expect ")"
      resultType rec
      arrowFrom rec t.lo true items
  else pure none

/-- An expression without commas. -/
def assignment (rec : Grammar) : Parser Node := do
  match ← genericArrow rec with
  | some n => pure n
  | none =>
    let lo ← here
    if (← setting).isGenerator && (← atWord "yield") then yieldExpression rec
    else
      modify fun s => { s with arrowStart := some lo }
      let e ← conditionalExpression rec
      match e.form with
      | .arrow _ | .conditional | .binary _ | .unary _ | .update _ _ => pure e
      | _ => assignmentTo rec lo e

/-- An expression, possibly with commas. -/
def expression (rec : Grammar) : Parser Node := do
  let lo ← here
  let first ← rec .assignment
  if ← at? "," then
    let rest ← sequenceOf (commaItem rec)
    nodeFrom lo .sequence (first :: rest)
  else pure first

end Script

end NotebookEngine
