/-
**Expressions.**

An expression is evaluated by asking for its parts to be evaluated.

Main definitions:

* `Engine.reference` — a value together with what it was found in;
* `Engine.assignTo` — assigning to the target that a node writes;
* `Engine.evalText` — a text evaluated as a program;
* `Engine.evaluateExpression` — the value of an expression.
-/

import NotebookEngine.Engine.Classes
import NotebookEngine.Engine.Operators
import NotebookEngine.Engine.Reading

set_option autoImplicit false

namespace NotebookEngine

namespace Engine

open Act
open Script (Node Form FunctionMode Span)

/-! ### Places -/

/-- Do something that is laid out before another stretch of program, which has been run already: where
the innermost call was before that stretch is given. -/
def beforeStretch {α : Type} (n : Node) (start : Place) (x : Act α) : Act α := do
  putPlace start
  let v ← x
  passStretch n
  pure v

/-- Assign to the variable that a stretch of program writes. Where a constant is assigned to, what follows
is never run. -/
def writeName (s : Scope) (name : String) (v : Value) (span : Span) : Act Unit := do
  match s.find? name with
  | some ⟨_, .variable⟩ | none => assignName s name v
  | some _ =>
    passPlace (← read fun w => w.frames.head?.bind fun a => placeOfWrite? a.parts span)
    assignName s name v

/-! ### Arguments -/

/-- The values of arguments or items, those that are spread one after the other. -/
def evaluateList : List Node → Scope → Act (List Value)
  | [], _ => pure []
  | n :: ns, s => do
    match n.form with
    | .spread =>
      let items ← iterableItems (← evaluate (n.part 0) s)
      pure (items ++ (← evaluateList ns s))
    | _ =>
      let v ← evaluate n s
      pure (v :: (← evaluateList ns s))

/-! ### Members -/

/-- The number of a name that is private to a class. -/
def privateId (name : String) (s : Scope) : Act Nat := do
  match s.find? ("#" ++ name) with
  | some b => pure b.cell
  | none => throwFault .syntaxError ("undefined private field '#" ++ name ++ "'")

/-- Throw the error about an object that has no member under a private name. -/
def throwNoMember {α : Type} (name : String) (s : Scope) : Act α :=
  match s.find? ("#" ++ name) with
  | some ⟨_, .constant⟩ => throwType "invalid brand on object"
  | _ => throwType ("private class field '#" ++ name ++ "' does not exist")

/-- The value of a private member. -/
def getPrivate (v : Value) (name : String) (s : Scope) : Act Value := do
  let id ← privateId name s
  match v with
  | .object r =>
    match (← object r).named? (.hidden id) with
    | some p =>
      match p.content with
      | .accessor none _ => throwType ("'#" ++ name ++ "' is read-only")
      | _ => readProperty p v
    | none => throwNoMember name s
  | _ =>
    throwType "not an object"

/-- Assign to a private member. -/
def setPrivate (v : Value) (name : String) (x : Value) (s : Scope) : Act Unit := do
  let id ← privateId name s
  match v with
  | .object r =>
    match (← object r).named? (.hidden id) with
    | some ⟨.value _ true, _, _⟩ => modifyObject r fun o => o.putNamed (.hidden id) (.plain x)
    | some ⟨.value _ false, _, _⟩ => throwType ("'#" ++ name ++ "' is read-only")
    | some ⟨.accessor _ (some f), _, _⟩ => let _ ← call (.object f) v [x]
    | some ⟨.accessor _ none, _, _⟩ => throwType ("'#" ++ name ++ "' is read-only")
    | none => throwNoMember name s
  | _ => throwType "not an object"

/-- The object in which a method looks for the members that it overrides. -/
def superBase (s : Scope) : Act Value := do
  match s.find? "super" with
  | some b =>
    match ← cellValue b.cell with
    | .object home => pure ((← protoOf home).elim .null .object)
    | _ => pure .undefined
  | none => throwFault .syntaxError "'super' is only valid in a method"

/-- The value of a member of `super`. -/
def getSuper (k : Key) (s : Scope) : Act Value := do
  let this ← readName s "this"
  match ← superBase s with
  | .object r => getFrom r k this
  | _ => throwType ("cannot read property '" ++ (← keyText k) ++ "' of null")

/-- The value of a member by a key that has been evaluated. -/
def getIndexed (v k : Value) : Act Value := do
  match v, k with
  | .object r, .number x =>
    let o ← object r
    match o.kind with
    | .array items _ _ _ =>
      if x ≥ 0 && x < Float.ofNat items.size && x.floor == x then
        match (items[x.toUInt64.toNat]?).join with
        | some item => pure item
        | none => get v (.ofNumber x)
      else get v (.ofNumber x)
    | _ => get v (.ofNumber x)
  | _, _ =>
    if v.isNothing then get v ((← outcome (toKey k)).toOption.getD default)
    else get v (← toKey k)

/-! ### Programs given as text -/

/-- Throw an error about a text that is no program. -/
def throwSyntax {α : Type} (file text : String) (fault : SyntaxFault) : Act α := do
  let (line, column) := (Source.ofText file text).lineColumn fault.place
  let trace ← read fun w => w.trace 0
  let here := "    at " ++ file ++ ":" ++ toString line ++ ":" ++ toString column ++ "\n"
  throw (← makeErrorAt .syntaxError fault.message (here ++ trace))

/-- Keep a text so that errors can tell places in it. -/
def addSource (file text : String) : Act Nat := update fun w =>
  let n := w.sources.size
  (n, { w with sources := w.sources.push (.ofText file text) })

/-- The name of texts that programs make themselves. -/
def inputFile : String := "<input>"

/-- Evaluate a text as a program: the value of its last statement. -/
def evalText (file text : String) (s : Scope) : Act Value := do
  match readProgram text s.strict with
  | .error fault => throwSyntax file text fault
  | .ok program =>
    let source ← addSource file text
    let strict := s.strict || asksStrict (.made .block program.parts)
    inCall ⟨"<eval>", some source, default, program.parts⟩ do
      let s := { s with source, strict }
      let hoisted := (variableNamesIn program.parts).eraseDups
      let s ← if strict then
          hoisted.foldlM (fun s name => withValue s name .undefined .variable) s
        else do
          let global := Wellknown.global.ref
          for name in hoisted do
            if (s.find? name).isNone then
              match ← lookUp global (.text name) with
              | .absent => modifyObject global fun o => o.putNamed (.text name) (.plain .undefined)
              | _ => pure ()
          pure s
      let s ← declareBlock program.parts s
      let completion ← newCell (.value .undefined)
      let _ ← runStatements { s with completion? := some completion } program.parts
      cellValue completion

/-- The function that evaluates texts, if it has not been replaced. -/
def isEval (v : Value) : Act Bool := do
  match v with
  | .object r => read fun w =>
    match (w.object r).kind with
    | .function (.library _) _ => functionName (w.object r) = "eval"
    | _ => false
  | _ => pure false

/-! ### Calls -/

/-- Call the constructor that a class extends, and give the new object its members. -/
def callSuper (arguments : List Value) (s : Scope) : Act Value := do
  match s.find? "function", s.find? "new.target", s.find? "this" with
  | some f, some t, some this =>
    match ← cellValue f.cell, ← cellValue t.cell with
    | .object f, .object target =>
      match ← protoOf f with
      | some parent =>
        if !(← object parent).isConstructor then throwType "not a constructor"
        let v ← construct parent arguments target
        match ← getCell this.cell with
        | .empty =>
          setCell this.cell (.value v)
          initializeMembers v (← membersOf f)
          pure v
        | _ => throwFault .referenceError "'this' can be initialized only once"
      | none => throwType "not a constructor"
    | _, _ => throwFault .syntaxError "super() is only valid in a derived class constructor"
  | _, _, _ => throwFault .syntaxError "super() is only valid in a derived class constructor"

/-- Call a value. -/
def callValue (f this : Value) (arguments : List Value) : Act Value := do
  if ← isCallable f then call f this arguments else throwType "not a function"

/-- Have a value make an object. -/
def newValue (f : Value) (arguments : List Value) : Act Value := do
  match f with
  | .object r =>
    if (← object r).isConstructor then construct r arguments r else throwType "not a constructor"
  | _ => throwType "not a function"

/-- Call a value that a node names; a text may be evaluated in the scope of the call. -/
def callNamed (isEvalName : Bool) (f this : Value) (arguments : List Value) (s : Scope) :
    Act Value := do
  if isEvalName && (← isEval f) then
    match arguments with
    | .string text :: _ => evalText inputFile text s
    | v :: _ => pure v
    | [] => pure .undefined
  else callValue f this arguments

/-! ### References -/

/-- A value together with what it was found in; nothing if an optional part met nothing. -/
def reference : Node → Scope → Act (Option (Value × Value))
  | .mk form span (base :: rest), s =>
    let optionally (optional : Bool) (v : Value) (x : Act (Value × Value)) :
        Act (Option (Value × Value)) := do
      if optional && v.isNothing then pure none else pure (some (← x))
    match form with
    | .paren => do pure (some ((← reference base s).getD (.undefined, .undefined)))
    | .chain => do pure (some ((← reference base s).getD (.undefined, .undefined)))
    | .member name _ optional =>
      if base.form = .super then do
        pure (some (← getSuper (.text name) s, ← readName s "this"))
      else do
        match ← reference base s with
        | none => pure none
        | some (v, _) =>
          optionally optional v do pure (← get v (.text name), v)
    | .privateMember name _ optional => do
      match ← reference base s with
      | none => pure none
      | some (v, _) =>
        optionally optional v do pure (← getPrivate v name s, v)
    | .index optional =>
      if base.form = .super then do
        let k ← toKey (← evaluate (rest.headD .absent) s)
        pure (some (← getSuper k s, ← readName s "this"))
      else do
        match ← reference base s with
        | none => pure none
        | some (v, _) =>
          optionally optional v do
            let k ← evaluate (rest.headD .absent) s
            pure (← getIndexed v k, v)
    | .call optional =>
      if base.form = .super then do
        passPlace (placeOfCall? base)
        let arguments ← evaluateList rest s
        pure (some (← callSuper arguments s, .undefined))
      else do
        match ← reference base s with
        | none => pure none
        | some (f, this) =>
          optionally optional f do
            passPlace (placeOfCall? base)
            let arguments ← evaluateList rest s
            pure (← callNamed (base.form = .name "eval") f this arguments s, .undefined)
    | _ => do pure (some (← evaluate (.mk form span (base :: rest)) s, .undefined))
  | n, s => do pure (some (← evaluate n s, .undefined))

/-! ### Assignments -/

/-- Something that can be assigned to, its parts evaluated. -/
inductive Target where
  | name (name : String)
  | property (base : Value) (k : Key)
  | hiddenMember (base : Value) (name : String)
  | ofSuper (k : Key)

/-- Evaluate the parts of a target. -/
def targetOf (n : Node) (s : Scope) : Act Target := do
  let n := withoutBrackets n
  match n.form with
  | .name name => pure (.name name)
  | .member name _ _ =>
    if (n.part 0).form = .super then pure (.ofSuper (.text name))
    else pure (.property (← evaluate (n.part 0) s) (.text name))
  | .privateMember name _ _ => pure (.hiddenMember (← evaluate (n.part 0) s) name)
  | .index _ =>
    if (n.part 0).form = .super then pure (.ofSuper (← toKey (← evaluate (n.part 1) s)))
    else
      let v ← evaluate (n.part 0) s
      let k ← evaluate (n.part 1) s
      if v.isNothing then pure (.property v ((← outcome (toKey k)).toOption.getD default))
      else pure (.property v (← toKey k))
  | _ => throwFault .syntaxError "invalid assignment left-hand side"

/-- The value of a target. -/
def Target.read (t : Target) (s : Scope) : Act Value :=
  match t with
  | .name n => readName s n
  | .property base k => get base k
  | .hiddenMember base n => getPrivate base n s
  | .ofSuper k => getSuper k s

/-- Assign to a target. -/
def Target.write (t : Target) (v : Value) (s : Scope) (span : Span) : Act Unit := do
  match t with
  | .name n => writeName s n v span
  | .property base k => set base k v s.strict
  | .hiddenMember base n => setPrivate base n v s
  | .ofSuper k =>
    match ← readName s "this", ← superBase s with
    | .object this, .object r =>
      match ← setFrom r k v (.object this) with
      | none => pure ()
      | some refusal => refuse k refusal
    | this, _ => set this k v s.strict

/-- Assign to the target that a node writes. -/
def assignTo (n : Node) (v : Value) (s : Scope) : Act Unit := do 
  (← targetOf n s).write v s n.span

/-- The value of an assignment. -/
def assignment (n : Node) (op : String) (s : Scope) : Act Value := do
  let left := withoutBrackets (n.part 0)
  let right := n.part 1
  let valueFor (left : Node) : Act Value :=
    match left.form with
    | .name name => evaluateNamed right name s
    | _ => evaluate right s
  match op, left.form with
  | "=", .arrayPattern | "=", .objectPattern =>
    let start ← currentPlace
    let v ← evaluate right s
    beforeStretch right start (assignPattern left v .assign s)
    pure v
  | "=", .name name =>
    let v ← evaluateNamed right name s
    writeName s name v n.span
    pure v
  | "=", _ =>
    let t ← targetOf left s
    let v ← evaluate right s
    t.write v s n.span
    pure v
  | _, _ =>
    let t ← targetOf left s
    let old ← t.read s
    let replace : Act Value := do
      let v ← valueFor left
      t.write v s n.span
      pure v
    let keep : Act Value := do
      passStretch right
      pure old
    match op with
    | "&&=" => if old.truth then replace else keep
    | "||=" => if old.truth then keep else replace
    | "??=" => if old.isNothing then replace else keep
    | _ =>
      let v ← evaluate right s
      let v ← binaryOperation ((op.dropEnd 1).toString) old v
      t.write v s n.span
      pure v

/-- The value of an update: the number before or after it. -/
def updateValue (n : Node) (op : String) (before : Bool) (s : Scope) : Act Value := do
  let t ← targetOf (n.part 0) s
  let (old, new) ← match ← toNumeric (← t.read s) with
    | .number x =>
      pure (Value.number x, Value.number (if op = "++" then x + 1 else x - 1))
    | .bigint i => pure (Value.bigint i, Value.bigint (if op = "++" then i + 1 else i - 1))
  t.write new s n.span
  pure (if before then new else old)

/-- Whether a member is gone. -/
def deleteValue (n : Node) (s : Scope) : Act Value := do
  let removed (v : Value) (k : Key) : Act Value := do
    let done ← deleteFrom (← toObject v) k
    if !done && s.strict then throwType "could not delete property"
    pure (.bool done)
  match n with
  | .mk (.member name _ _) _ [base] => removed (← evaluate base s) (.text name)
  | .mk (.index _) _ [base, k] =>
    let v ← evaluate base s
    removed v (← toKey (← evaluate k s))
  | .mk .chain _ [.mk (.member name _ optional) _ [base]] =>
    match ← reference base s with
    | none => pure (.bool true)
    | some (v, _) =>
      if optional && v.isNothing then pure (.bool true) else removed v (.text name)
  | .mk .chain _ [.mk (.index optional) _ [base, k]] =>
    match ← reference base s with
    | none => pure (.bool true)
    | some (v, _) =>
      if optional && v.isNothing then pure (.bool true)
      else removed v (← toKey (← evaluate k s))
  | .mk (.name _) _ _ => pure (.bool false)
  | n =>
    let _ ← evaluate n s
    pure (.bool true)

/-! ### Literals -/

/-- A regular expression. -/
def makeRegexp (source flags : String) (proto : Ref) : Act Value := do
  let has (c : Char) : Bool := flags.toList.contains c
  if flags.toList.any (fun c => !"dgimsuvy".toList.contains c) ||
      flags.toList.eraseDups.length ≠ flags.length || (has 'u' && has 'v') then
    throwFault .syntaxError "invalid regular expression flags"
  match Regex.parse source ⟨has 'i', has 'm', has 's', has 'u' || has 'v'⟩ (has 'v') with
  | .error fault => throwFault .syntaxError fault.message
  | .ok program =>
    let r ← allocate
      { Object.make (some proto) (.regexp source flags program) with
        properties := #[(.text "lastIndex", ⟨.value (.number 0) true, false, false⟩)] }
    pure (.object r)

/-- The array of a list of items, some of which may be missing. -/
def evaluateArray (ns : List Node) (s : Scope) : Act Value := do
  let items ← ns.foldlM (fun (items : Array (Option Value)) n => do
    match n.form with
    | .absent => pure (items.push none)
    | .spread =>
      let more ← iterableItems (← evaluate (n.part 0) s)
      pure (more.foldl (fun items v => items.push (some v)) items)
    | _ => pure (items.push (some (← evaluate n s)))) #[]
  let r ← allocate (.make (some Wellknown.arrayPrototype.ref) (.array items items.size true true))
  pure (.object r)

/-- Copy the enumerable own properties of a value into an object, some left out. -/
def copyProperties (target : Ref) (v : Value) (without : List Key) : Act Unit := do
  match v with
  | .undefined | .null => pure ()
  | _ =>
    let source ← toObject v
    for k in ← keysOf source do
      if !without.contains k then
        match ← propertyOf source k with
        | some p =>
          if p.enumerable then
            let x ← getFrom source k (.object source)
            modifyObject target fun o => o.put k (.plain x)
        | none => pure ()

/-- Put one member of an object that is written out into the object. -/
def addWritten (r : Ref) (s : Scope) (n : Node) : Act Unit := do
  match n.form with
  | .shorthand =>
    let name := (n.part 0).nameText
    let v ← readName s name
    modifyObject r fun o => o.put (.text name) (.plain v)
  | .property computed =>
    let isProto := !computed && (match (n.part 0).form with
      | .name t => t = "__proto__"
      | .string t _ => t = "__proto__"
      | _ => false)
    if isProto then
      match ← evaluate (n.part 1) s with
      | .object p => modifyObject r fun o => { o with proto := some p }
      | .null => modifyObject r fun o => { o with proto := none }
      | _ => pure ()
    else
      let k ← keyOf (n.part 0) computed s
      let v ← if isAnonymous (withoutBrackets (n.part 1)) then
          evaluateNamed (n.part 1) (← nameOfKey k) s
        else evaluate (n.part 1) s
      modifyObject r fun o => o.put k (.plain v)
  | .method kind mode _ computed =>
    let k ← keyOf (n.part 0) computed s
    addMethod r k kind (← makeMethod n mode kind k r s) true
  | .spread => copyProperties r (← evaluate (n.part 0) s) []
  | _ => pure ()

/-- The text of a template. -/
def templateText : List (Option String) → List Node → String → Scope → Act String
  | [], _, acc, _ => pure acc
  | t :: ts, ns, acc, s => do
    let acc := Script.append acc (t.getD "")
    match ns with
    | [] => templateText ts [] acc s
    | n :: ns =>
      let part ← toText (← evaluate n s)
      templateText ts ns (Script.append acc part) s

/-- A new object of a template's texts. -/
def newTemplate (cooked : List (Option String)) (raw : List String) : Act Ref := do
  let frozen (items : List Value) : Act Ref :=
    allocate
      { Object.make (some Wellknown.arrayPrototype.ref)
          (.array (items.map some).toArray items.length false false) with
        extensible := false }
  let r ← frozen (raw.map .string)
  let t ← frozen (cooked.map fun c => c.elim .undefined .string)
  modifyObject t fun o => o.putNamed (.text "raw") (.constant (.object r))
  pure t

/-- The object of a template's texts that a tag is called with, the same each time. -/
def templateObject (cooked : List (Option String)) (raw : List String) (site : Nat × Nat) :
    Act Value := do
  match (← read World.templates).lookup site with
  | some r => pure (.object r)
  | none =>
    let r ← newTemplate cooked raw
    change fun w => { w with templates := (site, r) :: w.templates }
    pure (.object r)

/-! ### Expressions -/

/-- The value of a name that may mean nothing. -/
def nameValue (name : String) (s : Scope) : Act Value := do
  match s.find? name with
  | some b =>
    match ← getCell b.cell with
    | .value v => pure v
    | _ => readCell b.cell name
  | none =>
    match ← readName? s name with
    | some v => pure v
    | none => throwUndefinedName name

/-- The value of an expression. -/
def evaluateExpression (n : Node) (s : Scope) : Act Value := do
  let instead (v : Value) : Act Value := do
    passStretch (n.part 1)
    pure v
  match n.form with
  | .name name => nameValue name s
  | .this =>
    match s.find? "this" with
    | some b => readCell b.cell "this"
    | none => pure (if s.strict then .undefined else .object Wellknown.global.ref)
  | .null => pure .null
  | .bool b => pure (.bool b)
  | .number x _ => pure (.number x)
  | .bigint i _ => pure (.bigint i)
  | .string t _ => pure (.string t)
  | .regex pattern flags => makeRegexp pattern flags Wellknown.regexpPrototype.ref
  | .template cooked _ => pure (.string (← templateText cooked n.parts "" s))
  | .newTarget =>
    match s.find? "new.target" with
    | some b => cellValue b.cell
    | none => pure .undefined
  | .array => evaluateArray n.parts s
  | .object =>
    let r ← newPlain
    for m in n.parts do
      addWritten r s m
    pure (.object r)
  | .function mode => makeFunctionExpression n mode s ""
  | .arrow isAsync => makeArrow n isAsync s ""
  | .class => pure (.object (← makeClass n (n.part 0).nameText s))
  | .tagged =>
    match ← reference (n.part 0) s with
    | none => pure .undefined
    | some (f, this) =>
      let template := n.part 1
      match template.form with
      | .template cooked raw =>
        let texts ← templateObject cooked raw (s.source, template.span.lo)
        let values ← evaluateList template.parts s
        callValue f this (texts :: values)
      | _ => pure .undefined
  | .unary "typeof" =>
    match (withoutBrackets (n.part 0)).form with
    | .name name =>
      match ← readName? s name with
      | some v => unaryOperation "typeof" v
      | none => pure (.string "undefined")
    | _ => unaryOperation "typeof" (← evaluate (n.part 0) s)
  | .unary "delete" => deleteValue (withoutBrackets (n.part 0)) s
  | .unary op => do unaryOperation op (← evaluate (n.part 0) s)
  | .update op before => updateValue n op before s
  | .binary "&&" =>
    let v ← evaluate (n.part 0) s
    if v.truth then evaluate (n.part 1) s else instead v
  | .binary "||" =>
    let v ← evaluate (n.part 0) s
    if v.truth then instead v else evaluate (n.part 1) s
  | .binary "??" =>
    let v ← evaluate (n.part 0) s
    if v.isNothing then evaluate (n.part 1) s else instead v
  | .binary op =>
    match (n.part 0).form with
    | .privateName name =>
      let id ← privateId name s
      match ← evaluate (n.part 1) s with
      | .object r => pure (.bool ((← object r).named? (.hidden id)).isSome)
      | _ => throwType "invalid 'in' operand"
    | _ =>
      let a ← evaluate (n.part 0) s
      let b ← evaluate (n.part 1) s
      binaryOperation op a b
  | .assign op => assignment n op s
  | .conditional =>
    if (← evaluate (n.part 0) s).truth then
      let v ← evaluate (n.part 1) s
      passStretch (n.part 2)
      pure v
    else
      passStretch (n.part 1)
      evaluate (n.part 2) s
  | .call _ | .member _ _ _ | .privateMember _ _ _ | .index _ | .chain | .paren =>
    pure ((← reference n s).elim .undefined Prod.fst)
  | .new hasArguments =>
    let f ← evaluate (n.part 0) s
    if hasArguments then passPlace (placeOfCall? (n.part 0))
    let arguments ← evaluateList (n.parts.drop 1) s
    newValue f arguments
  | .sequence => n.parts.foldlM (fun _ m => evaluate m s) .undefined
  | .yield true => delegate s.mode.isAsync (← evaluate (n.part 0) s)
  | .yield false =>
    let v ← if (n.part 0).isAbsent then pure .undefined else evaluate (n.part 0) s
    yieldValue s.mode.isAsync v
  | .await =>
    let v ← evaluate (n.part 0) s
    awaitValue v
  | .importCall =>
    let v ← evaluate (n.part 0) s
    let p ← newPromise
    enqueue (.load p v)
    pure (.object p)
  | .defaulted => evaluateNamed (n.part 1) (n.part 0).nameText s
  | .pure => evaluate (n.part 0) s
  | _ => throwFault .syntaxError "unexpected token in expression"

/-! ### Patterns -/

/-- A value, or that of an expression if it is undefined. -/
def orDefault (v : Value) (n name : Node) (s : Scope) : Act Value := do
  if v.isUndefined then
    match name.form with
    | .name t => evaluateNamed n t s
    | _ => evaluate n s
  else
    passStretch n
    pure v

/-- The member of an object that a part of a pattern assigns to, if it is one. What it is a member of is
evaluated before the value is known. -/
def memberTarget? (p : Node) (intent : Intent) (s : Scope) : Act (Option Target) := do
  let n := withoutBrackets (if p.form = .defaulted then p.part 0 else p)
  match intent, n.form with
  | .assign, .member _ _ _ | .assign, .privateMember _ _ _ | .assign, .index _ =>
    pure (some (← targetOf n s))
  | _, _ => pure none

/-- Give a value to one part of a pattern, which may have a default. -/
def assignPart (p : Node) (target? : Option Target) (v : Value) (intent : Intent) (s : Scope) :
    Act Unit := do
  let isDefaulted := p.form = .defaulted
  let n := if isDefaulted then p.part 0 else p
  let v ← if isDefaulted then orDefault v (p.part 1) n s else pure v
  match target? with
  | some t => t.write v s n.span
  | none => assignPattern n v intent s

/-- Give the items of an iterator to the parts of a pattern: whether the iterator has ended. -/
def assignItems (i : Iterator) (intent : Intent) (s : Scope) : List Node → Bool → Act Bool
  | [], ended => pure ended
  | p :: ps, ended => do
    let next (ended : Bool) : Act (Option Value) :=
      if ended then pure none else i.step
    match p.form with
    | .rest =>
      let target? ← i.guard ended (memberTarget? (p.part 0) intent s)
      let items ← loop [] fun items => do
        match ← next ended with
        | none => pure (.ok items.reverse)
        | some v => pure (.error (v :: items))
      assignPart (p.part 0) target? (← newArray items) intent s
      pure true
    | _ =>
      let target? ← i.guard ended (memberTarget? p intent s)
      let v? ← next ended
      let ended := v?.isNone
      if !p.isAbsent then
        i.guard ended (assignPart p target? (v?.getD .undefined) intent s)
      assignItems i intent s ps ended

/-- Give the parts of a value to the parts of a pattern. -/
def runPattern (n : Node) (v : Value) (intent : Intent) (s : Scope) : Act Unit := do
  match n.form with
  | .name name =>
    match intent with
    | .declare => declareName s name v
    | .assign => writeName s name v n.span
  | .defaulted => assignPart n none v intent s
  | .arrayPattern =>
    let i ← iteratorOf v
    let ended ← assignItems i intent s n.parts false
    if !ended then i.close
  | .objectPattern =>
    if v.isNothing then
      let k? : Option String ← match n.parts.head? with
        | some p =>
          match p.form, (p.part 0).form with
          | .shorthandPattern, .name t => pure (some t)
          | .patternProperty false, .name t => pure (some t)
          | _, _ => pure none
        | none => pure none
      match k? with
      | some k => throwType ("cannot read property '" ++ k ++ "' of " ++ nothingText v)
      | none => throwType "Cannot convert undefined or null to object"
    let _ ← n.parts.foldlM (fun (seen : List Key) p => do
      match p.form with
      | .shorthandPattern =>
        let name := (p.part 0).nameText
        let x ← get v (.text name)
        let x ← if (p.part 1).isAbsent then pure x else orDefault x (p.part 1) (p.part 0) s
        assignPattern (p.part 0) x intent s
        pure (.text name :: seen)
      | .patternProperty computed =>
        let k ← keyOf (p.part 0) computed s
        let target? ← memberTarget? (p.part 1) intent s
        assignPart (p.part 1) target? (← get v k) intent s
        pure (k :: seen)
      | .rest =>
        let target? ← memberTarget? (p.part 0) intent s
        let r ← newPlain
        copyProperties r v seen
        assignPart (p.part 0) target? (.object r) intent s
        pure seen
      | _ => pure seen) []
    pure ()
  | _ => assignTo n v s

end Engine

end NotebookEngine
