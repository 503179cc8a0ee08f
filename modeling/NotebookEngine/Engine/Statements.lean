/-
**Statements.**

Main definitions:

* `Engine.runLoop` — loops, with the labels they have;
* `Engine.runStatement` — one statement.
-/

import NotebookEngine.Engine.Expressions

set_option autoImplicit false

namespace NotebookEngine

namespace Engine

open Act
open Script (Node Form FunctionMode)

/-! ### Loops -/

/-- What the body of a loop ended with, as the loop takes it. -/
inductive Turn where
  | again
  | over (flow : Flow)

/-- How a loop goes on after its body. -/
def turnOf (labels : List String) (flow : Flow) : Turn :=
  match flow with
  | .normal _ => .again
  | .continue none => .again
  | .continue (some l) => if labels.contains l then .again else .over flow
  | .break none => .over (.normal .undefined)
  | .break (some l) => if labels.contains l then .over (.normal .undefined) else .over flow
  | .return _ => .over flow

/-- A loop with a condition before its body. -/
def whileLoop (labels : List String) (condition body : Node) (s : Scope) : Act Flow := do
  let start ← currentPlace
  loop () fun _ => do
    putPlace start
    if !(← evaluate condition s).truth then pure (.ok (.normal .undefined))
    else
      match turnOf labels (← request (.statement body s)) with
      | .again => pure (.error ())
      | .over flow => pure (.ok flow)

/-- A loop with a condition after its body. -/
def doLoop (labels : List String) (body condition : Node) (s : Scope) : Act Flow := do
  let start ← currentPlace
  loop () fun _ => do
    putPlace start
    match turnOf labels (← request (.statement body s)) with
    | .again =>
      if (← evaluate condition s).truth then pure (.error ())
      else pure (.ok (.normal .undefined))
    | .over flow => pure (.ok flow)

/-- A loop with a start, a condition and a step. -/
def stepLoop (labels : List String) (start condition step body : Node) (outer : Scope) :
    Act Flow := do
  let (changing, fixed) := (lexicalNames [start]).partition fun (_, kind) => kind = .variable
  let copied := changing.map Prod.fst
  let outer ← withEmpty outer fixed
  let s ← withEmpty outer changing
  if !start.isAbsent then
    match start.form with
    | .declare _ => let _ ← request (.statement start s)
    | _ => let _ ← evaluate start s
  let renew (s : Scope) : Act Scope :=
    if copied.isEmpty then pure s else copyVariables copied s outer
  let s ← renew s
  let place ← currentPlace
  loop s fun s => do
    putPlace place
    let goes ← if condition.isAbsent then pure true else do pure (← evaluate condition s).truth
    if !goes then pure (.ok (.normal .undefined))
    else
      match turnOf labels (← request (.statement body s)) with
      | .again =>
        let s ← renew s
        if !step.isAbsent then let _ ← evaluate step s
        pure (.error s)
      | .over flow => pure (.ok flow)

/-- Give the target of a loop its value: the scope of the body. -/
def bindTarget (target : Node) (v : Value) (s : Scope) : Act Scope := do
  match target.form with
  | .declare .variable =>
    assignPattern ((target.part 0).part 0) v .assign s
    pure s
  | .declare _ =>
    let s ← withEmpty s (lexicalNames [target])
    assignPattern ((target.part 0).part 0) v .declare s
    pure s
  | _ =>
    assignPattern target v .assign s
    pure s

/-- The scope in which the object of a loop is evaluated: its variables have no values yet. -/
def headScope (target : Node) (s : Scope) : Act Scope := withEmpty s (lexicalNames [target])

/-- The prototypes of an object, each with its own keys that are enumerable. -/
def prototypesOf (r : Ref) : Act (List (Ref × List Key)) :=
  loop (r, []) fun (r, found) => do
    match ← protoOf r with
    | none => pure (.ok found.reverse)
    | some p => pure (.error (p, (p, ← enumerableOwn p) :: found))

/-- The keys that a loop over the keys of an object meets: its own and those of its prototypes. Prototypes
are only gone through for names that they hide if some of their keys are enumerable. -/
def enumeratedKeys (r : Ref) : Act (List (Ref × Key)) := do
  let protos ← prototypesOf r
  let objects := if protos.all fun (_, keys) => keys.isEmpty then [r] else r :: protos.map Prod.fst
  loop (objects, ([] : List (Ref × Key)), ([] : List Key)) fun (objects, found, seen) => do
    match objects with
    | [] => pure (.ok found)
    | r :: rest =>
      let keys := (← keysOf r).filter Key.isText
      let enumerable ← enumerableAmong r keys
      let fresh := enumerable.filter fun k => !seen.contains k
      pure (.error (rest, found ++ fresh.map fun k => (r, k), seen ++ keys))

/-- Whether a key that a loop over keys has yet to meet has been removed. A handler is not asked again. -/
def isGone (r : Ref) (k : Key) : Act Bool := do
  match (← object r).kind with
  | .proxy _ _ _ => pure false
  | _ => do pure (← propertyOf r k).isNone

/-- A loop over the keys of an object. -/
def keyLoop (labels : List String) (target source body : Node) (s : Scope) : Act Flow := do
  let start ← currentPlace
  passStretch target
  let v ← evaluate source (← headScope target s)
  let place ← currentPlace
  if v.isNothing then pure (.normal .undefined)
  else
    let keys ← enumeratedKeys (← toObject v)
    loop keys fun keys => do
      match keys with
      | [] => pure (.ok (.normal .undefined))
      | (r, k) :: keys =>
        if ← isGone r k then pure (.error keys)
        else
          putPlace start
          let inner ← bindTarget target k.value s
          putPlace place
          match turnOf labels (← request (.statement body inner)) with
          | .again => pure (.error keys)
          | .over flow => pure (.ok flow)

/-- A loop over the items of a value. -/
def itemLoop (labels : List String) (target source body : Node) (s : Scope) : Act Flow := do
  let start ← currentPlace
  passStretch target
  let v ← evaluate source (← headScope target s)
  let place ← currentPlace
  let i ← iteratorOf v
  passStretch body
  loop () fun _ => do
    match ← i.step with
    | none => pure (.ok (.normal .undefined))
    | some item =>
      let turn ← outcome do
        putPlace start
        let inner ← bindTarget target item s
        putPlace place
        pure (turnOf labels (← request (.statement body inner)))
      match turn with
      | .ok .again =>
        passStretch body
        pure (.error ())
      | .ok (.over flow) =>
        i.close
        pure (.ok flow)
      | .error e => i.abandon e

/-- A loop over the items of a value, each of which is waited for. -/
def asyncLoop (labels : List String) (target source body : Node) (s : Scope) : Act Flow := do
  let start ← currentPlace
  passStretch target
  let v ← evaluate source (← headScope target s)
  let place ← currentPlace
  let i ← asyncIteratorOf v
  passStretch body
  let close : Act Unit := do
    match ← method? i.object (.text "return") with
    | some f => let _ ← awaitValue (← call f i.object [])
    | none => pure ()
  loop () fun _ => do
    match ← awaitValue (← call i.next i.object []) with
    | .object r =>
      if (← getText r "done").truth then pure (.ok (.normal .undefined))
      else
        let item ← getText r "value"
        let turn ← outcome do
          putPlace start
          let inner ← bindTarget target item s
          putPlace place
          pure (turnOf labels (← request (.statement body inner)))
        match turn with
        | .ok .again =>
          passStretch body
          pure (.error ())
        | .ok (.over flow) =>
          close
          pure (.ok flow)
        | .error e =>
          let _ ← outcome close
          throw e
    | _ => throwType "iterator must return an object"

/-- A loop, with the labels it has. -/
def runLoop (labels : List String) (n : Node) (s : Scope) : Act Flow := do
  let flow ← turns
  passStretch n
  pure flow
where turns : Act Flow := do
  match n.form with
  | .whileLoop | .doWhile | .forLoop | .forIn | .forOf _ => complete s .undefined
  | _ => pure ()
  match n.form with
  | .whileLoop => whileLoop labels (n.part 0) (n.part 1) s
  | .doWhile => doLoop labels (n.part 0) (n.part 1) s
  | .forLoop => stepLoop labels (n.part 0) (n.part 1) (n.part 2) (n.part 3) s
  | .forIn => keyLoop labels (n.part 0) (n.part 1) (n.part 2) s
  | .forOf false => itemLoop labels (n.part 0) (n.part 1) (n.part 2) s
  | .forOf true => asyncLoop labels (n.part 0) (n.part 1) (n.part 2) s
  | _ => request (.statement n s)

/-! ### Other statements -/

/-- Declare variables. -/
def runDeclaration (kind : Script.Declaration) : List Node → Scope → Act Unit
  | [], _ => pure ()
  | d :: ds, s => do
    let p := d.part 0
    let value := d.part 1
    if value.isAbsent then
      match kind, p.form with
      | .variable, _ => pure ()
      | _, .name name => declareName s name .undefined
      | _, _ => pure ()
    else
      let intent : Intent := if kind = .variable then .assign else .declare
      match p.form with
      | .name name => assignPattern p (← evaluateNamed value name s) intent s
      | _ =>
        let start ← currentPlace
        let v ← evaluate value s
        beforeStretch value start (assignPattern p v intent s)
    runDeclaration kind ds s

/-- The place of the first case that a value meets, asked in order. -/
def findCase (v : Value) (s : Scope) : List Node → Nat → Act (Option Nat)
  | [], _ => pure none
  | c :: cs, i => do
    let isMet ← if (c.part 0).isAbsent then pure false
      else do pure (v.strictlyEqual (← evaluate (c.part 0) s))
    if isMet then pure (some i)
    else
      passStretch c
      findCase v s cs (i + 1)

/-- A choice between cases. -/
def runSwitch (n : Node) (s : Scope) : Act Flow := do
  let v ← evaluate (n.part 0) s
  let cases := n.parts.drop 1
  let s ← declareBlock (cases.flatMap fun c => c.parts.drop 1) s
  let start? := (← findCase v s cases 0).or (cases.findIdx? fun c => (c.part 0).isAbsent)
  match start? with
  | none => pure (.normal .undefined)
  | some i =>
    match ← runStatements s ((cases.drop i).flatMap fun c => c.parts.drop 1) with
    | .break none => pure (.normal .undefined)
    | flow => pure flow

/-- Run the clause that catches a thrown value. -/
def runCatch (body n : Node) (e : Value) (s : Scope) : Act Flow := do
  let p := n.part 0
  passStretch body
  let s ← if p.isAbsent then pure s
    else do
      let s ← withEmpty s ((patternNames p).map fun name => (name, .variable))
      assignPattern p e .declare s
      pure s
  request (.statement (n.part 1) s)

/-- A block that may throw. -/
def runTry (n : Node) (s : Scope) : Act Flow := do
  let body ← outcome (request (.statement (n.part 0) s))
  let caught ← match body with
    | .error e =>
      if (n.part 1).isAbsent || (← returning? e).isSome then pure body
      else outcome (runCatch (n.part 0) (n.part 1) e s)
    | .ok _ =>
      passStretch (n.part 1)
      pure body
  if (n.part 2).isAbsent then ofOutcome caught
  else
    let kept ← s.completion?.elim (pure .undefined) cellValue
    complete s .undefined
    match ← request (.statement (n.part 2) s) with
    | .normal _ =>
      complete s kept
      ofOutcome caught
    | flow => pure flow

/-- A statement with labels. -/
def runLabelled (labels : List String) : Node → Scope → Act Flow
  | .mk (.labelled l _) _ [n], s => runLabelled (l :: labels) n s
  | n, s => do
    match ← runLoop labels n s with
    | .break (some l) => pure (if labels.contains l then .normal .undefined else .break (some l))
    | flow => pure flow

/-- One statement. -/
def runStatement (n : Node) (s : Scope) : Act Flow := do
  pause
  match n.form with
  | .expression => do
    passPlace (placeOfStatement? n.span)
    complete s (← evaluate (n.part 0) s)
    pure (.normal .undefined)
  | .declare kind =>
    runDeclaration kind n.parts s
    pure (.normal .undefined)
  | .block => runStatements (← declareBlock n.parts s) n.parts
  | .ifThen =>
    complete s .undefined
    if (← evaluate (n.part 0) s).truth then
      let flow ← request (.statement (n.part 1) s)
      passStretch (n.part 2)
      pure flow
    else
      passStretch (n.part 1)
      if (n.part 2).isAbsent then pure (.normal .undefined)
      else request (.statement (n.part 2) s)
  | .whileLoop | .doWhile | .forLoop | .forIn | .forOf _ => runLoop [] n s
  | .return =>
    if (n.part 0).isAbsent then pure (.return .undefined)
    else
      let v ← evaluate (n.part 0) s
      pure (.return (← if s.mode = ⟨true, true⟩ then awaitValue v else pure v))
  | .break label => pure (.break label)
  | .continue label => pure (.continue label)
  | .throw =>
    let v ← evaluate (n.part 0) s
    throw v
  | .try =>
    complete s .undefined
    runTry n s
  | .switch =>
    complete s .undefined
    let flow ← runSwitch n s
    passStretch n
    pure flow
  | .labelled _ _ => runLabelled [] n s
  | .classDecl =>
    let name := (n.part 0).nameText
    declareName s name (.object (← makeClass n name s))
    pure (.normal .undefined)
  | .functionDecl _ | .empty | .debugger | .absent => pure (.normal .undefined)
  | .program _ => runStatements (← declareBlock n.parts s) n.parts
  | _ => throwFault .syntaxError "unexpected token in expression"

end Engine

end NotebookEngine
