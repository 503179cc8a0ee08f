/-
**Targets of assignments.**

What is assigned to is parsed as an expression first and then read again as a pattern.

Main definitions:

* `Script.isSimpleTarget` — whether an expression names one place;
* `Script.toPattern` — an expression read as a pattern.
-/

import NotebookEngine.Script.Parser.State

set_option autoImplicit false

namespace NotebookEngine

namespace Script

/-- Whether an expression names one place that can be assigned to. -/
def isSimpleTarget : Node → Bool
  | .mk (.name w) _ _ => w ≠ "eval" && w ≠ "arguments"
  | .mk (.member _ _ _) _ _ => true
  | .mk (.privateMember _ _ _) _ _ => true
  | .mk (.index _) _ _ => true
  | .mk .paren _ [p] => isSimpleTarget p
  | _ => false

/-- Why an expression is read as a pattern. -/
inductive PatternUse where
  /-- It stands to the left of an assignment. -/
  | target
  /-- It is part of what stands there. -/
  | element
  /-- It is a parameter. -/
  | binding
  deriving DecidableEq

/-- The use of the parts of a pattern. -/
def PatternUse.parts : PatternUse → PatternUse
  | .binding => .binding
  | _ => .element

/-- Whether an expression is kept as it is when it is an element of a target. -/
def isElementForm : Form → Bool
  | .member _ _ _ | .privateMember _ _ _ | .index _ | .call _ | .new _ | .name _ | .function _
  | .paren | .template _ _ | .tagged | .number _ _ | .string _ _ | .bool _ | .null | .regex _ _
  | .bigint _ _ => true
  | .class => true
  | _ => false

/-- Whether the node is a list or an object that is taken apart. -/
def isTakenApart (n : Node) : Bool := n.form = .array || n.form = .object

/-- Whether the node was read as a pattern already. -/
def isPatternForm (n : Node) : Bool := n.form = .arrayPattern || n.form = .objectPattern

/-- The nodes without the holes at their end. -/
def dropLastHoles (ns : List Node) : List Node := (ns.reverse.dropWhile Node.isAbsent).reverse

/-- Notes every item that is spread without a name. -/
def noteNamelessRests : List Node → Parser Unit
  | [] => pure ()
  | n :: ns => do
    if n.form = .spread then
      match (n.part 0).form with
      | .name _ => pure ()
      | _ => noteAt n.start .restName
    noteNamelessRests ns

mutual

/-- The expression read as a pattern; `n` bounds the depth. -/
def toPattern (use : PatternUse) : Nat → Node → Parser Node
  | 0, e => pure e
  | n + 1, e => do
    if use = .target && !isTakenApart e then
      if !isSimpleTarget e then noteAt e.start .assignmentLeft
      pure e
    else if use = .element && isElementForm e.form then
      if !isSimpleTarget e then noteAt e.start .notSimpleTarget
      pure e
    else
      match e.form with
      | .name _ => pure e
      | .assign "=" =>
        let left := e.part 0
        let left ← if use = .binding && !isPatternForm left then toPattern use n left else pure left
        pure (.mk .defaulted e.span [left, e.part 1])
      | .array =>
        let comma? := (← get).commas.lookup e.start
        let items ← toPatternItems use.parts n comma? (dropLastHoles e.parts)
        pure (.mk .arrayPattern e.span items)
      | .object =>
        if use = .binding then noteNamelessRests e.parts
        let comma? := (← get).commas.lookup e.start
        let items ← toPatternItems use.parts n comma? e.parts
        pure (.mk .objectPattern e.span items)
      | _ =>
        noteAt e.start .notPattern
        pure e

/-- The items of a list or an object read as patterns; a comma may stand after the last. -/
def toPatternItems (use : PatternUse) : Nat → Option Nat → List Node → Parser (List Node)
  | 0, _, es => pure es
  | _ + 1, _, [] => pure []
  | n + 1, comma?, e :: es => do
    let item ←
      match e.form with
      | .absent => pure e
      | .spread =>
        if !es.isEmpty then noteAt e.start .lastRest
        else
          match comma? with
          | some place => noteAt place .commaAfterRest
          | none => pure ()
        let inner := e.part 0
        if inner.form = .assign "=" then noteAt inner.start .restInitialized
        let p ← toPattern use n inner
        pure (.mk .rest e.span [p])
      | .property computed =>
        let p ← toPattern use n (e.part 1)
        pure (.mk (.patternProperty computed) e.span [e.part 0, p])
      | .shorthand => pure (.mk .shorthandPattern e.span [e.part 0, .absent])
      | .shorthandDefault => pure (.mk .shorthandPattern e.span e.parts)
      | .method _ _ _ _ => failAt e.start .notPattern
      | _ => toPattern use n e
    let items ← toPatternItems use n comma? es
    pure (item :: items)

end

/-- The expression read as a pattern. -/
def asPattern (use : PatternUse) (e : Node) : Parser Node := do
  toPattern use ((← get).limit * 2) e

end Script

end NotebookEngine
