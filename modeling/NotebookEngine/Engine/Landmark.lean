/-
**Landmarks in a program.**

An error tells of each call in progress the last landmark that stands before what the call was doing, in
the order in which a function is laid out: where an expression statement begins, or where something is
called. A branch that was not taken is laid out all the same, and the parts of a loop are passed again
and again. What follows an assignment that always fails is never run, and its landmarks count for the
assignment.

Main definitions:

* `Engine.Landmark` — what stands in the layout of a function;
* `Engine.landmarks` — the layout of a stretch of a program;
* `Engine.lastPlace?` — the last place in a stretch that errors can tell;
* `Engine.placeOfWrite?` — the place of an assignment that always fails.
-/

import NotebookEngine.Script.Syntax

set_option autoImplicit false

namespace NotebookEngine

namespace Engine

open Script (Node Form Span)

/-- What stands in the layout of a function. -/
inductive Landmark where
  /-- A place that errors can tell. -/
  | place (n : Nat)
  /-- An assignment to a variable, by what is written. -/
  | write (span : Span)
  /-- The start of a stretch that may be passed over. -/
  | enter
  /-- The end of a stretch that may be passed over. -/
  | leave
  /-- A point that is returned to. -/
  | again
  deriving DecidableEq

/-- The place of an expression statement, unless it was made up. -/
def placeOfStatement? (span : Span) : Option Nat := if span.lo = 0 then none else some (span.lo - 1)

/-- The place of a call: the end of what is called. -/
def placeOfCall? (callee : Node) : Option Nat :=
  if callee.span.hi ≤ 1 then none else some (callee.span.hi - 2)

namespace Landmark

/-- The landmark of a place, if there is one. -/
def ofPlace? (place? : Option Nat) : List Landmark := (place?.map Landmark.place).toList

/-- A stretch that may be passed over. -/
def passable (ls : List Landmark) : List Landmark := .enter :: ls ++ [.leave]

/-- The assignment to a part of a pattern, if the part is a variable. -/
def ofPart (p : Node) : List Landmark :=
  match p.form with
  | .name _ => [.write p.span]
  | _ => []

end Landmark

open Landmark (ofPlace? passable ofPart)

mutual

/-- The layout of a stretch of a program; the functions in it are laid out on their own. -/
def landmarks : Node → List Landmark
  | .mk form span parts =>
    match form, parts with
    | .function _, _ | .functionDecl _, _ | .arrow _, _ | .staticBlock, _ => []
    | .method _ _ _ computed, key :: _ | .field _ computed, key :: _ =>
      if computed then landmarks key else []
    | .expression, ps => ofPlace? (placeOfStatement? span) ++ landmarksIn ps
    | .call _, callee :: arguments | .new true, callee :: arguments =>
      landmarks callee ++ ofPlace? (placeOfCall? callee) ++ landmarksIn arguments
    | .chain, ps => passable (landmarksIn ps)
    | .conditional, [c, a, b] | .ifThen, [c, a, b] =>
      landmarks c ++ passable (landmarks a) ++ passable (landmarks b)
    | .binary op, [a, b] =>
      landmarks a ++
        (if op = "&&" || op = "||" || op = "??" then passable (landmarks b) else landmarks b)
    | .assign _, ps | .update _ _, ps => landmarksIn ps ++ [.write span]
    | .defaulted, [p, d] => passable (landmarks d) ++ landmarks p ++ ofPart p
    | .shorthandPattern, [p, d] => passable (landmarks d) ++ ofPart p
    | .patternProperty computed, [key, p] =>
      (if computed then landmarks key else []) ++ landmarks p ++ ofPart p
    | .arrayPattern, ps => partLandmarks ps
    | .rest, ps => partLandmarks ps
    | .whileLoop, [c, b] => .again :: landmarks c ++ passable (landmarks b)
    | .doWhile, ps => .again :: landmarksIn ps
    | .forLoop, [start, condition, step, body] =>
      landmarks start ++ .again :: landmarks condition ++ passable (landmarks body ++ landmarks step)
    | .forIn, [target, source, body] | .forOf _, [target, source, body] =>
      .again :: landmarks target ++ ofPart target ++ .again :: landmarks source ++
        .again :: landmarks body ++ [.again]
    | .try, [body, handler, final] =>
      passable (landmarks body) ++ passable (landmarks handler) ++ landmarks final
    | .case, value :: ns => landmarks value ++ passable (landmarksIn ns)
    | _, ps => landmarksIn ps

/-- The layouts of stretches that follow one another. -/
def landmarksIn : List Node → List Landmark
  | [] => []
  | n :: ns => landmarks n ++ landmarksIn ns

/-- The layouts of the parts of a pattern. -/
def partLandmarks : List Node → List Landmark
  | [] => []
  | p :: ps => landmarks p ++ ofPart p ++ partLandmarks ps

end

/-- The last place in a stretch that errors can tell. -/
def lastPlace? (n : Node) : Option Nat :=
  (landmarks n).foldl (fun found l =>
    match l with
    | .place p => some p
    | _ => found) none

/-- The last place among landmarks that can only be reached from the one before them. They end where a
stretch ends that was entered before, at a depth of zero, and where something is returned to. -/
def lastDead? : List Landmark → Nat → Option Nat → Option Nat
  | [], _, found => found
  | .again :: _, _, found => found
  | .leave :: _, 0, found => found
  | .leave :: ls, depth + 1, found => lastDead? ls depth found
  | .enter :: ls, depth, found => lastDead? ls (depth + 1) found
  | .place p :: ls, depth, _ => lastDead? ls depth (some p)
  | .write _ :: ls, depth, found => lastDead? ls depth found

/-- The place of an assignment that always fails, if what follows it has one. -/
def placeOfWrite? (body : List Node) (span : Span) : Option Nat :=
  lastDead? (((landmarksIn body).dropWhile fun l => l ≠ .write span).drop 1) 0 none

end Engine

end NotebookEngine
