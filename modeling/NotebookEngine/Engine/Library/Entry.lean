/-
**Entries of the library.**

A function of the library is given the call that it answers.  The library lists its functions with the
names under which programs find them.

Main definitions:

* `Engine.Call` — what a function of the library is told;
* `Engine.Entry`, `Engine.Family`, `Engine.Space` — functions, and the objects that hold them.
-/

import NotebookEngine.Engine.Statements

set_option autoImplicit false

namespace NotebookEngine

namespace Engine

open Act

/-- What a function of the library is told. -/
structure Call where
  this : Value
  arguments : List Value
  /-- The constructor that is to give the new object its prototype, if one is asked for. -/
  target? : Option Ref
  /-- The function itself. -/
  self : Ref
  deriving Inhabited

/-- An argument by its place, undefined if it was left out. -/
def Call.argument (c : Call) (i : Nat) : Value := c.arguments[i]?.getD .undefined

/-- A function of the library. -/
abbrev Answer := Call → Act Value

/-- How an object holds a function of the library. -/
inductive EntryRole where
  | method
  | getter
  /-- A getter, and a function that sets the property. -/
  | accessor (setter : Answer)

/-- A function of the library with the name under which an object holds it. -/
structure Entry where
  key : Key
  /-- The name that the function has itself. -/
  name : String
  length : Nat
  role : EntryRole
  answer : Answer

namespace Entry

/-- A method. -/
def method (name : String) (length : Nat) (answer : Answer) : Entry :=
  ⟨.text name, name, length, .method, answer⟩

/-- A method that is held under a symbol. -/
def symbolic (s : WellknownSymbol) (length : Nat) (answer : Answer) : Entry :=
  ⟨s.key, "[Symbol." ++ (WellknownSymbol.names[s.ctorIdx]?.getD "") ++ "]", length, .method, answer⟩

/-- A property that is got by a function. -/
def getter (name : String) (answer : Answer) : Entry :=
  ⟨.text name, "get " ++ name, 0, .getter, answer⟩

end Entry

/-- A constructor, with what it holds and what its objects share. -/
structure Family where
  name : String
  length : Nat
  make : Answer
  proto : Wellknown
  /-- The place of the constructor, if it is one that the engine has to find. -/
  place? : Option Wellknown
  /-- The constructor and prototype that this one's inherit from. -/
  parent? : Option Wellknown
  statics : List Entry
  constants : List (String × Value)
  methods : List Entry
  /-- The text that tells objects of the family. -/
  tag? : Option String
  /-- Further keys under which methods are held. -/
  aliases : List (Key × String) := []
  /-- Values that never change and that all objects of the family share. -/
  shared : List (String × Value) := []
  /-- Whether programs find the constructor under its name. -/
  isGlobal : Bool := true

/-- An object of the library that only holds functions. -/
structure Space where
  name : String
  entries : List Entry
  constants : List (String × Value)
  tag? : Option String

/-! ### Arguments -/

/-- The function that an argument must be. -/
def needFunction (v : Value) : Act Unit := do
  if !(← isCallable v) then throwType "not a function"

/-- A constructor's new object, with the prototype that was asked for. -/
def makeOf (c : Call) (proto : Wellknown) (kind : Kind) : Act Ref := do
  let p ← match c.target? with
    | some t => protoFor t proto
    | none => pure proto.ref
  allocate (.make (some p) kind)

/-- The text that a method of texts is called on. -/
def thisText (c : Call) : Act String := do
  match c.this with
  | .string s => pure s
  | v => if v.isNothing then throwType "null or undefined are forbidden" else toText v

end Engine

end NotebookEngine
