/-
**Values and objects.**

What a running program computes with.  A value that can be changed is an object, which lies at a place of
the heap; a variable that functions share is a cell.

Main definitions:

* `Engine.Value`, `Engine.Key` — values, and the names of properties;
* `Engine.Property` — what an object holds under a name;
* `Engine.Scope` — which cells the names of a stretch of program mean;
* `Engine.Callable` — what happens when a function is called;
* `Engine.Kind`, `Engine.Object` — objects.
-/

import NotebookEngine.Engine.Bytes
import NotebookEngine.Script.Syntax
import NotebookEngine.Script.Arithmetic
import NotebookEngine.Text.Regex
import Std.Data.HashMap.Basic

set_option autoImplicit false

namespace NotebookEngine

namespace Engine

/-! ### Values -/

/-- The place of an object on the heap. -/
abbrev Ref := Nat

/-- A value. -/
inductive Value where
  | undefined
  | null
  | bool (b : Bool)
  | number (x : Float)
  | bigint (i : Int)
  | string (s : String)
  | symbol (id : Nat)
  | object (r : Ref)
  deriving Inhabited

namespace Value

/-- The number that a natural number is. -/
def ofNat (n : Nat) : Value := .number (Float.ofNat n)

/-- Whether the value is undefined or null. -/
def isNothing : Value → Bool
  | undefined => true
  | null => true
  | _ => false

/-- Whether a value is undefined. -/
def isUndefined : Value → Bool
  | undefined => true
  | _ => false

/-- Whether two values are the same, where all NaNs are the same and zeros differ by their sign. -/
def same : Value → Value → Bool
  | undefined, undefined => true
  | null, null => true
  | bool a, bool b => a = b
  | number a, number b => (a.isNaN && b.isNaN) || a.toBits = b.toBits
  | bigint a, bigint b => a = b
  | string a, string b => a = b
  | symbol a, symbol b => a = b
  | object a, object b => a = b
  | _, _ => false

/-- Whether two values are the same, where the two zeros are the same too. -/
def alike : Value → Value → Bool
  | number a, number b => (a.isNaN && b.isNaN) || a == b
  | a, b => same a b

/-- Whether two values are equal without any conversion. -/
def strictlyEqual : Value → Value → Bool
  | number a, number b => a == b
  | a, b => same a b

end Value

/-! ### Names of properties -/

/-- The name of a property. -/
inductive Key where
  /-- A name that writes a natural number below 4294967295. -/
  | index (n : Nat)
  | text (s : String)
  | symbol (id : Nat)
  /-- A name that is private to a class. -/
  | hidden (id : Nat)
  deriving DecidableEq, Inhabited

namespace Key

/-- The natural number that a text writes as numbers are written. -/
def indexOf? (s : String) : Option Nat :=
  match s.toList with
  | ['0'] => some 0
  | '0' :: _ => none
  | cs =>
    if !cs.isEmpty && cs.length ≤ 10 && cs.all Char.isDigit then
      let n := cs.foldl (fun n d => n * 10 + (d.toNat - 48)) 0
      if n < 4294967295 then some n else none
    else none

/-- The key that a text writes. -/
def ofString (s : String) : Key :=
  match indexOf? s with
  | some n => .index n
  | none => .text s

/-- The key that a number writes. -/
def ofNumber (x : Float) : Key :=
  if x ≥ 0 && x < 4294967295 && x.floor == x then .index x.toUInt64.toNat
  else .text (Script.numberText x)

/-- The text of a key that has one. -/
def text? : Key → Option String
  | index n => some (toString n)
  | text s => some s
  | _ => none

/-- Whether the key is a text, or a number as a text. -/
def isText : Key → Bool
  | index _ => true
  | text _ => true
  | _ => false

end Key

/-! ### Properties -/

/-- What a property stands for. -/
inductive Content where
  | value (v : Value) (writable : Bool)
  | accessor (getter? setter? : Option Ref)
  deriving Inhabited

/-- A property of an object. -/
structure Property where
  content : Content
  enumerable : Bool
  configurable : Bool
  deriving Inhabited

namespace Property

/-- A property as an assignment makes it. -/
def plain (v : Value) : Property := ⟨.value v true, true, true⟩

/-- A property as methods of the library are. -/
def method (v : Value) : Property := ⟨.value v true, false, true⟩

/-- A property that can be changed only by defining it again. -/
def fixed (v : Value) : Property := ⟨.value v false, false, true⟩

/-- A property that never changes. -/
def constant (v : Value) : Property := ⟨.value v false, false, false⟩

/-- A property that is got by a function. -/
def getter (f : Ref) : Property := ⟨.accessor (some f) none, false, true⟩

end Property

/-! ### Scopes -/

/-- How a name may be used. -/
inductive BindingKind where
  | variable
  | constant
  /-- The name of a function within itself: a change is passed over or refused. -/
  | ownName
  deriving DecidableEq, Inhabited

/-- What a name means: a cell. For a name that is private to a class it is the number of the name. -/
structure Binding where
  cell : Nat
  kind : BindingKind
  deriving Inhabited

/-- What the names of a stretch of program mean, the innermost first. -/
structure Scope where
  bindings : List (String × Binding)
  strict : Bool
  /-- How the function around the stretch runs. -/
  mode : Script.FunctionMode
  /-- The text that the stretch comes from. -/
  source : Nat
  /-- The cell that keeps the value of the last expression, if that is asked for. -/
  completion? : Option Nat
  deriving Inhabited

namespace Scope

/-- The scope of a text that nothing is around of. -/
def start (strict : Bool) : Scope := ⟨[], strict, .plain, 0, none⟩

/-- What a name means among bindings. -/
def findIn (name : String) : List (String × Binding) → Option Binding
  | [] => none
  | (n, b) :: rest => if n = name then some b else findIn name rest

/-- What a name means. -/
def find? (s : Scope) (name : String) : Option Binding := findIn name s.bindings

/-- The scope with one more name. -/
def bind (s : Scope) (name : String) (cell : Nat) (kind : BindingKind) : Scope :=
  { s with bindings := (name, ⟨cell, kind⟩) :: s.bindings }

end Scope

/-! ### Functions -/

/-- What a function of a program is for. -/
inductive Role where
  | plain
  | arrow
  | method
  /-- The constructor of a class that extends none. -/
  | base
  /-- The constructor of a class that extends another. -/
  | derived
  /-- The value of a field. -/
  | initializer
  deriving DecidableEq, Inhabited

/-- A place in a text. -/
inductive Place where
  | exactly (n : Nat)
  /-- The start of the stretch without blanks that ends at a place. -/
  | unbroken (n : Nat)
  deriving DecidableEq, Inhabited

/-- The text of a function, with what can be told before it runs. -/
structure Code where
  parameters : List Script.Node
  body : Script.Node
  mode : Script.FunctionMode
  role : Role
  strict : Bool
  /-- The variables that belong to the whole body. -/
  hoisted : List String
  /-- Whether the body has its own copies of the parameters. -/
  copies : Bool
  /-- Where the text of the function is. -/
  span : Script.Span
  /-- The place of a call that has not met a landmark yet. -/
  start : Place
  deriving Inhabited

/-- A member that objects of a class get when they are made. -/
inductive Member where
  /-- A field and the function that makes its value. -/
  | field (key : Key) (initial? : Option Ref)
  /-- A method or accessor with a private name. -/
  | fixed (id : Nat) (property : Property)
  deriving Inhabited

/-- A function of a program. -/
structure Closure where
  code : Code
  scope : Scope
  /-- The object whose method the function is. -/
  home : Option Ref
  members : List Member
  deriving Inhabited

/-- The promise that a reaction settles, with the functions that do so. -/
structure Capability where
  promise : Value
  resolve : Value
  reject : Value
  deriving Inhabited

/-- The ways to wait for several promises. -/
inductive Gathering where
  | all
  | allSettled
  | any
  deriving DecidableEq, Inhabited

/-- Functions that the library makes while a program runs. -/
inductive Native where
  /-- Settle a promise, once. -/
  | settle (promise : Ref) (done : Nat) (rejects : Bool)
  /-- Keep the functions that settle a promise. -/
  | executor (resolve reject : Nat)
  /-- One of several promises that are waited for has been settled. -/
  | gathered (how : Gathering) (rejects : Bool) (index : Nat) (values : Ref) (left : Nat)
      (target : Capability) (done : Nat)
  /-- Run a function whatever the outcome, then pass the outcome on. -/
  | finally (action constructor : Value) (rejects : Bool)
  /-- Give a value, or throw it. -/
  | give (v : Value) (throws : Bool)
  /-- Make the result of an iterator. -/
  | iterated (done : Bool)
  /-- A generator that was told to return has its value. -/
  | generatorReturn (generator : Ref) (rejects : Bool)
  /-- An object stands in for another one no more. -/
  | revoke (proxy : Ref)
  /-- A continuation that runs under an operation. -/
  | underOperation (operation : Nat) (handler : Value) (rejects : Bool)
  /-- End the operation of a cell; report the error if there is one. -/
  | cellSettled (operation : Nat) (cell : Value) (rejects : Bool)
  /-- Post the outcome of an awaited value as a task. -/
  | post (operation : Nat) (settle : Value)
  /-- Call a function with arguments. -/
  | later (f : Value) (arguments : List Value)
  /-- Load a module from a directory. -/
  | require (base : String)
  /-- Report an error of the program. -/
  | failure
  deriving Inhabited

/-- What happens when a function is called. -/
inductive Callable where
  | closure (c : Closure)
  /-- A function of the library, by its number. -/
  | library (index : Nat)
  | bound (target : Ref) (this : Value) (arguments : List Value)
  | native (n : Native)
  deriving Inhabited

/-! ### Promises and generators -/

/-- What happens when a promise is settled. -/
inductive Reaction where
  | handlers (target? : Option Capability) (fulfilled rejected : Value)
  /-- A suspended function goes on. -/
  | resume (coroutine : Nat)
  deriving Inhabited

/-- The state of a promise. -/
inductive Standing where
  | pending (reactions : List Reaction)
  | fulfilled (v : Value)
  | rejected (v : Value)
  deriving Inhabited

/-- How a suspended function goes on. -/
inductive Resumption where
  | next (v : Value)
  | throw (v : Value)
  | return (v : Value)
  deriving Inhabited

/-- The state of a generator. -/
inductive Progress where
  | fresh
  | suspended
  | running
  | done
  deriving DecidableEq, Inhabited

/-- A generator. -/
structure Generator where
  coroutine : Nat
  progress : Progress
  isAsync : Bool
  /-- What an asynchronous generator was asked for. -/
  requests : List (Resumption × Capability)
  deriving Inhabited

/-! ### Objects -/

/-- What an iterator gives of each entry. -/
inductive Part where
  | keys
  | values
  | entries
  deriving DecidableEq, Inhabited

/-- What an iterator goes over. -/
inductive Walk where
  | items (source : Ref) (next : Nat) (part : Part)
  | entries (source : Ref) (next : Nat) (part : Part)
  | letters (rest : List Char)
  | found (regexp : Value) (text : String) (global unicode : Bool)
  /-- An iterator that is used as if it were asynchronous. -/
  | synchronous (iterator next : Value)
  /-- An iterator made from another. -/
  | mapped (iterator next f : Value) (index : Nat)
  | filtered (iterator next f : Value) (index : Nat)
  /-- The items of the iterators that a function gives; the one it is at, and how that goes on. -/
  | flattened (iterator next f : Value) (index : Nat) (inner : Option (Value × Value))
  | taken (iterator next : Value) (left : Float)
  | dropped (iterator next : Value) (left : Float)
  | over
  deriving Inhabited

/-- What a value is told by among the keys of a collection. -/
inductive Value.Mark where
  | undefined
  | null
  | bool (b : Bool)
  | number (bits : UInt64)
  | bigint (i : Int)
  | string (s : String)
  | symbol (id : Nat)
  | object (r : Ref)
  deriving DecidableEq, Hashable

/-- The mark of a value. Values that are alike have the same: the two zeros are one, and so are all NaNs. -/
def Value.mark : Value → Value.Mark
  | .undefined => .undefined
  | .null => .null
  | .bool b => .bool b
  | .number x => .number (if x == 0 then 0 else if x.isNaN then Script.nan.toBits else x.toBits)
  | .bigint i => .bigint i
  | .string s => .string s
  | .symbol id => .symbol id
  | .object r => .object r

instance : BEq Value := ⟨Value.alike⟩

/-- Entries in the order in which they were put in. -/
structure Collection where
  entries : Array (Option (Value × Value))
  /-- Where the entry of a key is, by its mark. -/
  places : Std.HashMap Value.Mark Nat
  deriving Inhabited

namespace Collection

/-- No entries. -/
def empty : Collection := ⟨#[], ∅⟩

/-- The value of a key. -/
def get? (c : Collection) (k : Value) : Option Value :=
  (c.places.get? k.mark).bind fun i => ((c.entries[i]?).join).map Prod.snd

/-- Whether there is an entry for a key. -/
def contains (c : Collection) (k : Value) : Bool := c.places.contains k.mark

/-- A key as it is kept: the two zeros are one. -/
def normalKey (k : Value) : Value :=
  match k with
  | .number x => if x == 0 then .number 0 else k
  | _ => k

/-- The entries with one replaced or added. -/
def put (c : Collection) (k v : Value) : Collection :=
  let k := normalKey k
  match c.places.get? k.mark with
  | some i => { c with entries := c.entries.setIfInBounds i (some (k, v)) }
  | none => ⟨c.entries.push (some (k, v)), c.places.insert k.mark c.entries.size⟩

/-- The entries without one. Its place stays empty, so that walks over the entries are not disturbed. -/
def erase (c : Collection) (k : Value) : Collection :=
  match c.places.get? k.mark with
  | some i => ⟨c.entries.setIfInBounds i none, c.places.erase k.mark⟩
  | none => c

/-- No entries, the places of the old ones left empty. -/
def cleared (c : Collection) : Collection := ⟨c.entries.map fun _ => none, ∅⟩

/-- The number of entries. -/
def size (c : Collection) : Nat := c.places.size

end Collection

/-- A row of numbers that are bytes of a buffer. -/
structure View where
  buffer : Ref
  /-- The place of the first byte. -/
  offset : Nat
  /-- The number of items, unless it follows the size of the buffer. -/
  length? : Option Nat
  element : Element
  deriving Inhabited

/-- The value that bits stand for. -/
def Element.value (e : Element) (bits : Nat) : Value :=
  if e.isBig then .bigint (e.toInt bits) else .number (e.toFloat bits)

/-- The errors that the engine itself throws. -/
inductive ErrorClass where
  | error
  | typeError
  | rangeError
  | syntaxError
  | referenceError
  | evalError
  | uriError
  | internalError
  | aggregateError
  deriving DecidableEq, Inhabited

/-- The name of an error class. -/
def ErrorClass.name : ErrorClass → String
  | .error => "Error"
  | .typeError => "TypeError"
  | .rangeError => "RangeError"
  | .syntaxError => "SyntaxError"
  | .referenceError => "ReferenceError"
  | .evalError => "EvalError"
  | .uriError => "URIError"
  | .internalError => "InternalError"
  | .aggregateError => "AggregateError"

/-- What an object is. -/
inductive Kind where
  | plain
  /-- The items, the number of items that may be missing at the end included in the length. -/
  | array (items : Array (Option Value)) (length : Nat) (writable configurable : Bool)
  | function (f : Callable) (constructs : Bool)
  | error
  | boxed (v : Value)
  | date (millis : Float)
  | regexp (source flags : String) (program : Regex.Program)
  | map (c : Collection) (weak : Bool)
  | set (c : Collection) (weak : Bool)
  | weakRef (v : Value)
  | buffer (b : Buffer)
  /-- A row of numbers whose items are properties. -/
  | view (v : View)
  /-- Bytes that are read and written by methods. -/
  | window (v : View)
  /-- What a suspended function that was told to return gives; no program sees it. -/
  | returning (v : Value)
  | promise (standing : Standing) (handled : Bool)
  | generator (g : Generator)
  | iterator (w : Walk)
  /-- The target and the handler, none once it has been revoked. -/
  | proxy (ends? : Option (Ref × Ref)) (callable constructs : Bool)
  | arguments
  deriving Inhabited

/-- An object. -/
structure Object where
  proto : Option Ref
  extensible : Bool
  kind : Kind
  properties : Array (Key × Property)
  deriving Inhabited

namespace Object

/-- An object without properties. -/
def make (proto : Option Ref) (kind : Kind) : Object := ⟨proto, true, kind, #[]⟩

/-- The place of a named property. -/
def placeOf? (o : Object) (k : Key) : Option Nat := o.properties.findIdx? fun e => e.1 = k

/-- A property that is kept by its name. -/
def named? (o : Object) (k : Key) : Option Property :=
  (o.placeOf? k).bind fun i => (o.properties[i]?).map Prod.snd

/-- The object with a property that is kept by its name replaced or added. -/
def putNamed (o : Object) (k : Key) (p : Property) : Object :=
  match o.placeOf? k with
  | some i => { o with properties := o.properties.setIfInBounds i (k, p) }
  | none => { o with properties := o.properties.push (k, p) }

/-- The object without a property that is kept by its name. -/
def eraseNamed (o : Object) (k : Key) : Object :=
  match o.placeOf? k with
  | some i => { o with properties := o.properties.eraseIdxIfInBounds i }
  | none => o

/-- Whether the object can be called. -/
def isCallable (o : Object) : Bool :=
  match o.kind with
  | .function _ _ => true
  | .proxy _ callable _ => callable
  | _ => false

/-- Whether the object can make objects. -/
def isConstructor (o : Object) : Bool :=
  match o.kind with
  | .function _ constructs => constructs
  | .proxy _ _ constructs => constructs
  | _ => false

/-- Whether the object is a view, whose items are properties that are not kept in it. -/
def isView (o : Object) : Bool :=
  match o.kind with
  | .view _ => true
  | _ => false

/-- An own property: one that the object's kind gives it, or one that is kept by its name. -/
def own? (o : Object) (k : Key) : Option Property :=
  match o.kind, k with
  | .array items _ writable configurable, .index n =>
    match (items[n]?).join with
    | some v => some ⟨.value v writable, true, configurable⟩
    | none => o.named? k
  | .array _ length writable _, .text "length" =>
    some ⟨.value (.ofNat length) writable, false, false⟩
  | .boxed (.string s), .index n =>
    match Script.unitAt? s n with
    | some u => some ⟨.value (.string (Script.ofUnits [u])) false, true, false⟩
    | none => o.named? k
  | .boxed (.string s), .text "length" =>
    some (.constant (.ofNat (Script.unitCount s)))
  | _, _ => o.named? k

/-- The keys of own properties: numbers in order, then texts, then symbols. -/
def ownKeys (o : Object) : List Key :=
  let indexed : List Key := match o.kind with
    | .array items _ _ _ =>
      (List.range items.size).filterMap fun i => (items[i]?).join.map fun _ => .index i
    | .boxed (.string s) => (List.range (Script.unitCount s)).map .index
    | _ => []
  let own := o.properties.toList.map Prod.fst
  let numbers := (own.filterMap fun
    | .index n => some n
    | _ => none).mergeSort (· ≤ ·)
  let length : List Key := match o.kind with
    | .array _ _ _ _ | .boxed (.string _) => [.text "length"]
    | _ => []
  let texts := own.filter fun
    | .text _ => true
    | _ => false
  let symbols := own.filter fun
    | .symbol _ => true
    | _ => false
  indexed ++ numbers.map .index ++ length ++ texts ++ symbols

end Object

end Engine

end NotebookEngine
