/-
**The state of a running program.**

All that a program can read or change: the heap, the cells of its variables, the calls in progress, the
jobs that wait, and the host that it runs for.

Main definitions:

* `Engine.World` — the state;
* `Engine.Wellknown` — the objects that are there from the start, at places known beforehand;
* `Engine.Source` — a text of program, with what is needed to tell lines;
* `Engine.Workbench` — what the tools that a notebook's program uses remember.
-/

import NotebookEngine.Engine.Value
import NotebookEngine.Run.Timers
import NotebookEngine.Files.Tree

set_option autoImplicit false

namespace NotebookEngine

namespace Engine

/-! ### Objects that are there from the start -/

/-- The objects that the engine itself has to find. -/
inductive Wellknown where
  | objectPrototype
  | functionPrototype
  | arrayPrototype
  | stringPrototype
  | numberPrototype
  | booleanPrototype
  | symbolPrototype
  | bigintPrototype
  | errorPrototype
  | typeErrorPrototype
  | rangeErrorPrototype
  | syntaxErrorPrototype
  | referenceErrorPrototype
  | evalErrorPrototype
  | uriErrorPrototype
  | internalErrorPrototype
  | aggregateErrorPrototype
  | iteratorPrototype
  | arrayIteratorPrototype
  | mapIteratorPrototype
  | setIteratorPrototype
  | stringIteratorPrototype
  | regexpIteratorPrototype
  | helperIteratorPrototype
  | generatorPrototype
  | asyncIteratorPrototype
  | asyncGeneratorPrototype
  | fromSyncPrototype
  | generatorFunctionPrototype
  | asyncFunctionPrototype
  | asyncGeneratorFunctionPrototype
  | promisePrototype
  | mapPrototype
  | setPrototype
  | weakMapPrototype
  | weakSetPrototype
  | weakRefPrototype
  | finalizationPrototype
  | bufferPrototype
  | sharedBufferPrototype
  | windowPrototype
  | viewPrototype
  | uint8ClampedPrototype
  | int8Prototype
  | uint8Prototype
  | int16Prototype
  | uint16Prototype
  | int32Prototype
  | uint32Prototype
  | bigInt64Prototype
  | bigUint64Prototype
  | float16Prototype
  | float32Prototype
  | float64Prototype
  | datePrototype
  | regexpPrototype
  | global
  | viewConstructor
  | promiseConstructor
  | arrayConstructor
  | regexpConstructor
  | standardOutput
  | standardError
  deriving DecidableEq, Inhabited

/-- The objects that are there from the start, in the order of their places. -/
def Wellknown.all : List Wellknown :=
  [.objectPrototype, .functionPrototype, .arrayPrototype, .stringPrototype, .numberPrototype,
   .booleanPrototype, .symbolPrototype, .bigintPrototype, .errorPrototype, .typeErrorPrototype,
   .rangeErrorPrototype, .syntaxErrorPrototype, .referenceErrorPrototype, .evalErrorPrototype,
   .uriErrorPrototype, .internalErrorPrototype, .aggregateErrorPrototype, .iteratorPrototype,
   .arrayIteratorPrototype, .mapIteratorPrototype, .setIteratorPrototype, .stringIteratorPrototype,
   .regexpIteratorPrototype, .helperIteratorPrototype, .generatorPrototype, .asyncIteratorPrototype,
   .asyncGeneratorPrototype, .fromSyncPrototype, .generatorFunctionPrototype, .asyncFunctionPrototype,
   .asyncGeneratorFunctionPrototype, .promisePrototype, .mapPrototype, .setPrototype,
   .weakMapPrototype, .weakSetPrototype, .weakRefPrototype, .finalizationPrototype, .bufferPrototype,
   .sharedBufferPrototype, .windowPrototype, .viewPrototype, .uint8ClampedPrototype, .int8Prototype,
   .uint8Prototype, .int16Prototype, .uint16Prototype, .int32Prototype, .uint32Prototype,
   .bigInt64Prototype, .bigUint64Prototype, .float16Prototype, .float32Prototype, .float64Prototype,
   .datePrototype, .regexpPrototype, .global, .viewConstructor, .promiseConstructor, .arrayConstructor, .regexpConstructor, .standardOutput, .standardError]

/-- The place of an object that is there from the start. -/
def Wellknown.ref (k : Wellknown) : Ref := k.ctorIdx

/-- The prototype of the errors of a class. -/
def ErrorClass.proto : ErrorClass → Wellknown
  | .error => .errorPrototype
  | .typeError => .typeErrorPrototype
  | .rangeError => .rangeErrorPrototype
  | .syntaxError => .syntaxErrorPrototype
  | .referenceError => .referenceErrorPrototype
  | .evalError => .evalErrorPrototype
  | .uriError => .uriErrorPrototype
  | .internalError => .internalErrorPrototype
  | .aggregateError => .aggregateErrorPrototype

/-- The prototype of the views whose items are of a kind. -/
def Element.proto : Element → Wellknown
  | .uint8Clamped => .uint8ClampedPrototype
  | .int8 => .int8Prototype
  | .uint8 => .uint8Prototype
  | .int16 => .int16Prototype
  | .uint16 => .uint16Prototype
  | .int32 => .int32Prototype
  | .uint32 => .uint32Prototype
  | .bigInt64 => .bigInt64Prototype
  | .bigUint64 => .bigUint64Prototype
  | .float16 => .float16Prototype
  | .float32 => .float32Prototype
  | .float64 => .float64Prototype

/-- The symbols that are there from the start. -/
inductive WellknownSymbol where
  | iterator
  | asyncIterator
  | hasInstance
  | toPrimitive
  | toStringTag
  | species
  | isConcatSpreadable
  | unscopables
  | match
  | matchAll
  | replace
  | search
  | split
  deriving DecidableEq, Inhabited

/-- The names of the symbols that are there from the start, in the order of their numbers. -/
def WellknownSymbol.names : List String :=
  ["iterator", "asyncIterator", "hasInstance", "toPrimitive", "toStringTag", "species",
   "isConcatSpreadable", "unscopables", "match", "matchAll", "replace", "search", "split"]

/-- The key of a symbol that is there from the start. -/
def WellknownSymbol.key (s : WellknownSymbol) : Key := .symbol s.ctorIdx

/-! ### Texts of programs and calls -/

/-- A text of program. -/
structure Source where
  /-- The name under which errors tell of it. -/
  file : String
  text : Array Char
  /-- The places at which lines start. -/
  starts : Array Nat
  deriving Inhabited

namespace Source

/-- The places at which the lines of a text start. -/
def lineStarts (text : List Char) : Array Nat :=
  (text.foldl (fun (starts, n) c => (if c = '\n' then starts.push (n + 1) else starts, n + 1))
    (#[0], 0)).1

/-- A text with the name under which errors tell of it. -/
def ofText (file text : String) : Source :=
  ⟨file, text.toList.toArray, lineStarts text.toList⟩

/-- The last line, from `lo` to before `hi`, that starts at or before a place. -/
def lineIn (starts : Array Nat) (place : Nat) : Nat → Nat → Nat → Nat
  | 0, lo, _ => lo
  | fuel + 1, lo, hi =>
    if hi ≤ lo + 1 then lo
    else
      let mid := (lo + hi) / 2
      if starts[mid]?.getD 0 ≤ place then lineIn starts place fuel mid hi
      else lineIn starts place fuel lo mid

/-- The line and column of a place, both counted from one. -/
def lineColumn (s : Source) (place : Nat) : Nat × Nat :=
  let line := lineIn s.starts place s.starts.size 0 s.starts.size
  (line + 1, place - s.starts[line]?.getD 0 + 1)

/-- The place that is meant, counted from the start of the text. -/
def resolve (s : Source) : Place → Nat
  | .exactly n => n
  | .unbroken n => n - ((s.text.extract 0 n).toList.reverse.takeWhile fun c => !c.isWhitespace).length

/-- A stretch of the text. -/
def stretch (s : Source) (span : Script.Span) : String :=
  String.ofList (s.text.extract (span.lo - 1) (span.hi - 1)).toList

end Source

/-- A call in progress. -/
structure Activation where
  function : String
  /-- The text of the function, unless it belongs to the library. -/
  source? : Option Nat
  /-- Where in the text the call is. -/
  place : Place
  /-- The parameters and the body of the function. -/
  parts : List Script.Node
  deriving Inhabited

/-! ### The state -/

/-- What a cell holds. -/
inductive Cell where
  /-- The variable has no value yet. -/
  | empty
  | value (v : Value)
  /-- The arguments of a call, of which no object has been made yet. -/
  | arguments (items : List Value)
  deriving Inhabited

/-- A piece of work that waits until the current one has ended. -/
inductive Job where
  | react (r : Reaction) (outcome : Except Value Value)
  | adopt (promise : Ref) (thenable action : Value)
  /-- Load a module: no module can be loaded. -/
  | load (promise : Ref) (name : Value)
  deriving Inhabited

/-- Whom the outcome of a suspended function belongs to. -/
inductive Owner where
  | function
  | generator (r : Ref)
  deriving Inhabited

/-- A promise that was rejected without anyone to handle it. -/
structure Rejection where
  id : Nat
  message : String
  stack : String
  deriving Inhabited

/-- What the tools of a notebook's program remember. -/
structure Workbench where
  /-- The functions that wait for their tasks, and the tasks that repeat. -/
  callbacks : Callbacks Value
  /-- The functions that read the variables of cells, by the index of the cell. -/
  locals : List (Value × Value)
  /-- The modules that have been loaded, by their paths. -/
  modules : List (String × Ref)
  /-- Why the program cannot be driven on, if it cannot. -/
  fault? : Option String
  deriving Inhabited

/-- The state of a running program. -/
structure World where
  heap : Array Object
  cells : Array Cell
  /-- The descriptions of symbols and the names that are private to classes. -/
  symbols : Array (Option String)
  /-- The symbols that are shared by name. -/
  shared : List (String × Nat)
  frames : List Activation
  depth : Nat
  /-- Jobs that wait, the first first, and later ones, the last first. -/
  jobs : List Job
  laterJobs : List Job
  /-- The suspended function that runs. -/
  coroutine : Nat
  owners : Array Owner
  sources : Array Source
  /-- The texts of templates that tags were called with, by where the templates are. -/
  templates : List ((Nat × Nat) × Ref)
  nextRejection : Nat
  rejections : List Rejection
  bench : Workbench
  host : Host
  /-- The time that has passed, in nanoseconds. -/
  clock : Nat
  files : FileTree
  /-- The state of the source of random numbers. -/
  random : Nat
  /-- The text that was matched last, whether its letters are whole characters, and its letters. -/
  lastMatched : Option (String × Bool × Array Nat)
  deriving Inhabited

namespace World

/-- The object at a place. -/
def object (w : World) (r : Ref) : Object := w.heap[r]?.getD default

/-- The state with an object changed. -/
def modify (w : World) (r : Ref) (f : Object → Object) : World :=
  { w with heap := w.heap.modify r f }

/-- The text of the calls in progress, the innermost first. -/
def trace (w : World) (skip : Nat) : String :=
  "".intercalate (((w.frames.drop skip).take 10).map fun a =>
    let name := if a.function.isEmpty then "<anonymous>" else a.function
    match a.source?.bind (w.sources[·]?) with
    | none => "    at " ++ name ++ " (native)\n"
    | some source =>
      let (line, column) := source.lineColumn (source.resolve a.place)
      "    at " ++ name ++ " (" ++ source.file ++ ":" ++ toString line ++ ":" ++ toString column ++ ")\n")

end World

end Engine

end NotebookEngine
