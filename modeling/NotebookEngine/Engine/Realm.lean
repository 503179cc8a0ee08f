/-
**What is there when a program starts.**

The objects of the library are laid out on the heap, those that the engine itself has to find at their
fixed places.  The functions of the library get their numbers in the same pass, so that a function object
and the answer that belongs to it cannot come apart.

Main definitions:

* `Engine.Realm` — the heap and the answers of its functions;
* `Engine.Realm.initial` — the library and the tools of notebooks;
* `Engine.Realm.world` — the state in which a program starts.
-/

import NotebookEngine.Engine.Library.Arrays
import NotebookEngine.Engine.Library.Collections
import NotebookEngine.Engine.Library.Dates
import NotebookEngine.Engine.Library.Globals
import NotebookEngine.Engine.Library.Regexps
import NotebookEngine.Engine.Library.Views
import NotebookEngine.Engine.Library.Workbench

set_option autoImplicit false

namespace NotebookEngine

namespace Engine

/-- The objects of the library, and the answers of its functions by their numbers. -/
structure Realm where
  heap : Array Object
  answers : Array Answer

namespace Realm

/-! ### Objects -/

/-- The prototype of an object that is there from the start. -/
def parentOf : Wellknown → Option Wellknown
  | .objectPrototype => none
  | .typeErrorPrototype | .rangeErrorPrototype | .syntaxErrorPrototype | .referenceErrorPrototype
  | .evalErrorPrototype | .uriErrorPrototype | .internalErrorPrototype
  | .aggregateErrorPrototype => some .errorPrototype
  | .arrayIteratorPrototype | .mapIteratorPrototype | .setIteratorPrototype
  | .stringIteratorPrototype | .regexpIteratorPrototype | .helperIteratorPrototype
  | .generatorPrototype => some .iteratorPrototype
  | .asyncGeneratorPrototype | .fromSyncPrototype => some .asyncIteratorPrototype
  | .uint8ClampedPrototype | .int8Prototype | .uint8Prototype | .int16Prototype | .uint16Prototype
  | .int32Prototype | .uint32Prototype | .bigInt64Prototype | .bigUint64Prototype | .float16Prototype
  | .float32Prototype | .float64Prototype => some .viewPrototype
  | .generatorFunctionPrototype | .asyncFunctionPrototype
  | .asyncGeneratorFunctionPrototype => some .functionPrototype
  | _ => some .objectPrototype

/-- What an object that is there from the start is. -/
def kindOf : Wellknown → Kind
  | .functionPrototype => .function (.native (.give .undefined false)) false
  | .arrayPrototype => .array #[] 0 true true
  | .stringPrototype => .boxed (.string "")
  | .numberPrototype => .boxed (.number 0)
  | .booleanPrototype => .boxed (.bool false)
  | _ => .plain

/-- The objects that are there from the start, before they hold anything. -/
def bare : Realm :=
  ⟨(Wellknown.all.map fun k => Object.make ((parentOf k).map Wellknown.ref) (kindOf k)).toArray, #[]⟩

/-- Put an object on the heap. -/
def add (o : Object) : StateM Realm Ref :=
  modifyGet fun r => (r.heap.size, { r with heap := r.heap.push o })

/-- Put an object at a place of the heap. -/
def place (at? : Option Wellknown) (o : Object) : StateM Realm Ref :=
  match at? with
  | some k => modifyGet fun r => (k.ref, { r with heap := r.heap.setIfInBounds k.ref o })
  | none => add o

/-- Let an object hold a property. -/
def hold (r : Ref) (k : Key) (p : Property) : StateM Realm Unit :=
  modify fun realm => { realm with heap := realm.heap.modify r fun o => o.putNamed k p }

/-- What an object holds under a name. -/
def held (r : Ref) (k : Key) : StateM Realm Value :=
  modifyGet fun realm =>
    let found? : Option Property := (realm.heap[r]?).bind fun o => o.named? k
    match found? with
    | some ⟨.value v _, _, _⟩ => (v, realm)
    | _ => (.undefined, realm)

/-- A plain object. -/
def addPlain : StateM Realm Ref := add (.make (some Wellknown.objectPrototype.ref) .plain)

/-! ### Functions -/

/-- A number for an answer. -/
def number (a : Answer) : StateM Realm Nat :=
  modifyGet fun r => (r.answers.size, { r with answers := r.answers.push a })

/-- A function of the library as an object. -/
def functionObject (parent : Ref) (n : Nat) (name : String) (length : Nat) (constructs : Bool) :
    Object :=
  { Object.make (some parent) (.function (.library n) constructs) with
    properties := #[(.text "length", .fixed (.ofNat length)), (.text "name", .fixed (.string name))] }

/-- A function of the library. -/
def addFunction (name : String) (length : Nat) (a : Answer) : StateM Realm Ref := do
  add (functionObject Wellknown.functionPrototype.ref (← number a) name length false)

/-- The name of the function that sets a property, given that of the one that gets it. -/
def setterName (name : String) : String := "set " ++ String.ofList (name.toList.drop 4)

/-- Let an object hold a function, among the properties that are listed if it is to be shown. -/
def holdEntry (r : Ref) (shown : Bool) (e : Entry) : StateM Realm Unit := do
  let f ← addFunction e.name e.length e.answer
  match e.role with
  | .method =>
    let (writable, configurable) :=
      if e.key = WellknownSymbol.toPrimitive.key then (false, true)
      else if e.key = WellknownSymbol.hasInstance.key then (false, false)
      else (true, true)
    hold r e.key ⟨.value (.object f) writable, shown, configurable⟩
  | .getter => hold r e.key ⟨.accessor (some f) none, shown, true⟩
  | .accessor setter =>
    let s ← addFunction (setterName e.name) 1 setter
    hold r e.key ⟨.accessor (some f) (some s), shown, true⟩

/-- Let an object hold functions. -/
def holdEntries (r : Ref) (shown : Bool) (es : List Entry) : StateM Realm Unit :=
  es.forM (holdEntry r shown)

/-- Let an object hold the text that tells objects of its family. -/
def holdTag (r : Ref) (tag? : Option String) : StateM Realm Unit :=
  match tag? with
  | some tag => hold r WellknownSymbol.toStringTag.key (.fixed (.string tag))
  | none => pure ()

/-! ### Families and spaces -/

/-- Let programs find a value under a name. -/
def holdGlobal (name : String) (v : Value) : StateM Realm Unit :=
  hold Wellknown.global.ref (.text name) (.method v)

/-- A constructor with what it holds, and the prototype of its objects. -/
def addFamily (f : Family) : StateM Realm Unit := do
  let parent ← match f.parent? with
    | some p => held p.ref (.text "constructor")
    | none => pure .undefined
  let parent := match parent with
    | .object r => r
    | _ => Wellknown.functionPrototype.ref
  let c ← place f.place? (functionObject parent (← number f.make) f.name f.length true)
  hold c (.text "prototype") (.constant (.object f.proto.ref))
  hold f.proto.ref (.text "constructor") (.method (.object c))
  holdEntries c false f.statics
  for (name, v) in f.constants do
    hold c (.text name) (.constant v)
  for (name, v) in f.shared do
    hold f.proto.ref (.text name) (.constant v)
  holdEntries f.proto.ref false f.methods
  for (key, name) in f.aliases do
    hold f.proto.ref key (.method (← held f.proto.ref (.text name)))
  holdTag f.proto.ref f.tag?
  if f.isGlobal then holdGlobal f.name (.object c)

/-- An object that only holds functions. -/
def addSpace (shown : Bool) (s : Space) : StateM Realm Ref := do
  let r ← addPlain
  holdEntries r shown s.entries
  for (name, v) in s.constants do
    hold r (.text name) (.constant v)
  holdTag r s.tag?
  pure r

/-- What every error of a class has unless it has its own. -/
def addErrorTexts (k : ErrorClass) : StateM Realm Unit := do
  hold k.proto.ref (.text "name") (.method (.string k.name))
  hold k.proto.ref (.text "message") (.method (.string ""))

/-- An iterator of the library. -/
def addIterator (k : Wellknown) (tag : String) (es : List Entry) : StateM Realm Unit := do
  holdEntries k.ref false es
  holdTag k.ref (some tag)

/-- An iterator of the library that goes over what is there. -/
def addWalker (k : Wellknown) (tag : String) : StateM Realm Unit :=
  addIterator k tag [Library.nextEntry k tag]

/-- The functions that run in some other way than plain ones: their constructor, and their prototype. -/
def addFunctions (k : Wellknown) (mode : Script.FunctionMode) (tag : String)
    (instances? : Option Wellknown) : StateM Realm Unit := do
  let c ← add (functionObject Wellknown.functionPrototype.ref
    (← number (Library.functionFromText mode)) tag 1 true)
  hold c (.text "prototype") (.constant (.object k.ref))
  hold k.ref (.text "constructor") (.fixed (.object c))
  holdTag k.ref (some tag)
  match instances? with
  | some i =>
    hold k.ref (.text "prototype") (.fixed (.object i.ref))
    hold i.ref (.text "constructor") (.fixed (.object k.ref))
  | none => pure ()

/-! ### The library -/

open Library

/-- All constructors. -/
def families : List Family :=
  [objects, functions] ++ errorFamilies ++
  [iteratorFamily, arrays, numbers, truths, texts, bigints, symbols, promises, maps, sets, weakMaps,
   weakSets, weakRefs, finalizers, dates, regexps, buffers, sharedBuffers, windows, views] ++
  viewFamilies

/-- Iterators and generators. -/
def addIterators : StateM Realm Unit := do
  addWalker .arrayIteratorPrototype "Array Iterator"
  addWalker .mapIteratorPrototype "Map Iterator"
  addWalker .setIteratorPrototype "Set Iterator"
  addWalker .stringIteratorPrototype "String Iterator"
  addIterator .regexpIteratorPrototype "RegExp String Iterator" [nextMatchEntry]
  addIterator .helperIteratorPrototype "Iterator Helper" helperMethods
  addIterator .generatorPrototype "Generator" generatorMethods
  addIterator .asyncGeneratorPrototype "AsyncGenerator" asyncGeneratorMethods
  holdEntries Wellknown.fromSyncPrototype.ref false fromSyncMethods
  holdEntries Wellknown.asyncIteratorPrototype.ref false
    [.symbolic .asyncIterator 0 fun c => pure c.this]
  addFunctions .generatorFunctionPrototype ⟨false, true⟩ "GeneratorFunction"
    (some .generatorPrototype)
  addFunctions .asyncFunctionPrototype ⟨true, false⟩ "AsyncFunction" none
  addFunctions .asyncGeneratorFunctionPrototype ⟨true, true⟩ "AsyncGeneratorFunction"
    (some .asyncGeneratorPrototype)

/-- The text of a view is written by the function that writes that of an array. -/
def shareText : StateM Realm Unit := do
  hold Wellknown.viewPrototype.ref (.text "toString")
    (.method (← held Wellknown.arrayPrototype.ref (.text "toString")))

/-- What the prototypes of functions and arrays hold besides methods. -/
def addTraits : StateM Realm Unit := do
  hold Wellknown.functionPrototype.ref (.text "length") (.fixed (.ofNat 0))
  hold Wellknown.functionPrototype.ref (.text "name") (.fixed (.string ""))
  let unscopable ← add (.make none .plain)
  for name in unscopableNames do
    hold unscopable (.text name) (.plain (.bool true))
  hold Wellknown.arrayPrototype.ref WellknownSymbol.unscopables.key (.fixed (.object unscopable))

/-- What programs find under names, besides constructors. -/
def addGlobals : StateM Realm Unit := do
  let global := Wellknown.global.ref
  for (name, v) in
      [("undefined", Value.undefined), ("NaN", .number Script.nan), ("Infinity", .number Script.infinity)]
    do
    hold global (.text name) (.constant v)
  for name in sharedNumberNames do
    let numbers ← held global (.text "Number")
    match numbers with
    | .object r => holdGlobal name (← held r (.text name))
    | _ => pure ()
  holdEntries global false globals
  for s in [mathematics, json, reflect, atomics, performance] do
    holdGlobal s.name (.object (← addSpace false s))
  let proxy ← add (functionObject Wellknown.functionPrototype.ref (← number proxies.1.answer)
    proxies.1.name proxies.1.length true)
  holdEntries proxy false proxies.2
  holdGlobal proxies.1.name (.object proxy)
  holdGlobal "globalThis" (.object global)
  holdTag global (some "global")

/-! ### The tools of notebooks -/

/-- The object that tells of the process. -/
def addProcess : StateM Realm Unit := do
  let process ← addPlain
  holdEntries Wellknown.standardOutput.ref true [writeEntry .output]
  holdEntries Wellknown.standardError.ref true [writeEntry .error]
  let environment ← addPlain
  let arguments ← add (.make (some Wellknown.arrayPrototype.ref) (.array #[] 0 true true))
  for (name, v) in
      [("stdout", Value.object Wellknown.standardOutput.ref), ("stderr", .object Wellknown.standardError.ref),
       ("env", .object environment), ("argv", .object arguments), ("platform", .string "quickjs")]
    do
    hold process (.text name) (.plain v)
  holdEntry process true nextTick
  hold Wellknown.global.ref (.text "process") (.plain (.object process))

/-- The tools of notebooks; those that only the program of all cells is given are the result. -/
def addTools : StateM Realm (List Value) := do
  let global := Wellknown.global.ref
  holdEntries global true hostEntries
  let waiting ← addFunction "" 2 trackedThen
  hold Wellknown.promisePrototype.ref (.text "then") (.method (.object waiting))
  holdEntries global true timers
  addProcess
  hold global (.text console.name) (.plain (.object (← addSpace true console)))
  holdEntries global true globalTools
  programTools.mapM fun e => do pure (.object (← addFunction e.name e.length e.answer))

/-- Everything that is there when a program starts. -/
def addAll : StateM Realm (List Value) := do
  families.forM addFamily
  [ErrorClass.error, .typeError, .rangeError, .syntaxError, .referenceError, .evalError, .uriError,
    .internalError, .aggregateError].forM addErrorTexts
  addIterators
  addGlobals
  shareText
  addTraits
  addTools

/-- What the program of all cells is given, besides modules, and everything that is there. -/
def furnished : List Value × Realm := addAll.run bare

/-- The library and the tools of notebooks. -/
def initial : Realm := furnished.2

/-- What the program of all cells is given, besides modules. -/
def tools : List Value := furnished.1

/-- The state in which a program starts. -/
def world (r : Realm) (host : Host) (files : FileTree) : World :=
  { heap := r.heap
    cells := #[]
    symbols := (WellknownSymbol.names.map fun n => some ("Symbol." ++ n)).toArray
    shared := []
    frames := []
    depth := 0
    jobs := []
    laterJobs := []
    coroutine := 0
    owners := #[]
    sources := #[]
    templates := []
    nextRejection := 0
    rejections := []
    bench := ⟨.empty, [], [], none⟩
    host
    clock := 0
    files
    random := 88172645463325252
    lastMatched := none }

end Realm

end Engine

end NotebookEngine
