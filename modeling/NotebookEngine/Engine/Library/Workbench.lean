/-
**The tools of a notebook's program.**

What a notebook's program finds beside the library: timers, the console, displays, modules, and the
calls by which the program of all cells tells its host where it is.  Whatever runs later runs under an
operation of the host, so that the host knows which cell it belongs to.

Main definitions:

* `Library.trackedThen` — waiting for a promise under an operation;
* `Library.stringify` — any value as JSON;
* `Library.startTimer`, `Library.cancelTimer`, `Library.runTask` — timers and tasks;
* `Library.runCell`, `Library.captureCell`, `Library.trackAwait` — cells;
* `Library.requireModule`, `Library.loadModule` — modules;
* `Library.startProgram` — the program of all cells.
-/

import NotebookEngine.Engine.Library.Promises
import NotebookEngine.Engine.Library.Errors
import NotebookEngine.Engine.Library.JsonData
import NotebookEngine.Engine.Library.Numbers
import NotebookEngine.Engine.Library.Texts
import NotebookEngine.Package.Require

set_option autoImplicit false

namespace NotebookEngine

namespace Engine

namespace Library

open Act

/-! ### Operations -/

/-- Begin an operation of the host. -/
def beginOperation (kind : String) : Act Nat := askHost fun h => h.beginOperation kind

/-- End an operation of the host. -/
def endOperation (id : Nat) : Act Unit := tellHost fun h => h.endOperation id

/-- Make another operation current: the one before. -/
def swapOperation (id : Nat) : Act Nat := askHost fun h => (h.current, h.setCurrent id)

/-- The kind of the operations that wait for promises. -/
def promiseKind : String := "PROMISE"

/-- Wait for a promise; what is called then runs under an operation of its own. -/
def trackedThen (c : Call) : Act Value := do
  let op ← beginOperation promiseKind
  let fulfilled ← newNative (.underOperation op (c.argument 0) false) 1
  let rejected ← newNative (.underOperation op (c.argument 1) true) 1
  match ← outcome (nativeThen c.this fulfilled rejected) with
  | .ok v => pure v
  | .error e =>
    endOperation op
    throw e

/-- Go on under an operation, which then ends. -/
def runUnder (op : Nat) (handler : Value) (rejects : Bool) (v : Value) : Act Value := do
  let previous ← swapOperation op
  let result ← outcome do
    if ← isCallable handler then call handler .undefined [v]
    else if rejects then throw v
    else pure v
  let _ ← swapOperation previous
  endOperation op
  ofOutcome result

/-- A promise of a value, as programs make it. -/
def resolvedPromise (v : Value) : Act Value :=
  promiseBy (.object Wellknown.promiseConstructor.ref) v

/-! ### Values as text -/

/-- A text as the host takes it: it must not hold a half of a character on its own. -/
def hostText (s : String) : Act String := do
  let before := s.toList.takeWhile fun c => (Script.halfUnit? c).isNone
  if before.length = s.length then pure s
  else
    throwType ("Conversion from string failed: invalid utf-8 sequence of 1 bytes from index " ++
      toString (String.ofList before).utf8ByteSize)

/-- What is written in the place of a value that JSON does not know. -/
def readable (seen : Ref) (v : Value) : Act Value := do
  match v with
  | .bigint i => pure (.string (toString i))
  | .object r =>
    if (← object r).isCallable then
      let name ← getText r "name"
      let name ← if name.truth then toText name else pure "anonymous"
      pure (.string ("[Function " ++ name ++ "]"))
    else if (← entriesOf seen).contains v then pure (.string "[Circular]")
    else
      changeSet seen fun e => e.put v v
      pure v
  | _ => pure v

/-- Any value as JSON. -/
def stringify (v : Value) : Act String := do
  let seen ← allocate (.make none (.set .empty true))
  let w : Writing := { replace := fun _ _ v => readable seen v, keys? := none, gap := "" }
  pure ((← writeJson w v).getD "null")

/-- The text of a value, where symbols have one too. -/
def displayText (v : Value) : Act String := describedText v

/-- Whether a value is an error. -/
def isErrorValue (v : Value) : Act Bool := do
  match v with
  | .object r =>
    match ← protoOf r with
    | some p => inChain Wellknown.errorPrototype.ref p
    | none => pure false
  | _ => pure false

/-- A value as the console writes it. -/
def consoleText (v : Value) : Act String := do
  match v with
  | .string s => pure s
  | .object r =>
    if ← isErrorValue v then
      if (← getText r "stack").truth then
        let name ← toText (← getText r "name")
        let message ← toText (← getText r "message")
        let stack ← toText (← getText r "stack")
        pure (name ++ ": " ++ message ++ "\n" ++ stack)
      else toText v
    else if (← object r).isCallable then toText v
    else
      match ← outcome (stringify v) with
      | .ok s => pure s
      | .error _ => toText v
  | _ => displayText v

/-- The values of a call as the console writes them. -/
def consoleLine (vs : List Value) : Act String := do
  pure (" ".intercalate (← vs.mapM consoleText) ++ "\n")

/-! ### Errors -/

/-- Report an error of the program, of a cell if one is named. -/
def failWith (e cell : Value) : Act Unit := do
  let (message, stack) ← do
    if ← isErrorValue e then
      let name ← toText (← get e (.text "name"))
      let message := name ++ ": " ++ (← toText (← get e (.text "message")))
      let stack ← get e (.text "stack")
      let stack ← if stack.truth then toText stack else pure ""
      pure (message, message ++ "\n" ++ stack)
    else if e.isNothing then pure ("", "")
    else pure (← displayText e, "")
  let cell ← hostText (← if cell.isUndefined then pure "" else displayText cell)
  let message ← hostText message
  let stack ← hostText stack
  tellHost fun h => h.fail (if cell.isEmpty then none else some cell) message stack

/-- Do something; an error is reported. -/
def reporting (cell : Value) (x : Act Unit) : Act Unit := do
  match ← outcome x with
  | .ok _ => pure ()
  | .error e => failWith e cell

/-! ### Timers and tasks -/

/-- Change the functions that wait for their tasks, and the host. -/
def onCallbacks {α : Type} (f : Callbacks Value → Host → Nat → α × Callbacks Value × Host) : Act α :=
  update fun w =>
    let (a, callbacks, host) := f w.bench.callbacks w.host w.clock
    (a, { w with
      bench := { w.bench with callbacks }
      host })

/-- The delay that a value gives. -/
def delayOf (v : Value) : Act Float := do
  let x ← match ← toNumeric v with
    | .number x => pure x
    | .bigint i => pure (Float.ofInt i)
  pure (if x.isNaN then 0 else x)

/-- Start a timer. -/
def startTimer (kind : String) (f delay : Value) (repeats : Bool) (arguments : List Value) :
    Act Value := do
  if !(← isCallable f) then throwType "Callback must be a function"
  let callback ← newNative (.later f arguments) 0
  let id ← onCallbacks fun c h _ => c.begin h kind repeats fun _ => callback
  let delay ← delayOf delay
  change fun w => { w with host := w.host.schedule w.clock id delay repeats }
  pure (.ofNat id)

/-- The operation that a value names. -/
def operationOf (v : Value) : Option Nat :=
  match v with
  | .number x => if x ≥ 0 && x.floor == x && x < 9007199254740992 then some x.toUInt64.toNat else none
  | _ => none

/-- Cancel the timer that a value names, if there is one. -/
def cancelTimer (c : Call) : Act Value := do
  match operationOf (c.argument 0) with
  | some id => onCallbacks fun cs h _ => ((), cs.cancel h id)
  | none => pure ()
  pure .undefined

/-- Schedule a function as a task of an operation. -/
def postTask (op : Nat) (f : Value) : Act Unit :=
  onCallbacks fun c h now => ((), c.post h now op f)

/-- Run the function that waits for a task. -/
def runTask (id : Nat) : Act Unit := do
  match ← onCallbacks fun c h _ => let (f?, c) := c.take id; (f?, c, h) with
  | none => pure ()
  | some f => reporting .undefined do let _ ← call f .undefined []

/-- A function that programs find under a name that it does not have itself. -/
def unnamedEntry (key name : String) (length : Nat) (answer : Answer) : Entry :=
  ⟨.text key, name, length, .method, answer⟩

/-- The timers of a program. -/
def timers : List Entry :=
  [unnamedEntry "setTimeout" "" 2 fun c =>
      startTimer "Timeout" (c.argument 0) (c.argument 1) false (c.arguments.drop 2),
   unnamedEntry "setInterval" "" 2 fun c =>
      startTimer "Timeout" (c.argument 0) (c.argument 1) true (c.arguments.drop 2),
   unnamedEntry "setImmediate" "" 1 fun c =>
      startTimer "Immediate" (c.argument 0) (.number 0) false (c.arguments.drop 1),
   unnamedEntry "clearTimeout" "cancel" 1 cancelTimer,
   unnamedEntry "clearInterval" "cancel" 1 cancelTimer,
   unnamedEntry "clearImmediate" "cancel" 1 cancelTimer,
   unnamedEntry "queueMicrotask" "" 1 fun c => do
      let _ ← invoke (← resolvedPromise .undefined) "then" [c.argument 0]
      pure .undefined]

/-! ### Output -/

/-- Write a text to a stream of the host. -/
def writeTo (channel : Channel) (text : String) : Act Unit := do
  let text ← hostText text
  tellHost fun h => h.write channel text

/-- The function that writes to a stream. -/
def writeEntry (channel : Channel) : Entry :=
  .method "write" 1 fun c => do
    writeTo channel (← displayText (c.argument 0))
    pure (.bool true)

/-- A function of the console. -/
def consoleEntry (name : String) (stream : Wellknown) : Entry :=
  .method name 0 fun c => do
    let f ← getText stream.ref "write"
    let line ← consoleLine c.arguments
    callValue f (.object stream.ref) [.string line]

/-- The console. -/
def console : Space :=
  { name := "console", constants := [], tag? := none
    entries :=
      [consoleEntry "log" .standardOutput, consoleEntry "info" .standardOutput,
       consoleEntry "debug" .standardOutput, consoleEntry "warn" .standardError,
       consoleEntry "error" .standardError, consoleEntry "trace" .standardError] }

/-- The function that runs another one after the present job. -/
def nextTick : Entry :=
  .method "nextTick" 1 fun c => do
    let later ← newNative (.later (c.argument 0) c.arguments.tail) 0
    let _ ← invoke (← resolvedPromise .undefined) "then" [later]
    pure .undefined

/-- Display a value. -/
def displayValue (v kind : Value) : Act Unit := do
  let text ← stringify v
  let kind ← hostText (← if kind.isNothing then pure "" else displayText kind)
  tellHost fun h => h.display text kind

/-! ### Cells -/

/-- Capture the variables of a cell, if they can be read. -/
def captureCell (index : Value) : Act Unit := do
  match ← read fun w => w.bench.locals.find? fun (i, _) => i.alike index with
  | none => pure ()
  | some (_, f) =>
    match ← outcome (do stringify (← call f .undefined [])) with
    | .ok text => tellHost fun h => h.captureLocals text
    | .error e =>
      let _ ← toText index
      let _ ← toText e

/-- Keep the function that reads the variables of a cell, the first time, and capture them. -/
def captureLocals (index f : Value) : Act Unit := do
  if !(← read fun w => w.bench.locals.any fun (i, _) => i.alike index) then
    change fun w => { w with bench := { w.bench with locals := w.bench.locals ++ [(index, f)] } }
  captureCell index

/-- Run a cell. -/
def runCell (index cell body : Value) : Act Unit := do
  let i := (operationOf index).getD 0
  match ← askHost fun h => h.enterCell i with
  | none => pure ()
  | some scope =>
    match ← outcome (call body .undefined []) with
    | .error e =>
      failWith e cell
      tellHost fun h => h.leaveCell scope
    | .ok promise =>
      let op ← beginOperation promiseKind
      tellHost fun h => h.leaveCell scope
      let fulfilled ← newNative (.cellSettled op cell false) 1
      let rejected ← newNative (.cellSettled op cell true) 1
      let _ ← nativeThen (← resolvedPromise promise) fulfilled rejected

/-- The promise of a cell has been settled. -/
def cellSettled (op : Nat) (cell : Value) (rejects : Bool) (v : Value) : Act Unit := do
  endOperation op
  if rejects then failWith v cell

/-- A promise for a value that is awaited; it is settled by a task of its own operation. -/
def trackAwait (v : Value) : Act Value := do
  let op ← beginOperation promiseKind
  let p ← newPromise
  let (resolve, reject) ← settlers p
  let started ← outcome do
    let inner ← resolvedPromise v
    let fulfilled ← newNative (.post op resolve) 1
    let rejected ← newNative (.post op reject) 1
    let _ ← nativeThen inner fulfilled rejected
  match started with
  | .ok _ => pure ()
  | .error e => let _ ← call reject .undefined [e]
  pure (.object p)

/-- The default export of a module, or the module itself. -/
def importDefault (v : Value) : Act Value := do
  match v with
  | .object r =>
    if !(← object r).isCallable && (← hasProperty r (.text "default")) then getText r "default"
    else pure v
  | _ => pure v

/-! ### Modules -/

/-- The function that loads modules from a directory. -/
def newRequire (base : String) : Act Value := do
  pure (.object (← newFunctionObject (.native (.require base)) "require" 1 false))

/-- The object of a module before it has run. -/
def newModule (path : String) : Act Ref := do
  let exports ← newPlain
  let r ← newPlain
  modifyObject r fun o =>
    (((o.putNamed (.text "exports") (.plain (.object exports))).putNamed (.text "id")
      (.plain (.string path))).putNamed (.text "filename") (.plain (.string path))).putNamed
        (.text "loaded") (.plain (.bool false))
  pure r

/-- Run the body of a module, which requires others from the directory of its path. -/
def runModule (m : Ref) (path source : String) : Act Unit := do
  let directory := Module.directoryOf path
  let text := "(function anonymous(exports,require,module,__filename,__dirname\n) \x7b\n" ++
    source ++ "\n\x7d)"
  let f ← evalText inputFile text (Scope.start false)
  let exports ← getText m "exports"
  let _ ← call f exports
    [exports, ← newRequire directory, .object m, .string path, .string directory]

/-- Load a module that is kept already: its exports. -/
def loadModule (m : Ref) (path : String) (format : Module.Format) (source : String) : Act Value := do
  match format with
  | .json => putText m "exports" (← parseJson source)
  | .script => runModule m path source
  putText m "loaded" (.bool true)
  getText m "exports"

/-- The exports of the module that a specifier names from a directory. It is run the first time. -/
def requireModule (base : String) (specifier : Value) : Act Value := do
  let name ← hostText (← displayText specifier)
  match ← read fun w => Module.demand w.files w.bench.modules base name with
  | .missing => throwFault .error ("Cannot find module '" ++ (← toText specifier) ++ "'")
  | .known m => getText m "exports"
  | .unreadable message => throwFault .error message
  | .fresh path format source =>
    let m ← newModule path
    change fun w => { w with bench := { w.bench with modules := w.bench.modules ++ [(path, m)] } }
    loadModule m path format source

/-! ### Calls of the program of all cells -/

/-- What the program of all cells is given, besides modules. -/
def programTools : List Entry :=
  [.method "display" 2 fun c => do
      displayValue (c.argument 0) (c.argument 1)
      pure .undefined,
   .method "__cell" 3 fun c => do
      runCell (c.argument 0) (c.argument 1) (c.argument 2)
      pure .undefined,
   .method "__end" 0 fun _ => do
      tellHost Host.endText
      pure .undefined,
   .method "__capture_locals" 3 fun c => do
      captureLocals (c.argument 0) (c.argument 2)
      pure .undefined,
   .method "__auto_display" 1 fun c => do
      displayValue (c.argument 0) .undefined
      pure .undefined]

/-- Run the program of all cells, given its tools. -/
def startProgram (program : Value) (file directory : String) (tools : List Value) : Act Unit := do
  reporting .undefined do
    let result ← call program .undefined
      ([← newRequire directory, .string file, .string directory] ++ tools)
    let rejected ← newNative .failure 1
    let _ ← nativeThen (← resolvedPromise result) .undefined rejected

/-! ### What programs may ask of the host directly -/

/-- The name of a value's type, as faults of calls tell it. -/
def foreignType (v : Value) : Act String := do
  match v with
  | .undefined => pure "undefined"
  | .null => pure "null"
  | .bool _ => pure "bool"
  | .number x => pure (if isWhole x && x.abs < 2147483648 then "int" else "float")
  | .bigint _ => pure "big_int"
  | .string _ => pure "string"
  | .symbol _ => pure "symbol"
  | .object r =>
    if ← isArray v then pure "array"
    else if (← object r).isConstructor then pure "constructor"
    else if (← object r).isCallable then pure "function"
    else pure "object"

/-- What is said about a value of the wrong type. -/
def foreignFault (v : Value) (wanted : String) : Act String := do
  pure ("Error converting from js '" ++ (← foreignType v) ++ "' into type '" ++ wanted ++ "'")

/-- Throw the error about an argument of the wrong type. -/
def throwForeign {α : Type} (v : Value) (wanted : String) : Act α := do
  throwType (← foreignFault v wanted)

/-- An argument that must be a text. -/
def foreignText (v : Value) : Act String := do
  match v with
  | .string s => hostText s
  | _ => throwForeign v "string"

/-- An argument that must be a number. -/
def foreignNumber (v : Value) : Act Float := do
  match v with
  | .number x => pure x
  | _ => throwForeign v "f64"

/-- An argument that must be a truth value. -/
def foreignTruth (v : Value) : Act Bool := do
  match v with
  | .bool b => pure b
  | _ => throwForeign v "bool"

/-- The natural number that is nearest below a number, zero for negative ones. -/
def foreignNat (x : Float) : Nat := x.toUInt64.toNat

/-- A function of the host, which must be given all its arguments. -/
def hostEntry (name : String) (length : Nat) (answer : Answer) : Entry :=
  .method name length fun c => do
    if c.arguments.length < length then
      throwType ("Error calling function with " ++ toString c.arguments.length ++
        " argument(s) while " ++ toString length ++ " where expected")
    answer c

/-- What programs may ask of the host directly. -/
def hostEntries : List Entry :=
  [hostEntry "__host_op_begin" 1 fun c => do
      pure (.ofNat (← beginOperation (← foreignText (c.argument 0)))),
   hostEntry "__host_op_end" 1 fun c => do
      endOperation (foreignNat (← foreignNumber (c.argument 0)))
      pure .undefined,
   hostEntry "__host_swap_op" 1 fun c => do
      pure (.ofNat (← swapOperation (foreignNat (← foreignNumber (c.argument 0))))),
   hostEntry "__host_schedule" 3 fun c => do
      let id ← foreignNumber (c.argument 0)
      let delay ← foreignNumber (c.argument 1)
      let repeats ← foreignTruth (c.argument 2)
      change fun w => { w with host := w.host.schedule w.clock (foreignNat id) delay repeats }
      pure .undefined,
   hostEntry "__host_cancel" 1 fun c => do
      let id ← foreignNumber (c.argument 0)
      tellHost fun h => h.cancel (foreignNat id)
      pure .undefined,
   hostEntry "__host_enter_cell" 2 fun c => do
      let index ← foreignNumber (c.argument 0)
      let _ ← foreignText (c.argument 1)
      pure ((← askHost fun h => h.enterCell (foreignNat index)).elim (.number (-1)) .ofNat),
   hostEntry "__host_leave_cell" 1 fun c => do
      let scope ← foreignNumber (c.argument 0)
      tellHost fun h => h.leaveCell (foreignNat scope)
      pure .undefined,
   hostEntry "__host_error" 3 fun c => do
      let cell ← foreignText (c.argument 0)
      let message ← foreignText (c.argument 1)
      let stack ← foreignText (c.argument 2)
      tellHost fun h => h.fail (if cell.isEmpty then none else some cell) message stack
      pure .undefined,
   hostEntry "__host_write" 2 fun c => do
      let stream ← foreignText (c.argument 0)
      writeTo (Channel.ofName stream) (← foreignText (c.argument 1))
      pure .undefined,
   hostEntry "__host_display" 2 fun c => do
      let text ← foreignText (c.argument 0)
      let kind ← foreignText (c.argument 1)
      tellHost fun h => h.display text kind
      pure .undefined,
   hostEntry "__host_locals" 2 fun c => do
      let _ ← foreignNumber (c.argument 0)
      let text ← foreignText (c.argument 1)
      tellHost fun h => h.captureLocals text
      pure .undefined,
   hostEntry "__host_end" 0 fun _ => do
      tellHost Host.endText
      pure .undefined,
   hostEntry "__host_log" 1 fun c => do
      let _ ← foreignText (c.argument 0)
      pure .undefined,
   hostEntry "__ember_resolve" 2 fun c => do
      let base ← foreignText (c.argument 0)
      let specifier ← foreignText (c.argument 1)
      pure (.string ((← read fun w => Module.resolve w.files base specifier).getD "")),
   hostEntry "__ember_read" 1 fun c => do
      let path ← foreignText (c.argument 0)
      match ← read fun w => Module.load w.files path with
      | .failed message =>
        pure (.string ("\x7b\"error\":" ++ quoteText message ++ ",\"ok\":false\x7d"))
      | .text format path source =>
        let format := if format = .json then "json" else "script"
        pure (.string ("\x7b\"format\":\"" ++ format ++ "\",\"ok\":true,\"path\":" ++
          quoteText path ++ ",\"source\":" ++ quoteText source ++ "\x7d"))]

/-- The tools that programs find among the globals. -/
def globalTools : List Entry :=
  [.method "__ember_run" 1 fun c => do
      match operationOf (c.argument 0) with
      | some id => runTask id
      | none => pure ()
      pure .undefined,
   .method "__ember_capture" 1 fun c => do
      captureCell (c.argument 0)
      pure .undefined,
   .method "__ember_start" 3 fun c => do
      let file ← toText (c.argument 1)
      let directory ← toText (c.argument 2)
      startProgram (c.argument 0) file directory (c.arguments.drop 3)
      pure .undefined,
   .method "__track_await" 1 fun c => trackAwait (c.argument 0),
   .method "__import_default" 1 fun c => importDefault (c.argument 0)]

/-- Note why the program cannot be driven on. -/
def noteFault (text : String) : Act Unit :=
  change fun w => { w with bench := { w.bench with fault? := some text } }

/-- Call a function by its name among the globals. The program may have put something else there; it can
be driven on only if that is a function. -/
def callGlobal (name : String) (arguments : List Value) : Act Value := do
  match ← outcome (getText Wellknown.global.ref name) with
  | .error _ =>
    noteFault "Exception generated by QuickJS"
    pure .undefined
  | .ok f =>
    if ← isCallable f then call f .undefined arguments
    else
      noteFault (← foreignFault f "function")
      pure .undefined

/-! ### Functions that are made while a program runs -/

/-- What a function does that was made while the program runs. -/
def callNative (n : Native) (arguments : List Value) : Act Value := do
  let v := arguments.headD .undefined
  match n with
  | .settle p done rejects => callSettler p done rejects v
  | .executor resolve reject =>
    let old ← cellValue resolve
    let oldReject ← cellValue reject
    if !old.isUndefined || !oldReject.isUndefined then throwType "resolving function already set"
    setCell resolve (.value v)
    setCell reject (.value (arguments.tail.headD .undefined))
    pure .undefined
  | .gathered how rejects index values left target done =>
    gather how rejects index values left target done v
  | .finally action constructor rejects => runFinally action constructor rejects v
  | .give v throws => if throws then throw v else pure v
  | .iterated done => iterResult v done
  | .generatorReturn g rejects => do
    let s ← generatorOf g
    setGenerator g { s with progress := .done }
    answerRequest g (if rejects then .error v else .ok v) true
    serveRequests g
    pure .undefined
  | .revoke p => do
    modifyObject p fun o =>
      match o.kind with
      | .proxy _ callable constructs => { o with kind := .proxy none callable constructs }
      | _ => o
    pure .undefined
  | .underOperation op handler rejects => runUnder op handler rejects v
  | .cellSettled op cell rejects => do
    cellSettled op cell rejects v
    pure .undefined
  | .post op settle => do
    postTask op (← newNative (.later settle [v]) 0)
    pure .undefined
  | .later f arguments => callValue f .undefined arguments
  | .require base => requireModule base v
  | .failure => do
    failWith v .undefined
    pure .undefined

end Library

end Engine

end NotebookEngine
