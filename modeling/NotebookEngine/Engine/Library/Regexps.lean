/-
**Regular expressions of the library.**

Main definitions:

* `Library.execute` — one match of a regular expression;
* `Library.regexps` — regular expressions.
-/

import NotebookEngine.Engine.Library.Iterators
import NotebookEngine.Engine.Library.Texts

set_option autoImplicit false

namespace NotebookEngine

namespace Engine

namespace Library

open Act

/-! ### One match -/

/-- A regular expression: its text, flags and program. -/
def patternOf (v : Value) : Act (Ref × String × String × Regex.Program) := do
  match v with
  | .object r =>
    match (← object r).kind with
    | .regexp source flags program => pure (r, source, flags, program)
    | _ => throwType "RegExp object expected"
  | _ => throwType "RegExp object expected"

/-- Whether flags hold one. -/
def hasFlag (flags : String) (c : Char) : Bool := flags.toList.contains c

/-- The places of letters in units: where each letter starts, and the end. -/
def unitPlaces (letters : Array Nat) : Array Nat :=
  (letters.foldl (fun (places, n) l => (places.push n, n + (if l ≥ 0x10000 then 2 else 1)))
    (#[], 0)) |> fun (places, n) => places.push n

/-- The letters of a text in which a program matches. Those of the last text are remembered, as a text
is often matched many times. -/
def lettersOf (program : Regex.Program) (text : String) : Act (Array Nat) := update fun w =>
  let unicode := program.flags.unicode
  let fresh (_ : Unit) : Array Nat × World :=
    let letters := program.letters text
    (letters, { w with lastMatched := some (text, unicode, letters) })
  match w.lastMatched with
  | some (s, u, letters) => if u = unicode && s = text then (letters, w) else fresh ()
  | none => fresh ()

/-- The groups of a match among letters, in units: where each starts and ends. -/
def matchGroups (program : Regex.Program) (sticky : Bool) (letters : Array Nat) (start : Nat) :
    Option (Array (Option (Nat × Nat))) :=
  let tries := if sticky then 1 else letters.size + 1
  if program.flags.unicode then
    let places := unitPlaces letters
    let start := (places.findIdx? fun p => p ≥ start).getD letters.size
    (program.search letters (min tries (letters.size + 1 - start)) start).map fun groups =>
      groups.map fun g => g.map fun (lo, hi) => (places[lo]?.getD 0, places[hi]?.getD 0)
  else program.search letters (min tries (letters.size + 1 - start)) start

/-- Set the place at which the next match starts. -/
def setLastIndex (r : Ref) (n : Nat) : Act Unit := putText r "lastIndex" (.ofNat n)

/-- The object of the groups that have names. -/
def namedGroups (names : List (String × Nat)) (values : List Value) : Act Value := do
  if names.isEmpty then pure .undefined
  else
    let r ← allocate (.make none .plain)
    for (name, i) in names do
      let v := values[i]?.getD .undefined
      modifyObject r fun o => o.put (.ofString name) (.plain v)
    pure (.object r)

/-- One match of a regular expression in a text, null if there is none. -/
def execute (v : Value) (text : String) : Act Value := do
  let (r, _, flags, program) ← patternOf v
  let advances := hasFlag flags 'g' || hasFlag flags 'y'
  let last ← toLength (← getText r "lastIndex")
  let start := if advances then last else 0
  let letters ← lettersOf program text
  let units := if program.flags.unicode then Script.units text else letters
  let found := if start > units.size then none
    else matchGroups program (hasFlag flags 'y') letters start
  match found with
  | none =>
    if advances then setLastIndex r 0
    pure .null
  | some groups =>
    match (groups[0]?).join with
    | none => pure .null
    | some (lo, hi) =>
      if advances then setLastIndex r hi
      let values := groups.toList.map fun g =>
        g.elim Value.undefined fun (a, b) => Value.string (Script.ofUnitsBetween units a b)
      let result ← newArray values
      match result with
      | .object list =>
        let names ← namedGroups program.names values
        modifyObject list fun o =>
          ((o.putNamed (.text "index") (.plain (.ofNat lo))).putNamed (.text "input")
            (.plain (.string text))).putNamed (.text "groups") (.plain names)
        if hasFlag flags 'd' then
          let pairs ← groups.toList.mapM fun g =>
            match g with
            | some (a, b) => newArray [.ofNat a, .ofNat b]
            | none => pure .undefined
          let indices ← newArray pairs
          let named ← namedGroups program.names pairs
          match indices with
          | .object i => modifyObject i fun o => o.putNamed (.text "groups") (.plain named)
          | _ => pure ()
          modifyObject list fun o => o.putNamed (.text "indices") (.plain indices)
      | _ => pure ()
      pure result

/-- One match, by the function that the regular expression has for it. -/
def executeBy (v : Value) (text : String) : Act Value := do
  let f ← get v (.text "exec")
  let builtin ← match f with
    | .object r => do
      match (← object r).kind with
      | .function (.library _) _ => pure true
      | _ => pure false
    | _ => pure true
  if builtin then execute v text
  else
    match ← call f v [.string text] with
    | .null => pure .null
    | .object r => pure (.object r)
    | _ => throwType "object or null expected"

/-- The place after a place, past a whole character if letters are characters. -/
def nextPlace (units : Array Nat) (i : Nat) (unicode : Bool) : Nat :=
  match unicode, units[i]?, units[i + 1]? with
  | true, some hi, some lo => if Script.opensPair hi && Script.closesPair lo then i + 2 else i + 1
  | _, _, _ => i + 1

/-- The flags of a regular expression, as it tells them. -/
def flagsOf (v : Value) : Act String := do toText (← get v (.text "flags"))

/-- All matches of a regular expression in a text. -/
def allMatches (v : Value) (text : String) : Act (List Value) := do
  let flags ← flagsOf v
  let unicode := hasFlag flags 'u' || hasFlag flags 'v'
  let units := Script.units text
  match v with
  | .object r =>
    if hasFlag flags 'g' then
      setLastIndex r 0
      loop [] fun found => do
        match ← executeBy v text with
        | .object m =>
          if (← toText (← getOf m (.index 0))).isEmpty then
            let i ← toLength (← getText r "lastIndex")
            setLastIndex r (nextPlace units i unicode)
          pure (.error (.object m :: found))
        | _ => pure (.ok found.reverse)
    else
      match ← executeBy v text with
      | .object m => pure [.object m]
      | _ => pure []
  | _ => throwType "not an object"

/-! ### Regular expressions -/

/-- What a match is, as its replacement may use it. -/
def matchedOf (m : Value) (units : Array Nat) : Act (Matched × String) := do
  match m with
  | .object r =>
    let count ← lengthOf r
    let whole ← toText (← getOf r (.index 0))
    let start := clampIndex (← toWhole (← getText r "index")) units.size
    let groups ← (List.range (count - 1)).mapM fun i => do
      match ← getOf r (.index (i + 1)) with
      | .undefined => pure none
      | g => pure (some (← toText g))
    let names ← getText r "groups"
    pure (⟨units, start, start + Script.unitCount whole, groups, names⟩, whole)
  | _ => throwType "not an object"

/-- The methods that texts leave to regular expressions. -/
def regexpTextMethods : List Entry :=
  [.symbolic .match 1 fun c => do
      let text ← toText (c.argument 0)
      if hasFlag (← flagsOf c.this) 'g' then
        let found ← allMatches c.this text
        if found.isEmpty then pure .null
        else newArray (← found.mapM fun m => get m (.index 0))
      else executeBy c.this text,
   .symbolic .matchAll 1 fun c => do
      let text ← toText (c.argument 0)
      let (_, source, _, _) ← patternOf c.this
      let flags ← flagsOf c.this
      let copy ← makeRegexp source flags Wellknown.regexpPrototype.ref
      match copy, c.this with
      | .object r, .object pattern => putText r "lastIndex" (← getText pattern "lastIndex")
      | _, _ => pure ()
      pure (.object (← allocate
        (.make (some Wellknown.regexpIteratorPrototype.ref)
          (.iterator (.found copy text (hasFlag flags 'g') (hasFlag flags 'u')))))),
   .symbolic .replace 2 fun c => do
      let text ← toText (c.argument 0)
      let f := c.argument 1
      let calls ← isCallable f
      let template ← if calls then pure "" else toText f
      let units := Script.units text
      let found ← allMatches c.this text
      let (done, acc) ← found.foldlM (fun (done, acc) m => do
        let (m, whole) ← matchedOf m units
        let replacement ← if calls then do
            let groups := m.groups.map fun g => g.elim Value.undefined .string
            let names := if m.names.isUndefined then [] else [m.names]
            toText (← call f .undefined
              (.string whole :: groups ++ [.ofNat m.start, .string text] ++ names))
          else substitute m (template.length + 1) template.toList ""
        if m.start ≥ done then
          let acc := Script.append acc (Script.ofUnitsBetween units done m.start)
          pure (m.stop, Script.append acc replacement)
        else pure (done, acc)) (0, "")
      pure (.string (Script.append acc (Script.ofUnitsBetween units done units.size))),
   .symbolic .search 1 fun c => do
      let text ← toText (c.argument 0)
      let (r, _, _, _) ← patternOf c.this
      let before ← getText r "lastIndex"
      putText r "lastIndex" (.number 0)
      let found ← executeBy c.this text
      putText r "lastIndex" before
      match found with
      | .object m => getText m "index"
      | _ => pure (.number (-1)),
   .symbolic .split 2 fun c => do
      let text ← toText (c.argument 0)
      let (_, _, _, program) ← patternOf c.this
      let limit ← if (c.argument 1).isUndefined then pure (Nat.pow 2 32 - 1)
        else do pure (Script.toUint32 (← toNumber (c.argument 1)))
      let letters ← lettersOf program text
      let units := Script.units text
      if units.isEmpty then
        newArray ((if (matchGroups program true letters 0).isSome then []
          else [Value.string text]).take limit)
      else
        let pieces ← loop (0, 0, []) fun (from', i, acc) => do
          let whole (_ : Unit) : List Value :=
            (.string (Script.ofUnitsBetween units from' units.size) :: acc).reverse
          let found := if i ≥ units.size then none else matchGroups program false letters i
          match found.bind fun groups => (groups[0]?).join.map fun range => (groups, range) with
          | none => pure (.ok (whole ()))
          | some (groups, lo, hi) =>
            if lo ≥ units.size then pure (.ok (whole ()))
            else if hi = from' then pure (.error (from', i + 1, acc))
            else
              let caught := (groups.toList.drop 1).map fun g =>
                g.elim Value.undefined fun (a, b) => .string (Script.ofUnitsBetween units a b)
              let piece : Value := .string (Script.ofUnitsBetween units from' lo)
              pure (.error (hi, if hi = lo then lo + 1 else hi, caught.reverse ++ piece :: acc))
        newArray (pieces.take limit)]

/-- A getter that tells whether a flag is set. -/
def flagEntry (name : String) (flag : Char) : Entry :=
  .getter name fun c => do
    match c.this with
    | .object r =>
      match (← object r).kind with
      | .regexp _ flags _ => pure (.bool (hasFlag flags flag))
      | _ => pure .undefined
    | _ => throwType "not an object"

/-- A pattern as a program would write it. -/
def sourceText (source : String) : String :=
  if source.isEmpty then "(?:)"
  else String.ofList (go false source.toList)
where
  /-- The characters, slashes outside brackets marked. -/
  go (inSet : Bool) : List Char → List Char
    | [] => []
    | '\\' :: c :: cs => '\\' :: c :: go inSet cs
    | '/' :: cs => if inSet then '/' :: go inSet cs else '\\' :: '/' :: go inSet cs
    | '\n' :: cs => '\\' :: 'n' :: go inSet cs
    | '[' :: cs => '[' :: go true cs
    | ']' :: cs => ']' :: go false cs
    | c :: cs => c :: go inSet cs

/-- What regular expressions can do. -/
def regexpMethods : List Entry :=
  [.method "exec" 1 fun c => do
      let text ← toText (c.argument 0)
      execute c.this text,
   .method "test" 1 fun c => do
      let text ← toText (c.argument 0)
      match ← executeBy c.this text with
      | .null => pure (.bool false)
      | _ => pure (.bool true),
   .method "toString" 0 fun c => do
      let source ← toText (← get c.this (.text "source"))
      pure (.string ("/" ++ source ++ "/" ++ (← flagsOf c.this))),
   .method "compile" 2 fun c => pure c.this,
   .getter "source" fun c => do
      match c.this with
      | .object r =>
        match (← object r).kind with
        | .regexp source _ _ => pure (.string (sourceText source))
        | _ => pure (.string "(?:)")
      | _ => throwType "not an object",
   .getter "flags" fun c => do
      let flags := [("hasIndices", 'd'), ("global", 'g'), ("ignoreCase", 'i'), ("multiline", 'm'),
        ("dotAll", 's'), ("unicode", 'u'), ("unicodeSets", 'v'), ("sticky", 'y')]
      let set ← flags.filterMapM fun (name, flag) => do
        pure (if (← get c.this (.text name)).truth then some flag else none)
      pure (.string (String.ofList set)),
   flagEntry "global" 'g', flagEntry "ignoreCase" 'i', flagEntry "multiline" 'm',
   flagEntry "dotAll" 's', flagEntry "unicode" 'u', flagEntry "sticky" 'y',
   flagEntry "hasIndices" 'd', flagEntry "unicodeSets" 'v'] ++ regexpTextMethods

/-- Regular expressions. -/
def regexps : Family :=
  { name := "RegExp", length := 2, proto := .regexpPrototype, place? := some .regexpConstructor
    parent? := none
    make := fun c => do
      let given? ← match c.argument 0 with
        | .object r => do
          match (← object r).kind with
          | .regexp source flags _ => pure (some (source, flags))
          | _ => pure none
        | _ => pure none
      if c.target?.isNone && given?.isSome && (c.argument 1).isUndefined then pure (c.argument 0)
      else
        let source ← match given? with
          | some (source, _) => pure source
          | none => if (c.argument 0).isUndefined then pure "" else toText (c.argument 0)
        let flags ← if (c.argument 1).isUndefined then pure (given?.elim "" Prod.snd)
          else toText (c.argument 1)
        let proto ← match c.target? with
          | some t => protoFor t .regexpPrototype
          | none => pure Wellknown.regexpPrototype.ref
        makeRegexp source flags proto
    statics :=
      [speciesEntry,
       .method "escape" 1 fun c => do
          match c.argument 0 with
          | .string s =>
            pure (.string (String.ofList (s.toList.flatMap fun ch =>
              if "^$\\.*+?()[]\x7b\x7d|/".toList.contains ch then ['\\', ch] else [ch])))
          | _ => throwType "not a string"]
    constants := [], methods := regexpMethods, tag? := none }

/-- The method that gives the next match. -/
def nextMatchEntry : Entry :=
  .method "next" 0 fun c => do
    let (r, w) ← thisWalk c .regexpIteratorPrototype "RegExp String Iterator"
    match w with
    | .found pattern text global unicode =>
      match ← executeBy pattern text with
      | .object m =>
        if !global then setWalk r .over
        else if (← toText (← getOf m (.index 0))).isEmpty then
          match pattern with
          | .object p =>
            let i ← toLength (← getText p "lastIndex")
            setLastIndex p (nextPlace (Script.units text) i unicode)
          | _ => pure ()
        iterResult (.object m) false
      | _ =>
        setWalk r .over
        iterResult .undefined true
    | _ => iterResult .undefined true

end Library

end Engine

end NotebookEngine
