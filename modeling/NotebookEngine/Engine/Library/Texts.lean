/-
**Texts of the library.**

Places in a text are counted in code units.

Main definitions:

* `Library.substitute` — the text that replaces a match;
* `Library.texts` — texts.
-/

import NotebookEngine.Engine.Library.Entry
import NotebookEngine.Text.Case
import NotebookEngine.Text.Decomposition

set_option autoImplicit false

namespace NotebookEngine

namespace Engine

namespace Library

open Act

/-! ### Searching -/

/-- Whether units stand at a place among others. -/
def unitsAt (text part : Array Nat) (i : Nat) : Bool :=
  i + part.size ≤ text.size && (List.range part.size).all fun j => text[i + j]? = part[j]?

/-- The first place from some place on at which units stand among others. -/
def findUnits (text part : Array Nat) : Nat → Nat → Option Nat
  | 0, _ => none
  | fuel + 1, i =>
    if i + part.size > text.size then none
    else if unitsAt text part i then some i
    else findUnits text part fuel (i + 1)

/-- The first place from some place on at which a text stands in another. -/
def findText (text part : Array Nat) (start : Nat) : Option Nat :=
  findUnits text part (text.size + 1) start

/-- The last place up to some place at which a text stands in another. -/
def findLastText (text part : Array Nat) : Nat → Option Nat
  | 0 => if unitsAt text part 0 then some 0 else none
  | i + 1 => if unitsAt text part (i + 1) then some (i + 1) else findLastText text part i

/-- Whether a value counts as a regular expression. -/
def countsAsPattern (v : Value) : Act Bool := do
  match v with
  | .object r =>
    let matches? ← getOf r WellknownSymbol.match.key
    if matches?.isUndefined then
      match (← object r).kind with
      | .regexp _ _ _ => pure true
      | _ => pure false
    else pure matches?.truth
  | _ => pure false

/-- An argument that must be no regular expression. -/
def plainText (v : Value) : Act String := do
  if ← countsAsPattern v then throwType "regexp not supported" else toText v

/-- A regular expression that is to find every match must be made to. -/
def needEvery (v : Value) : Act Unit := do
  if ← countsAsPattern v then
    let flags ← get v (.text "flags")
    if flags.isNothing then throwType "cannot convert to object"
    if !(← toText flags).toList.contains 'g' then throwType "regexp must have the 'g' flag"

/-! ### Replacing -/

/-- What a match is, as its replacement may use it. -/
structure Matched where
  text : Array Nat
  start : Nat
  stop : Nat
  groups : List (Option String)
  names : Value
  deriving Inhabited

/-- The text of a replacement, in which marks stand for parts of the match. -/
def substitute (m : Matched) : Nat → List Char → String → Act String
  | 0, _, acc => pure acc
  | _, [], acc => pure acc
  | fuel + 1, '$' :: c :: cs, acc => do
    let group (n : Nat) : Option String :=
      if 1 ≤ n && n ≤ m.groups.length then some ((m.groups[n - 1]?.join).getD "") else none
    if c = '$' then substitute m fuel cs (acc.push '$')
    else if c = '&' then
      substitute m fuel cs (Script.append acc (Script.ofUnitsBetween m.text m.start m.stop))
    else if c = '\x60' then
      substitute m fuel cs (Script.append acc (Script.ofUnitsBetween m.text 0 m.start))
    else if c = '\'' then
      substitute m fuel cs (Script.append acc (Script.ofUnitsBetween m.text m.stop m.text.size))
    else if c.isDigit then
      let one := c.toNat - 48
      let two := match cs with
        | d :: rest => if d.isDigit then some (one * 10 + (d.toNat - 48), rest) else none
        | [] => none
      match two.bind fun (n, rest) => (group n).map fun t => (t, rest) with
      | some (t, rest) => substitute m fuel rest (Script.append acc t)
      | none =>
        match group one with
        | some t => substitute m fuel cs (Script.append acc t)
        | none => substitute m fuel (c :: cs) (acc.push '$')
    else if c = '<' && !m.names.isUndefined then
      let name := cs.takeWhile fun d => d ≠ '>'
      match cs.drop name.length with
      | '>' :: rest =>
        let v ← get m.names (.ofString (String.ofList name))
        let t ← if v.isUndefined then pure "" else toText v
        substitute m fuel rest (Script.append acc t)
      | _ => substitute m fuel (c :: cs) (acc.push '$')
    else substitute m fuel (c :: cs) (acc.push '$')
  | fuel + 1, c :: cs, acc => substitute m fuel cs (acc.push c)

/-- The replacement of one match of a plain text. -/
def replacementFor (f : Value) (isFunction : Bool) (pattern : String) (m : Matched) : Act String := do
  if isFunction then
    toText (← call f .undefined
      [.string pattern, .ofNat m.start, .string (Script.ofUnits m.text.toList)])
  else
    let t ← toText f
    substitute m (t.length + 1) t.toList ""

/-- A text with one or all of the places of another one replaced. -/
def replaceText (all : Bool) (c : Call) : Act Value := do
  let text ← thisText c
  let pattern ← toText (c.argument 0)
  let f := c.argument 1
  let isFunction ← isCallable f
  let f ← if isFunction then pure f else do pure (Value.string (← toText f))
  let us := Script.units text
  let ps := Script.units pattern
  loop (0, 0, "") fun (from', done, acc) => do
    match findText us ps from' with
    | none => pure (.ok (.string (Script.append acc (Script.ofUnitsBetween us done us.size))))
    | some i =>
      let m : Matched := ⟨us, i, i + ps.size, [], .undefined⟩
      let replacement ← replacementFor f isFunction pattern m
      let acc := Script.append (Script.append acc (Script.ofUnitsBetween us done i)) replacement
      let done := i + ps.size
      if all && i + max ps.size 1 ≤ us.size then pure (.error (i + max ps.size 1, done, acc))
      else pure (.ok (.string (Script.append acc (Script.ofUnitsBetween us done us.size))))

/-- Have the method of a pattern under a symbol do the work, if it has one. -/
def delegated (s : WellknownSymbol) (c : Call) (every : Bool) (otherwise : Act Value) : Act Value := do
  if c.this.isNothing then throwType "cannot convert to object"
  match c.argument 0 with
  | .object r =>
    let f ← getOf r s.key
    if every then needEvery (c.argument 0)
    if f.isNothing then otherwise
    else
      needFunction f
      call f (c.argument 0) (c.this :: c.arguments.tail)
  | _ => otherwise

/-- Have a new regular expression do the work. -/
def byRegexp (s : WellknownSymbol) (c : Call) (flags : String) : Act Value := do
  let text ← thisText c
  let pattern ← if (c.argument 0).isUndefined then pure "" else toText (c.argument 0)
  let f ← makeRegexp pattern flags Wellknown.regexpPrototype.ref
  call (← get f s.key) f [.string text]

/-! ### Parts -/

/-- A text filled up at one side to a length. -/
def padText (c : Call) (atEnd : Bool) : Act Value := do
  let text ← thisText c
  let length ← toLength (c.argument 0)
  let fill ← if (c.argument 1).isUndefined then pure " " else toText (c.argument 1)
  let us := Script.units text
  let fs := Script.units fill
  if length ≤ us.size || fs.isEmpty then pure (.string text)
  else if length > 1073741823 then throwRange "invalid string length"
  else
    let missing := length - us.size
    let padding := ((List.range missing).map fun i => fs[i % fs.size]?.getD 32)
    let padded := if atEnd then us.toList ++ padding else padding ++ us.toList
    pure (.string (Script.ofUnits padded))

/-- A text without the blanks at its start and its end. -/
def trimText (atStart atEnd : Bool) (s : String) : String :=
  let cs := if atStart then s.toList.dropWhile Numeral.isGap else s.toList
  let cs := if atEnd then (cs.reverse.dropWhile Numeral.isGap).reverse else cs
  String.ofList cs

/-- The pieces of a text between the places of another one. -/
def splitText (text sep : String) : List String :=
  if sep.isEmpty then (Script.units text).toList.map fun u => Script.ofUnits [u]
  else
    let us := Script.units text
    let ps := Script.units sep
    go us ps (us.size + 1) 0
where
  /-- The pieces from a place on. -/
  go (us ps : Array Nat) : Nat → Nat → List String
    | 0, _ => []
    | fuel + 1, i =>
      match findText us ps i with
      | some j => Script.ofUnitsBetween us i j :: go us ps fuel (j + ps.size)
      | none => [Script.ofUnitsBetween us i us.size]

/-- A text repeated. -/
def repeatText (s : String) (n : Nat) : String := (List.range n).foldl (fun acc _ => Script.append acc s) ""

/-- The code points of a text whose characters are put together, half units as they are. -/
def composedCodes (s : String) : List Nat :=
  (Decomposition.normalize ⟨false, true⟩ s).toList.map fun c => (Script.halfUnit? c).getD c.toNat

/-- The comparison of two texts as a reader would order them. -/
def compareTexts (s t : String) : Float :=
  match compare (composedCodes s) (composedCodes t) with
  | .lt => -1
  | .eq => 0
  | .gt => 1

/-! ### Texts -/

/-- The unit at a place that a number tells. -/
def placedUnit? (s : String) (x : Float) : Option Nat :=
  if x < 0 || x.isInf then none else Script.unitAt? s x.toUInt64.toNat

/-- The methods of texts. -/
def textMethods : List Entry :=
  [.method "at" 1 fun c => do
      let s ← thisText c
      let x ← toWhole (c.argument 0)
      let x := if x < 0 then x + Float.ofNat (Script.unitCount s) else x
      pure ((placedUnit? s x).elim .undefined fun u => .string (Script.ofUnits [u])),
   .method "charAt" 1 fun c => do
      let s ← thisText c
      let x ← toWhole (c.argument 0)
      pure (.string ((placedUnit? s x).elim "" fun u => Script.ofUnits [u])),
   .method "charCodeAt" 1 fun c => do
      let s ← thisText c
      let x ← toWhole (c.argument 0)
      pure ((placedUnit? s x).elim (.number Script.nan) .ofNat),
   .method "codePointAt" 1 fun c => do
      let s ← thisText c
      let x ← toWhole (c.argument 0)
      if x < 0 || x.isInf then pure .undefined
      else
        let i := x.toUInt64.toNat
        match Script.unitAt? s i, Script.unitAt? s (i + 1) with
        | some hi, some lo =>
          if Script.opensPair hi && Script.closesPair lo then
            pure (.ofNat (Script.charOfPair hi lo).toNat)
          else pure (.ofNat hi)
        | some u, none => pure (.ofNat u)
        | none, _ => pure .undefined,
   .method "concat" 1 fun c => do
      let text ← thisText c
      let parts ← c.arguments.mapM toText
      pure (.string (Script.appendAll (text :: parts))),
   .method "endsWith" 1 fun c => do
      let us := Script.units (← thisText c)
      let ps := Script.units (← plainText (c.argument 0))
      let stop ← if (c.argument 1).isUndefined then pure us.size
        else do
          let x ← toWhole (c.argument 1)
          pure (if x < 0 then 0 else clampIndex x us.size)
      pure (.bool (ps.size ≤ stop && unitsAt us ps (stop - ps.size))),
   .method "includes" 1 fun c => do
      let us := Script.units (← thisText c)
      let ps := Script.units (← plainText (c.argument 0))
      let x ← toWhole (c.argument 1)
      let start := if x < 0 then 0 else clampIndex x us.size
      pure (.bool (findText us ps start).isSome),
   .method "indexOf" 1 fun c => do
      let us := Script.units (← thisText c)
      let ps := Script.units (← toText (c.argument 0))
      let x ← toWhole (c.argument 1)
      let start := if x < 0 then 0 else clampIndex x us.size
      pure ((findText us ps start).elim (.number (-1)) .ofNat),
   .method "isWellFormed" 0 fun c => do
      pure (.bool ((← thisText c).toList.all fun ch => (Script.halfUnit? ch).isNone)),
   .method "toWellFormed" 0 fun c => do
      pure (.string ((← thisText c).map fun ch =>
        if (Script.halfUnit? ch).isSome then Char.ofNat 0xFFFD else ch)),
   .method "lastIndexOf" 1 fun c => do
      let us := Script.units (← thisText c)
      let ps := Script.units (← toText (c.argument 0))
      let x ← toNumber (c.argument 1)
      let limit := us.size - ps.size
      let start := if x.isNaN then limit else if x < 0 then 0 else min limit (clampIndex (wholePart x) us.size)
      if ps.size > us.size then pure (.number (-1))
      else pure ((findLastText us ps start).elim (.number (-1)) .ofNat),
   .method "localeCompare" 1 fun c => do
      let s ← thisText c
      let t ← toText (c.argument 0)
      pure (.number (compareTexts s t)),
   .method "match" 1 fun c => delegated .match c false (byRegexp .match c ""),
   .method "matchAll" 1 fun c => delegated .matchAll c true (byRegexp .matchAll c "g"),
   .method "normalize" 0 fun c => do
      let s ← thisText c
      let form ← if (c.argument 0).isUndefined then pure "NFC" else toText (c.argument 0)
      match Decomposition.Form.ofName? form with
      | some f => pure (.string (Decomposition.normalize f s))
      | none => throwRange "bad normalization form",
   .method "padEnd" 1 fun c => padText c true,
   .method "padStart" 1 fun c => padText c false,
   .method "repeat" 1 fun c => do
      let s ← thisText c
      let x ← toWhole (c.argument 0)
      if x < 0 || x.isInf then throwRange "invalid repeat count"
      else if x * Float.ofNat (Script.unitCount s) > 1073741823 then
        throwRange "invalid string length"
      else pure (.string (repeatText s x.toUInt64.toNat)),
   .method "replace" 2 fun c => delegated .replace c false (replaceText false c),
   .method "replaceAll" 2 fun c => delegated .replace c true (replaceText true c),
   .method "search" 1 fun c => delegated .search c false (byRegexp .search c ""),
   .method "slice" 2 fun c => do
      let s ← thisText c
      let n := Script.unitCount s
      let start ← relativeIndex (c.argument 0) n 0
      let stop ← relativeIndex (c.argument 1) n n
      pure (.string (Script.slice s start stop)),
   .method "split" 2 fun c => delegated .split c false do
      let text ← thisText c
      let limit ← if (c.argument 1).isUndefined then pure (Nat.pow 2 32 - 1)
        else do pure (Script.toUint32 (← toNumber (c.argument 1)))
      if (c.argument 0).isUndefined then newArray ([Value.string text].take limit)
      else
        let sep ← toText (c.argument 0)
        newArray (((splitText text sep).map .string).take limit),
   .method "startsWith" 1 fun c => do
      let us := Script.units (← thisText c)
      let ps := Script.units (← plainText (c.argument 0))
      let x ← toWhole (c.argument 1)
      pure (.bool (unitsAt us ps (if x < 0 then 0 else clampIndex x us.size))),
   .method "substring" 2 fun c => do
      let s ← thisText c
      let n := Script.unitCount s
      let place (v : Value) (missing : Nat) : Act Nat := do
        if v.isUndefined then pure missing
        else
          let x ← toWhole v
          pure (if x < 0 then 0 else clampIndex x n)
      let a ← place (c.argument 0) 0
      let b ← place (c.argument 1) n
      pure (.string (Script.slice s (min a b) (max a b))),
   .method "substr" 2 fun c => do
      let s ← thisText c
      let n := Script.unitCount s
      let start ← relativeIndex (c.argument 0) n 0
      let length ← if (c.argument 1).isUndefined then pure n
        else do
          let x ← toWhole (c.argument 1)
          pure (if x < 0 then 0 else clampIndex x n)
      pure (.string (Script.slice s start (start + length))),
   .method "toLocaleLowerCase" 0 fun c => do pure (.string (Case.lower (← thisText c))),
   .method "toLocaleUpperCase" 0 fun c => do pure (.string (Case.upper (← thisText c))),
   .method "toLowerCase" 0 fun c => do pure (.string (Case.lower (← thisText c))),
   .method "toUpperCase" 0 fun c => do pure (.string (Case.upper (← thisText c))),
   .method "toString" 0 ownText,
   .method "valueOf" 0 ownText,
   .method "trim" 0 fun c => do pure (.string (trimText true true (← thisText c))),
   .method "trimEnd" 0 fun c => do pure (.string (trimText false true (← thisText c))),
   .method "trimStart" 0 fun c => do pure (.string (trimText true false (← thisText c))),
   .symbolic .iterator 0 fun c => do
      let s ← thisText c
      pure (.object (← allocate
        (.make (some Wellknown.stringIteratorPrototype.ref) (.iterator (.letters s.toList)))))]
where
  /-- The text that a value is, or that is kept in an object. -/
  ownText (c : Call) : Act Value := do
    match c.this with
    | .string s => pure (.string s)
    | .object r =>
      match (← object r).kind with
      | .boxed (.string s) => pure (.string s)
      | _ => throwType "not a string"
    | _ => throwType "not a string"

/-- Methods that put a text between two marks, the first of which may hold an argument. -/
def markMethods : List Entry :=
  [("anchor", "a", some "name"), ("big", "big", none), ("blink", "blink", none), ("bold", "b", none),
   ("fixed", "tt", none), ("fontcolor", "font", some "color"), ("fontsize", "font", some "size"),
   ("italics", "i", none), ("link", "a", some "href"), ("small", "small", none),
   ("strike", "strike", none), ("sub", "sub", none), ("sup", "sup", none)].map
    fun (name, tag, part?) =>
      .method name (if part?.isSome then 1 else 0) fun c => do
        let s ← thisText c
        let part ← match part? with
          | some part => do
            let value := (← toText (c.argument 0)).replace "\"" "&quot;"
            pure (" " ++ part ++ "=\"" ++ value ++ "\"")
          | none => pure ""
        pure (.string ("<" ++ tag ++ part ++ ">" ++ s ++ "</" ++ tag ++ ">"))

/-- What the constructor of texts holds. -/
def textStatics : List Entry :=
  [.method "fromCharCode" 1 fun c => do
      let us ← c.arguments.mapM fun v => do pure (Script.toUint32 (← toNumber v) % 65536)
      pure (.string (Script.ofUnits us)),
   .method "fromCodePoint" 1 fun c => do
      let cs ← c.arguments.mapM fun v => do
        let x ← toNumber v
        if x.floor == x && x ≥ 0 && x ≤ 1114111 then pure (Script.charOfCode x.toUInt64.toNat)
        else throwRange "invalid code point"
      pure (.string (String.ofList (Script.joinHalves cs))),
   .method "raw" 1 fun c => do
      let texts ← toObject (c.argument 0)
      let raw ← toObject (← getText texts "raw")
      let n ← lengthOf raw
      loop (0, "") fun (i, acc) => do
        if i < n then
          let acc := Script.append acc (← toText (← getOf raw (.index i)))
          if i + 1 < n && i + 1 < c.arguments.length then
            pure (.error (i + 1, Script.append acc (← toText (c.argument (i + 1)))))
          else pure (.error (i + 1, acc))
        else pure (.ok (.string acc))]

/-- The text of an argument of the constructor of texts. -/
def describedText (v : Value) : Act String := do
  match v with
  | .symbol id => do
    let d ← read fun w => (w.symbols[id]?).join
    pure ("Symbol(" ++ d.getD "" ++ ")")
  | _ => toText v

/-- Texts. -/
def texts : Family :=
  { name := "String", length := 1, proto := .stringPrototype, place? := none, parent? := none
    make := fun c => do
      match c.target? with
      | none =>
        match c.arguments with
        | [] => pure (.string "")
        | v :: _ => pure (.string (← describedText v))
      | some _ =>
        let s ← match c.arguments with
          | [] => pure ""
          | v :: _ => toText v
        pure (.object (← makeOf c .stringPrototype (.boxed (.string s))))
    statics := textStatics, constants := [], methods := textMethods ++ markMethods, tag? := none
    aliases := [(.text "trimLeft", "trimStart"), (.text "trimRight", "trimEnd")] }

end Library

end Engine

end NotebookEngine
