/-
**Regular expressions.**

A pattern is matched by trying its alternatives in order and going back on failure.  What follows a part
of the pattern is passed along as a function, so that a part can be asked for its next way to match.

Main definitions:

* `Regex.Pattern` — patterns;
* `Regex.Flags` — how a pattern is matched;
* `Regex.parse` — the pattern that a text writes;
* `Regex.Program.matchAt` — the groups of a match that starts at a place.
-/

import NotebookEngine.Text.Units
import NotebookEngine.Text.Case
import NotebookEngine.Text.Blank
import NotebookEngine.Text.LetterProperty

set_option autoImplicit false

namespace NotebookEngine

namespace Regex

/-! ### Patterns -/

/-- A pattern. Letters are numbers: code units, or code points if the pattern counts in those. -/
inductive Pattern where
  | empty
  | letter (n : Nat)
  /-- Any letter; line ends only count if a flag says so. -/
  | any
  | set (negated : Bool) (ranges : List (Nat × Nat))
  | start
  | finish
  | boundary (negated : Bool)
  | sequence (first second : Pattern)
  | choice (first second : Pattern)
  /-- A group whose match is kept. -/
  | group (index : Nat) (body : Pattern)
  /-- A condition on what comes after or before. -/
  | look (ahead negated : Bool) (body : Pattern)
  /-- What an earlier group matched. -/
  | reference (index : Nat)
  /-- A repeated pattern; the groups from `low` to before `high` lie in it. -/
  | repeat (body : Pattern) (least : Nat) (most : Option Nat) (greedy : Bool) (low high : Nat)
  deriving Inhabited, DecidableEq

/-- How a pattern is matched. -/
structure Flags where
  ignoreCase : Bool
  multiline : Bool
  dotAll : Bool
  unicode : Bool
  deriving Inhabited, DecidableEq

/-- A pattern with all that is needed to match it. -/
structure Program where
  pattern : Pattern
  flags : Flags
  /-- The number of groups, the whole match included. -/
  groups : Nat
  names : List (String × Nat)
  deriving Inhabited, DecidableEq

/-! ### Classes of letters -/

/-- Digits. -/
def digits : List (Nat × Nat) := [(48, 57)]

/-- Letters of words. -/
def wordLetters : List (Nat × Nat) := [(48, 57), (65, 90), (95, 95), (97, 122)]

/-- Blanks. -/
def blanks : List (Nat × Nat) :=
  [(9, 13), (32, 32), (160, 160), (0x1680, 0x1680), (0x2000, 0x200A), (0x2028, 0x2029),
   (0x202F, 0x202F), (0x205F, 0x205F), (0x3000, 0x3000), (0xFEFF, 0xFEFF)]

/-- The letters of a class by its name. -/
def classOf (name : Char) : Option (List (Nat × Nat)) :=
  match name with
  | 'd' => some digits
  | 'D' => some (LetterProperty.complement digits)
  | 'w' => some wordLetters
  | 'W' => some (LetterProperty.complement wordLetters)
  | 's' => some blanks
  | 'S' => some (LetterProperty.complement blanks)
  | _ => none

/-! ### Reading patterns -/

/-- Why a text is no pattern. -/
inductive Fault where
  | unexpectedEnd
  | nothingToRepeat
  | expecting (c : Char)
  | extraneous
  | invalidRange
  | invalidEscape
  | invalidGroup
  | invalidGroupName
  | duplicateName
  | undefinedName
  | missingName
  | referenceOutOfRange
  | misplacedSign
  | unknownProperty
  | invalidRepeat
  | invalidSetLetter
  | invalidSetOperation
  | invalidDecimal
  deriving DecidableEq, Inhabited

/-- The text of a fault. -/
def Fault.message : Fault → String
  | .unexpectedEnd => "unexpected end"
  | .nothingToRepeat => "nothing to repeat"
  | .expecting c => "expecting '" ++ c.toString ++ "'"
  | .extraneous => "extraneous characters at the end"
  | .invalidRange => "invalid class range"
  | .invalidEscape => "invalid escape sequence in regular expression"
  | .invalidGroup => "invalid group"
  | .invalidGroupName => "invalid group name"
  | .duplicateName => "duplicate group name"
  | .missingName => "expecting group name"
  | .undefinedName => "group name not defined"
  | .referenceOutOfRange => "back reference out of range in regular expression"
  | .misplacedSign => "syntax error"
  | .unknownProperty => "unknown unicode property name"
  | .invalidRepeat => "invalid repetition count"
  | .invalidSetLetter => "invalid character in class in regular expression"
  | .invalidSetOperation => "invalid class set operation in regular expression"
  | .invalidDecimal => "invalid decimal escape in regular expression"

/-- What the reader of a pattern knows. -/
structure Reading where
  rest : List Char
  unicode : Bool
  /-- Letters that might join sets are no plain members of a set. -/
  strictSets : Bool
  /-- The next group's number. -/
  next : Nat
  names : List (String × Nat)
  /-- The names of all groups of the pattern. -/
  known : List (String × Nat)
  /-- The number of groups of the pattern. -/
  total : Nat

/-- A reader of a part of a pattern. -/
abbrev Reader := EStateM Fault Reading

/-- The next character, which stays. -/
def peek : Reader (Option Char) := do pure (← get).rest.head?

/-- The next character, which is taken. -/
def take : Reader (Option Char) := fun s =>
  match s.rest with
  | [] => .ok none s
  | c :: rest => .ok (some c) { s with rest }

/-- Take a text if it comes next. -/
def takeText (text : String) : Reader Bool := fun s =>
  if text.toList.isPrefixOf s.rest then .ok true { s with rest := s.rest.drop text.length }
  else .ok false s

/-- Take the decimal number that comes next. -/
def takeNumber : Reader (Option Nat) := fun s =>
  let ds := s.rest.takeWhile Char.isDigit
  if ds.isEmpty then .ok none s
  else
    .ok (some (ds.foldl (fun n d => n * 10 + (d.toNat - 48)) 0))
      { s with rest := s.rest.drop ds.length }

/-- Take a number of hexadecimal digits. -/
def takeHex (count : Nat) : Reader (Option Nat) := fun s =>
  match Script.hexValue? (s.rest.take count) with
  | some n => if (s.rest.take count).length = count then .ok (some n) { s with rest := s.rest.drop count }
    else .ok none s
  | none => .ok none s

/-- Take a name in angle brackets, the first of which has been taken. -/
def takeName : Reader String := fun s =>
  let name := s.rest.takeWhile fun c => Script.isIdentifierPart c
  match s.rest.drop name.length with
  | '>' :: rest =>
    if name.isEmpty || name.head?.any Char.isDigit then .error .invalidGroupName s
    else .ok (String.ofList name) { s with rest }
  | _ => .error .invalidGroupName s

/-- The second half of a pair, written as an escape. -/
def takeLowHalf : Reader (Option Nat) := fun s =>
  match s.rest with
  | '\\' :: 'u' :: rest =>
    match Script.hexValue? (rest.take 4) with
    | some n => if Script.closesPair n then .ok (some n) { s with rest := rest.drop 4 } else .ok none s
    | none => .ok none s
  | _ => .ok none s

/-- The letter of an escape whose letter `u` has been taken. -/
def unicodeLetter : Reader Nat := do
  let s ← get
  match s.rest with
  | '\x7b' :: rest =>
    if s.unicode then
      let ds := rest.takeWhile fun c => c ≠ '\x7d'
      match Script.hexValue? ds with
      | some n =>
        if ds.isEmpty || n > 0x10ffff || ds.length = rest.length then throw .invalidEscape
        else
          set { s with rest := rest.drop (ds.length + 1) }
          pure n
      | none => throw .invalidEscape
    else pure 117
  | _ =>
    match ← takeHex 4 with
    | some n =>
      if s.unicode && Script.opensPair n then
        match ← takeLowHalf with
        | some lo => pure (Script.charOfPair n lo).toNat
        | none => pure n
      else pure n
    | none => if s.unicode then throw .invalidEscape else pure 117

/-- The ranges of a property whose escape's first letter has been taken. -/
def propertyClass (negated : Bool) : Reader (List (Nat × Nat)) := do
  if ← takeText "\x7b" then
    let s ← get
    let name := String.ofList (s.rest.takeWhile fun c => c ≠ '\x7d')
    set { s with rest := s.rest.drop (name.length + 1) }
    match LetterProperty.ranges? name with
    | some ranges => pure (if negated then LetterProperty.complement ranges else ranges)
    | none => throw .unknownProperty
  else throw (.expecting '\x7b')

/-- The letter that up to three octal digits write, the first of which has been taken. -/
def octalLetter (first : Char) : Reader Nat := fun s =>
  let isOctal (c : Char) : Bool := '0' ≤ c && c ≤ '7'
  let add (n : Nat) (c : Char) : Nat := n * 8 + (c.toNat - 48)
  let n := first.toNat - 48
  match s.rest with
  | c :: d :: rest =>
    if !isOctal c then .ok n s
    else if isOctal d && add n c < 32 then .ok (add (add n c) d) { s with rest }
    else .ok (add n c) { s with rest := d :: rest }
  | [c] => if isOctal c then .ok (add n c) { s with rest := [] } else .ok n s
  | [] => .ok n s

/-- The number of a letter, which may be half of a pair. -/
def letterCode (c : Char) : Nat := (Script.halfUnit? c).getD c.toNat

/-- The letter of an escape that stands for one letter, outside of sets or in one. -/
def letterEscape (inSet : Bool) (c : Char) : Reader Nat := do
  match c with
  | 'n' => pure 10
  | 'r' => pure 13
  | 't' => pure 9
  | 'v' => pure 11
  | 'f' => pure 12
  | '0' =>
    let s ← get
    if s.unicode then
      if s.rest.head?.any Char.isDigit then throw .invalidDecimal else pure 0
    else octalLetter '0'
  | 'x' =>
    match ← takeHex 2 with
    | some n => pure n
    | none => if (← get).unicode then throw .invalidEscape else pure 120
  | 'u' => unicodeLetter
  | 'c' =>
    let s ← get
    match s.rest with
    | d :: rest =>
      if d.isAlpha || ((d.isDigit || d = '_') && inSet && !s.unicode) then
        set { s with rest }
        pure (d.toNat % 32)
      else plainControl s
    | [] => plainControl s
  | c =>
    let isSign := "^$\\.*+?()[]\x7b\x7d|/".toList.contains c || (c = '-' && inSet)
    if (← get).unicode && !isSign then throw .invalidEscape else pure (letterCode c)
where
  /-- A backslash before a `c` that names no control letter stands for itself. -/
  plainControl (s : Reading) : Reader Nat := do
    if s.unicode then throw .invalidEscape
    set { s with rest := 'c' :: s.rest }
    pure 92

/-- A letter within brackets may be one that sets are joined by, which is refused where that counts. -/
def checkSetLetter (c : Char) : Reader Unit := do
  let s ← get
  if s.strictSets then
    if "()[\x7b\x7d/-|".toList.contains c then throw .invalidSetLetter
    else if "&!#$%*+,.:;<=>?@^\x60~".toList.contains c && s.rest.head? = some c then
      throw .invalidSetOperation

/-- A letter or a class within brackets: its ranges, and the letter if it is one. -/
def setItem (c : Char) : Reader (List (Nat × Nat) × Option Nat) := do
  if c ≠ '\\' then
    checkSetLetter c
    pure ([(letterCode c, letterCode c)], some (letterCode c))
  else
    match ← take with
    | none => throw .unexpectedEnd
    | some d =>
      match classOf d with
      | some ranges => pure (ranges, none)
      | none =>
        if (d = 'p' || d = 'P') && (← get).unicode then pure (← propertyClass (d = 'P'), none)
        else if d = 'b' then pure ([(8, 8)], some 8)
        else if d = '-' then pure ([(45, 45)], some 45)
        else if d.isDigit && d < '8' && !(← get).unicode then
          let n ← octalLetter d
          pure ([(n, n)], some n)
        else
          let n ← if d = '0' && (← peek).any Char.isDigit then throw .invalidEscape
            else letterEscape true d
          pure ([(n, n)], some n)

/-- The ranges of a set whose opening bracket has been taken. -/
def setRanges : Nat → List (Nat × Nat) → Reader (List (Nat × Nat))
  | 0, _ => throw .unexpectedEnd
  | fuel + 1, ranges => do
    match ← take with
    | none => throw .unexpectedEnd
    | some ']' => pure ranges.reverse
    | some c =>
      let (first, low?) ← setItem c
      let s ← get
      match s.rest, low? with
      | '-' :: ']' :: _, _ => setRanges fuel (first.reverse ++ ranges)
      | '-' :: _ :: _, none =>
        if s.unicode then throw .invalidRange else setRanges fuel (first.reverse ++ ranges)
      | '-' :: d :: rest, some low =>
        set { s with rest }
        let (second, high?) ← setItem d
        match high? with
        | some high =>
          if high < low then throw .invalidRange else setRanges fuel ((low, high) :: ranges)
        | none =>
          if s.unicode then throw .invalidRange
          setRanges fuel (second.reverse ++ (45, 45) :: (first.reverse ++ ranges))
      | _, _ => setRanges fuel (first.reverse ++ ranges)

/-- How often a part is repeated. -/
structure Repetition where
  least : Nat
  most : Option Nat

/-- The numbers of a repetition in braces, the first of which has been taken. -/
def braces : Reader (Option Repetition) := fun s =>
  match takeNumber s with
  | .ok (some least) s' =>
    match s'.rest with
    | '\x7d' :: rest => .ok (some ⟨least, some least⟩) { s' with rest }
    | ',' :: '\x7d' :: rest => .ok (some ⟨least, none⟩) { s' with rest }
    | ',' :: rest =>
      match takeNumber { s' with rest } with
      | .ok (some most) s'' =>
        match s''.rest with
        | '\x7d' :: rest => .ok (some ⟨least, some most⟩) { s'' with rest }
        | _ => .ok none s
      | _ => .ok none s
    | _ => .ok none s
  | _ => .ok none s

/-- The repetition that comes next, if any. -/
def repetition? : Reader (Option Repetition) := fun s =>
  match s.rest with
  | '*' :: rest => .ok (some ⟨0, none⟩) { s with rest }
  | '+' :: rest => .ok (some ⟨1, none⟩) { s with rest }
  | '?' :: rest => .ok (some ⟨0, some 1⟩) { s with rest }
  | '\x7b' :: rest =>
    match braces { s with rest } with
    | .ok (some r) s' => .ok (some r) s'
    | _ =>
      if !s.unicode then .ok none s
      else if rest.head?.any Char.isDigit then .error (.expecting '\x7d') s
      else .error .invalidRepeat s
  | _ => .ok none s

/-- A part followed by how often it is repeated, if at all. -/
def repeated (part : Pattern) (low : Nat) : Reader Pattern := do
  match ← repetition? with
  | none => pure part
  | some r =>
    let lazy ← takeText "?"
    match r.most with
    | some most => if most < r.least then throw .invalidRepeat
    | none => pure ()
    pure (.repeat part r.least r.most (!lazy) low (← get).next)

mutual

/-- Alternatives, up to a closing bracket or the end. -/
def alternatives : Nat → Reader Pattern
  | 0 => throw .unexpectedEnd
  | fuel + 1 => do
    let first ← terms fuel .empty
    if ← takeText "|" then pure (.choice first (← alternatives fuel)) else pure first

/-- Parts one after the other. -/
def terms : Nat → Pattern → Reader Pattern
  | 0, _ => throw .unexpectedEnd
  | fuel + 1, before => do
    match ← peek with
    | none | some ')' | some '|' => pure before
    | some _ =>
      let part ← term fuel
      terms fuel (if before = .empty then part else .sequence before part)

/-- One part. -/
def term : Nat → Reader Pattern
  | 0 => throw .unexpectedEnd
  | fuel + 1 => do
    let low := (← get).next
    match ← take with
    | none => throw .unexpectedEnd
    | some '^' => pure .start
    | some '$' => pure .finish
    | some '.' => repeated .any low
    | some '(' => groupPart fuel low
    | some '[' =>
      let negated ← takeText "^"
      let ranges ← setRanges fuel []
      repeated (.set negated ranges) low
    | some '\\' => escapePart low
    | some '*' | some '+' | some '?' => throw .nothingToRepeat
    | some '\x7b' =>
      let s ← get
      if s.unicode then throw .misplacedSign
      match braces s with
      | .ok (some _) _ => throw .nothingToRepeat
      | _ => repeated (.letter 123) low
    | some c =>
      if (← get).unicode && (c = ']' || c = '\x7d') then throw .misplacedSign
      else repeated (.letter (letterCode c)) low

/-- A group whose opening bracket has been taken. -/
def groupPart : Nat → Nat → Reader Pattern
  | 0, _ => throw .unexpectedEnd
  | fuel + 1, low => do
    if ← takeText "?:" then
      let body ← alternatives fuel
      closeGroup
      repeated body low
    else if ← takeText "?=" then lookPart fuel low true false
    else if ← takeText "?!" then lookPart fuel low true true
    else if ← takeText "?<=" then lookPart fuel low false false
    else if ← takeText "?<!" then lookPart fuel low false true
    else if ← takeText "?<" then
      let name ← takeName
      if (← get).names.any fun (n, _) => n = name then throw .duplicateName
      modify fun s => { s with names := s.names ++ [(name, s.next)] }
      captured fuel low
    else if ← takeText "?" then throw .invalidGroup
    else captured fuel low

/-- The rest of a group whose match is kept. -/
def captured : Nat → Nat → Reader Pattern
  | 0, _ => throw .unexpectedEnd
  | fuel + 1, low => do
    modify fun s => { s with next := s.next + 1 }
    let body ← alternatives fuel
    closeGroup
    repeated (.group low body) low

/-- The rest of a condition. -/
def lookPart : Nat → Nat → Bool → Bool → Reader Pattern
  | 0, _, _, _ => throw .unexpectedEnd
  | fuel + 1, low, ahead, negated => do
    let body ← alternatives fuel
    closeGroup
    let part : Pattern := .look ahead negated body
    if ahead && !(← get).unicode then repeated part low else pure part

/-- The closing bracket of a group. -/
def closeGroup : Reader Unit := do
  if !(← takeText ")") then throw (.expecting ')')

/-- A part whose backslash has been taken. -/
def escapePart (low : Nat) : Reader Pattern := do
  match ← take with
  | none => throw .unexpectedEnd
  | some 'b' => pure (.boundary false)
  | some 'B' => pure (.boundary true)
  | some 'k' =>
    let s ← get
    if s.known.isEmpty && !s.unicode then repeated (.letter 107) low
    else if ← takeText "<" then
      let name ← takeName
      match s.known.find? fun (n, _) => n = name with
      | some (_, index) => repeated (.reference index) low
      | none => throw .undefinedName
    else throw .missingName
  | some c =>
    match classOf c with
    | some ranges => repeated (.set false ranges) low
    | none =>
      let s ← get
      if (c = 'p' || c = 'P') && s.unicode then
        repeated (.set false (← propertyClass (c = 'P'))) low
      else if c.isDigit && c ≠ '0' then
        set { s with rest := c :: s.rest }
        match ← takeNumber with
        | some n =>
          if n < s.total then repeated (.reference n) low
          else if s.unicode then throw .referenceOutOfRange
          else
            set s
            let n ← if c < '8' then octalLetter c else pure c.toNat
            repeated (.letter n) low
        | none => throw .invalidEscape
      else repeated (.letter (← letterEscape false c)) low

end

/-- The characters that a pattern is read in: units, or whole characters. -/
def sourceLetters (unicode : Bool) (source : String) : List Char :=
  if unicode then source.toList else (Script.units source).toList.map Script.charOfCode

/-- The pattern that a text writes. It is read twice, so that groups are known before they are met. -/
def parse (source : String) (flags : Flags) (strictSets : Bool) : Except Fault Program :=
  let rest := sourceLetters flags.unicode source
  let fuel := 8 * rest.length + 16
  let attempt (known : List (String × Nat)) (total : Nat) : EStateM.Result Fault Reading Pattern :=
    (alternatives fuel).run ⟨rest, flags.unicode, strictSets, 1, [], known, total⟩
  let first := attempt [] (rest.length + 1)
  let (known, total) := match first with
    | .ok _ s => (s.names, s.next)
    | .error _ s => (s.names, s.next)
  let hasNames := (source.splitOn "(?<").length > 1
  let second := if hasNames && known.isEmpty then attempt [("", 0)] total else attempt known total
  match second with
  | .error e _ => .error e
  | .ok pattern s =>
    if s.rest.isEmpty then .ok ⟨pattern, flags, s.next, s.names⟩ else .error .extraneous

/-! ### Matching -/

/-- Where a match is: the place, and the groups matched so far. -/
structure Spot where
  place : Nat
  groups : Array (Option (Nat × Nat))

/-- A letter as it counts when case does not. -/
def fold (flags : Flags) (n : Nat) : Nat :=
  if !flags.ignoreCase then n
  else if flags.unicode then Case.lowerCode (Case.upperCode n)
  else
    let u := Case.upperCode n
    if n ≥ 128 && u < 128 then n else u

/-- Whether a letter ends a line. -/
def endsLine (n : Nat) : Bool := n = 10 || n = 13 || n = 0x2028 || n = 0x2029

/-- Whether a letter lies in one of the ranges. -/
def inRanges (ranges : List (Nat × Nat)) (n : Nat) : Bool :=
  ranges.any fun (lo, hi) => lo ≤ n && n ≤ hi

/-- Whether a letter lies in one of the ranges, as it counts under the flags. -/
def matchesSet (flags : Flags) (ranges : List (Nat × Nat)) (n : Nat) : Bool :=
  if flags.ignoreCase then
    inRanges ranges n || inRanges ranges (Case.upperCode n) || inRanges ranges (Case.lowerCode n)
  else inRanges ranges n

/-- Whether the letter at a place belongs to a word. -/
def isWordAt (text : Array Nat) (place : Nat) : Bool :=
  match text[place]? with
  | some n => inRanges wordLetters n
  | none => false

/-- One letter forward or backward, if it passes a test. -/
def stepLetter (text : Array Nat) (forward : Bool) (test : Nat → Bool) (s : Spot)
    (next : Spot → Option Spot) : Option Spot :=
  if forward then
    match text[s.place]? with
    | some n => if test n then next { s with place := s.place + 1 } else none
    | none => none
  else if s.place = 0 then none
  else
    match text[s.place - 1]? with
    | some n => if test n then next { s with place := s.place - 1 } else none
    | none => none

/-- The spot with the groups in a range forgotten. -/
def Spot.forget (s : Spot) (low high : Nat) : Spot :=
  { s with groups := (List.range (high - low)).foldl (fun gs i => gs.setIfInBounds (low + i) none) s.groups }

/-- The ways to match a part repeatedly, given the ways to match it once. -/
def repeatMatch (once : Spot → (Spot → Option Spot) → Option Spot) (greedy : Bool) (low high : Nat)
    (next : Spot → Option Spot) : Nat → Nat → Option Nat → Spot → Option Spot
  | 0, _, _, s => next s
  | fuel + 1, least, most, s =>
    let again (_ : Unit) : Option Spot :=
      once (s.forget low high) fun s' =>
        if s'.place = s.place && least = 0 then none
        else repeatMatch once greedy low high next fuel (least - 1) (most.map (· - 1)) s'
    if least > 0 then again ()
    else if most = some 0 then next s
    else if greedy then again () <|> next s
    else next s <|> again ()

/-- The first match of a pattern from a spot that lets what follows match too. -/
def Pattern.matchFrom (flags : Flags) (text : Array Nat) :
    Pattern → Bool → Spot → (Spot → Option Spot) → Option Spot
  | .empty, _, s, next => next s
  | .letter n, forward, s, next =>
    stepLetter text forward (fun m => fold flags m = fold flags n) s next
  | .any, forward, s, next =>
    stepLetter text forward (fun m => flags.dotAll || !endsLine m) s next
  | .set negated ranges, forward, s, next =>
    stepLetter text forward (fun m => matchesSet flags ranges m ≠ negated) s next
  | .start, _, s, next =>
    if s.place = 0 || (flags.multiline && (text[s.place - 1]?.any endsLine)) then next s else none
  | .finish, _, s, next =>
    if s.place = text.size || (flags.multiline && (text[s.place]?.any endsLine)) then next s
    else none
  | .boundary negated, _, s, next =>
    let before := s.place ≠ 0 && isWordAt text (s.place - 1)
    if (before ≠ isWordAt text s.place) ≠ negated then next s else none
  | .sequence first second, forward, s, next =>
    if forward then
      first.matchFrom flags text forward s fun s => second.matchFrom flags text forward s next
    else second.matchFrom flags text forward s fun s => first.matchFrom flags text forward s next
  | .choice first second, forward, s, next =>
    first.matchFrom flags text forward s next <|> second.matchFrom flags text forward s next
  | .group index body, forward, s, next =>
    body.matchFrom flags text forward s fun s' =>
      let range := if forward then (s.place, s'.place) else (s'.place, s.place)
      next { s' with groups := s'.groups.setIfInBounds index (some range) }
  | .look ahead negated body, _, s, next =>
    match body.matchFrom flags text ahead s some with
    | some s' => if negated then none else next { s with groups := s'.groups }
    | none => if negated then next s else none
  | .reference index, forward, s, next =>
    match (s.groups[index]?).join with
    | none => next s
    | some (lo, hi) =>
      let length := hi - lo
      let start := if forward then s.place else s.place - length
      let same (i : Nat) : Bool :=
        match text[lo + i]?, text[start + i]? with
        | some a, some b => fold flags a = fold flags b
        | _, _ => false
      if (forward || length ≤ s.place) && (List.range length).all same then
        next { s with place := if forward then s.place + length else start }
      else none
  | .repeat body least most greedy low high, forward, s, next =>
    repeatMatch (fun s next => body.matchFrom flags text forward s next) greedy low high next
      (text.size + least + 1) least most s

/-- The letters of a text in which a program matches. -/
def Program.letters (p : Program) (s : String) : Array Nat :=
  if p.flags.unicode then
    (s.toList.map fun c => (Script.halfUnit? c).getD c.toNat).toArray
  else Script.units s

/-- The groups of the match at a place, the whole match first. -/
def Program.matchAt (p : Program) (text : Array Nat) (place : Nat) :
    Option (Array (Option (Nat × Nat))) :=
  let start : Spot := ⟨place, Array.replicate p.groups none⟩
  (p.pattern.matchFrom p.flags text true start some).map fun s =>
    s.groups.setIfInBounds 0 (some (place, s.place))

/-- The first match at one of a number of places. -/
def Program.search (p : Program) (text : Array Nat) : Nat → Nat → Option (Array (Option (Nat × Nat)))
  | 0, _ => none
  | fuel + 1, place => p.matchAt text place <|> p.search text fuel (place + 1)

end Regex

end NotebookEngine
