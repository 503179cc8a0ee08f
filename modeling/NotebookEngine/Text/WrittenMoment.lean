/-
**Moments that texts write.**

A text is first read in the international format, which fixes the place of every digit.  Otherwise its words
are taken one after the other: numbers, the name of a month, a time of day, and what is known of zones.  Any
words may come before the first of these.

Main definitions:

* `Calendar.Written` — the parts of a moment that a text gives;
* `Calendar.readFixed`, `Calendar.readFree` — the two ways to read a text;
* `Calendar.parse` — the moment that a text writes.
-/

import NotebookEngine.Text.Calendar
import NotebookEngine.Text.Units

set_option autoImplicit false

namespace NotebookEngine

namespace Calendar

/-! ### Parts -/

/-- The parts of a moment that a text gives; months and days count from one, and the offset of the zone is in
minutes. -/
structure Written where
  year : Int
  month : Nat
  day : Nat
  hour : Nat
  minute : Nat
  second : Nat
  milli : Nat
  offset : Int
  deriving Inhabited, DecidableEq

/-- Whether the parts of a moment are within their bounds. -/
def Written.isValid (w : Written) : Bool :=
  1 ≤ w.month && w.month ≤ 12 && 1 ≤ w.day && w.day ≤ 31 && w.hour ≤ 24 && w.minute ≤ 59 &&
    w.second ≤ 59 && (w.hour < 24 || w.minute + w.second + w.milli = 0)

/-- The moment that parts tell. -/
def Written.moment (w : Written) : Int :=
  momentOf w.year (w.month - 1 : Int) w.day w.hour (w.minute - w.offset) w.second w.milli

/-- The number at the start of a text, its digits within bounds, how many there are, and what follows. -/
def takeDigits (least : Nat) (most? : Option Nat) (cs : List Char) : Option (Nat × Nat × List Char) :=
  let all := cs.takeWhile Char.isDigit
  let ds := most?.elim all all.take
  if ds.length < least || ds.length > 9 && (ds.dropWhile (· = '0')).length > 9 then none
  else some (Numeral.ofDigits 10 ds, ds.length, cs.drop ds.length)

/-- The number that exactly so many digits at the start of a text write. -/
def takeExactly (n : Nat) (cs : List Char) : Option (Nat × List Char) :=
  (takeDigits n (some n) cs).map fun (v, _, rest) => (v, rest)

/-- A text after one character, if it starts with it. -/
def skipChar? (c : Char) : List Char → Option (List Char)
  | d :: rest => if c = d then some rest else none
  | [] => none

/-- The milliseconds that a fraction of a second at the start of a text writes. -/
def takeFraction (cs : List Char) : Nat × List Char :=
  match cs with
  | c :: rest =>
    let ds := (rest.takeWhile Char.isDigit).take 9
    if (c = '.' || c = ',') && !ds.isEmpty then
      (Numeral.ofDigits 10 ((ds ++ ['0', '0']).take 3), rest.drop ds.length)
    else (0, cs)
  | [] => (0, cs)

/-- The hours and minutes that digits without a mark between them write. -/
def clockOfDigits (v : Nat) : Nat → Nat × Nat
  | n + 5 => clockOfDigits (v / 100) (n + 3)
  | 4 | 3 => (v / 100, v % 100)
  | _ => (v, 0)

/-- The offset of a zone that a text starts with. -/
def takeOffset (fixed : Bool) (cs : List Char) : Option (Int × List Char) :=
  match cs with
  | 'Z' :: rest => some (0, rest)
  | sign :: rest =>
    if sign = '+' || sign = '-' then do
      let (v, n, rest) ← takeDigits 1 none rest
      if fixed && n ≠ 2 && n ≠ 4 then none
      let (h, m) := clockOfDigits v n
      let (m, rest) ← match if n ≤ 2 then skipChar? ':' rest else none with
        | some rest => takeExactly 2 rest
        | none => some (m, rest)
      if h > 23 || m > 59 then none
      let minutes : Int := h * 60 + m
      some (if sign = '-' then -minutes else minutes, rest)
    else none
  | [] => none

/-! ### The international format -/

/-- The parts that follow a mark, if the mark is there, and otherwise what they are by default. -/
def takeMarked (mark : Char) (default : Nat) (cs : List Char) : Option (Nat × List Char) :=
  match skipChar? mark cs with
  | some rest => takeExactly 2 rest
  | none => some (default, cs)

/-- The parts that a text in the international format writes, nothing if it is in another one. A time of day
that is broken off is a fault by itself, told by parts that are not valid. -/
def readFixed (cs : List Char) : Option Written := do
  let (year, rest) ← match cs with
    | '+' :: rest => (takeExactly 6 rest).map fun (y, rest) => ((y : Int), rest)
    | '-' :: rest => (takeExactly 6 rest).bind fun (y, rest) =>
      if y = 0 then none else some (-(y : Int), rest)
    | _ => (takeExactly 4 cs).map fun (y, rest) => ((y : Int), rest)
  let hasMonth := (skipChar? '-' rest).isSome
  let (month, rest) ← takeMarked '-' 1 rest
  let (day, rest) ← if hasMonth then takeMarked '-' 1 rest else some (1, rest)
  if month = 0 || day = 0 then none
  let dated : Written := ⟨year, month, day, 0, 0, 0, 0, 0⟩
  match skipChar? 'T' rest with
  | none => zoned dated rest
  | some rest =>
    match takeClock rest with
    | none => some { dated with hour := 100 }
    | some (hour, minute, rest) =>
      let (second, milli, rest) ← match skipChar? ':' rest with
        | some rest => do
          let (second, rest) ← takeExactly 2 rest
          let (milli, rest) := takeFraction rest
          some (second, milli, rest)
        | none => some (0, 0, rest)
      zoned { dated with hour, minute, second, milli } rest
where
  /-- The hours and minutes that a text starts with. -/
  takeClock (cs : List Char) : Option (Nat × Nat × List Char) := do
    let (hour, rest) ← takeExactly 2 cs
    let (minute, rest) ← takeExactly 2 (← skipChar? ':' rest)
    some (hour, minute, rest)
  /-- Parts with the offset that the rest of the text writes. -/
  zoned (w : Written) (rest : List Char) : Option Written :=
    if rest.isEmpty then some w
    else
      match takeOffset true rest with
      | some (offset, []) => some { w with offset }
      | _ => none

/-! ### Other formats -/

/-- The zones that have names, with their offsets in minutes. -/
def zoneNames : List (String × Int) :=
  [("GMT", 0), ("UTC", 0), ("UT", 0), ("Z", 0), ("EDT", -240), ("EST", -300), ("CDT", -300), ("CST", -360),
   ("MDT", -360), ("MST", -420), ("PDT", -420), ("PST", -480), ("WEST", 60), ("WET", 0), ("CEST", 120),
   ("CET", 60), ("EEST", 180), ("EET", 120)]

/-- A text after a word, if it starts with it in great or small letters. -/
def skipWord? (word : String) (cs : List Char) : Option (List Char) :=
  let n := word.length
  if (cs.take n).map Char.toUpper = word.toList.map Char.toUpper then some (cs.drop n) else none

/-- The month whose short name a text starts with, from one on. -/
def takeMonth (cs : List Char) : Option (Nat × List Char) :=
  ((monthNames.zipIdx).findSome? fun (name, i) =>
    (skipWord? name cs).map fun rest => (i + 1, rest))

/-- A text after a phrase in parentheses that it starts with, nothing if the phrase does not end. -/
def skipPhrase (depth : Nat) : List Char → Option (List Char)
  | [] => none
  | c :: cs =>
    if c = '(' then skipPhrase (depth + 1) cs
    else if c = ')' then if depth ≤ 1 then some cs else skipPhrase (depth - 1) cs
    else skipPhrase depth cs

/-- What has been found in a text so far. -/
structure Findings where
  written : Written
  /-- The numbers that may be a day, a month or a year. -/
  numbers : List Nat
  hasYear : Bool
  hasMonth : Bool
  hasTime : Bool

/-- The year that a number of one or two digits means. -/
def fullYear (n : Nat) : Int :=
  n + (if n < 100 then 1900 else 0) + (if n < 50 then 100 else 0)

/-- What a number that the text goes on with adds to the findings. -/
def addNumber (f : Findings) (v digits : Nat) (rest : List Char) : Option (Findings × List Char) :=
  match skipChar? ':' rest with
  | some rest => do
    let (minute, _, rest) ← takeDigits 1 (some 2) rest
    match skipChar? ':' rest with
    | some rest =>
      let (second, _, rest) ← takeDigits 1 (some 2) rest
      let (milli, rest) := takeFraction rest
      timed minute second milli rest
    | none => if rest.head?.all (· = ' ') then timed minute f.written.second f.written.milli rest else none
  | none =>
    if digits > 2 then some ({ f with written.year := v, hasYear := true }, rest)
    else if v < 1 || v > 31 then
      some ({ f with written.year := fullYear v, hasYear := true }, rest)
    else if f.numbers.length = 3 then none
    else some ({ f with numbers := f.numbers ++ [v] }, rest)
where
  /-- The findings with a time of day. -/
  timed (minute second milli : Nat) (rest : List Char) : Option (Findings × List Char) :=
    some ({ f with written.hour := v, written.minute := minute, written.second := second
                   written.milli := milli, hasTime := true }, rest)

/-- What a sign that the text goes on with adds to the findings: the offset of a zone after a time of day,
otherwise a year. -/
def addSigned (f : Findings) (sign : Char) (cs : List Char) : Option (Findings × List Char) :=
  match if f.hasTime then takeOffset false (sign :: cs) else none with
  | some (offset, rest) => some ({ f with written.offset := offset }, rest)
  | none =>
    match takeDigits 1 none cs with
    | some (v, _, rest) =>
      if sign = '-' && v = 0 then none
      else
        let year : Int := if sign = '-' then -(v : Int) else v
        some ({ f with written.year := year, hasYear := true }, rest)
    | none => some (f, cs)

/-- What the next part of a text adds to the findings, and the text after it. The flag tells that marks
between parts may follow. -/
def addPart (f : Findings) (c : Char) (cs : List Char) : Option (Findings × List Char × Bool) :=
  let marked (r : Findings × List Char) : Findings × List Char × Bool := (r.1, r.2, true)
  if c = '+' || c = '-' then (addSigned f c cs).map marked
  else
    match takeDigits 1 none (c :: cs) with
    | some (v, n, rest) => (addNumber f v n rest).map marked
    | none =>
      match takeMonth (c :: cs) with
      | some (month, rest) =>
        let rest := rest.dropWhile fun c => !("0123456789 -/(".toList.contains c)
        some ({ f with written.month := month, hasMonth := true }, rest, true)
      | none =>
        match if f.hasTime then half? (c :: cs) else none with
        | some (true, rest) =>
          let hour := if f.written.hour = 12 then 12 else f.written.hour + 12
          some ({ f with written.hour := hour }, rest, false)
        | some (false, rest) =>
          if f.written.hour > 12 then none
          else
            let hour := if f.written.hour = 12 then 0 else f.written.hour
            some ({ f with written.hour := hour }, rest, false)
        | none =>
          match zoneNames.findSome? fun (name, offset) =>
              (skipWord? name (c :: cs)).map fun rest => (offset, rest) with
          | some (offset, rest) => some ({ f with written.offset := offset }, rest, false)
          | none =>
            if c = '(' then (skipPhrase 0 (c :: cs)).map fun rest => (f, rest, true)
            else if c = ')' || f.hasYear || f.hasMonth || f.hasTime || !f.numbers.isEmpty then none
            else some (f, (c :: cs).dropWhile fun c => !(" -/(".toList.contains c), true)
where
  /-- Whether a text goes on with a mark of the second half of the day, or of the first. -/
  half? (cs : List Char) : Option (Bool × List Char) :=
    ((skipWord? "PM" cs).map fun rest => (true, rest)).or
      ((skipWord? "AM" cs).map fun rest => (false, rest))

/-- What a text adds to the findings, read up to its end; every part takes a character at least. -/
def addParts (f : Findings) : Nat → List Char → Option Findings
  | 0, _ => none
  | fuel + 1, cs =>
    match cs.dropWhile (· = ' ') with
    | [] => some f
    | c :: cs => do
      let (f, rest, isMarked) ← addPart f c cs
      addParts f fuel (if isMarked then rest.dropWhile fun c => "-/.,".toList.contains c else rest)

/-- The parts that a text writes in words and numbers. -/
def readFree (cs : List Char) : Option Written := do
  let f ← addParts ⟨⟨2001, 1, 1, 0, 0, 0, 0, 0⟩, [], false, false, false⟩ (cs.length + 1) cs
  let count := f.numbers.length + f.hasYear.toNat + f.hasMonth.toNat
  if count > 3 then none
  let w := f.written
  match f.numbers with
  | [] => if f.hasYear then some w else none
  | [a] => some (if f.hasMonth then { w with day := a } else { w with month := a })
  | [a, b] =>
    some (if !f.hasYear && f.hasMonth then { w with year := fullYear b, day := a }
      else { w with month := a, day := b })
  | a :: b :: c :: _ => some { w with year := fullYear c, month := a, day := b }

/-! ### Reading -/

/-- The characters of a text as far as they are read: the first 127, those outside of the first 256 as
letters, a long minus as a minus, and nothing from a zero on. -/
def legible (s : String) : List Char :=
  (((Script.units s).toList.take 127).map fun n =>
    if n > 255 then if n = 0x2212 then '-' else 'x' else Char.ofNat n).takeWhile fun c => c.toNat ≠ 0

/-- The moment that a text writes, not a number if it writes none. -/
def parse (s : String) : Float :=
  let cs := legible s
  match (readFixed cs).or (readFree cs) with
  | some w => if w.isValid then clip (Float.ofInt w.moment) else Script.nan
  | none => Script.nan

end Calendar

end NotebookEngine
