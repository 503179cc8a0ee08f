/-
**Reading tokens.**

The readers of this module go over the source once, character by character.  A reader that has looked
ahead passes on how many of the next characters it has dealt with, so all of them are recursive on the
text itself.

Two tokens cannot be told apart without knowing what the parser expects: a slash may start a regular
expression, and a closing brace may continue a template.  They are read by functions of their own.

Main definitions:

* `Script.lex` — the next token;
* `Script.lexRegex` — a regular expression from its slash on;
* `Script.lexTemplate` — a stretch of a template.
-/

import NotebookEngine.Script.Letters
import NotebookEngine.Script.Token

set_option autoImplicit false

namespace NotebookEngine

namespace Script

/-! ### Between tokens -/

/-- What surrounds a character between two tokens. -/
inductive Gap where
  | blank
  | line
  | block
  deriving DecidableEq

/-- The text after blanks and comments. -/
structure AfterGap where
  rest : List Char
  place : Nat
  lineEnd : Bool
  issues : List Problem

/-- The text without the blanks and comments at its start; `skip` characters are dealt with already. -/
def skipGap (gap : Gap) (lineEnd : Bool) (issues : List Problem) :
    Nat → List Char → Nat → AfterGap
  | _, [], p =>
    let missing : List Problem := if gap = .block then [⟨p, .unterminatedComment⟩] else []
    ⟨[], p, lineEnd, issues ++ missing⟩
  | skip + 1, _ :: cs, p => skipGap gap lineEnd issues skip cs (p + 1)
  | 0, c :: cs, p =>
    match gap with
    | .line =>
      if isLineEnd c then skipGap .blank true issues 0 cs (p + 1)
      else skipGap .line lineEnd issues 0 cs (p + 1)
    | .block =>
      if c = '*' && cs.head? = some '/' then skipGap .blank lineEnd issues 1 cs (p + 1)
      else skipGap .block (lineEnd || isLineEnd c) issues 0 cs (p + 1)
    | .blank =>
      if isSpace c then skipGap .blank lineEnd issues 0 cs (p + 1)
      else if isLineEnd c then skipGap .blank true issues 0 cs (p + 1)
      else if c = '/' && cs.head? = some '/' then skipGap .line lineEnd issues 1 cs (p + 1)
      else if c = '/' && cs.head? = some '*' then skipGap .block lineEnd issues 1 cs (p + 1)
      else if c = '<' && cs.take 3 = ['!', '-', '-'] then
        skipGap .line lineEnd (issues ++ [⟨p, .markupComment⟩]) 3 cs (p + 1)
      else if lineEnd && c = '-' && cs.take 2 = ['-', '>'] then
        skipGap .line lineEnd (issues ++ [⟨p, .markupComment⟩]) 2 cs (p + 1)
      else if lineEnd && c = '=' && cs.take 6 = List.replicate 6 '=' then
        skipGap .line lineEnd (issues ++ [⟨p, .conflictMarker⟩]) 6 cs (p + 1)
      else ⟨c :: cs, p, lineEnd, issues⟩

/-! ### Escapes -/

/-- The value of a hexadecimal digit. -/
def hexDigit? (c : Char) : Option Nat :=
  if c.isDigit then some (c.toNat - 48)
  else if 'a' ≤ c && c ≤ 'f' then some (c.toNat - 87)
  else if 'A' ≤ c && c ≤ 'F' then some (c.toNat - 55)
  else none

/-- The number that hexadecimal digits write. -/
def hexValue? (cs : List Char) : Option Nat :=
  cs.foldl (fun n c => do pure ((← n) * 16 + (← hexDigit? c))) (some 0)

/-- The character for a code unit or code point. A unit that is half of a pair is kept as a character of
a private area until it meets its other half. -/
def charOfCode (n : Nat) : Char :=
  if 0xD800 ≤ n ∧ n ≤ 0xDFFF then Char.ofNat (0x100000 + n) else Char.ofNat n

/-- The code unit that a character stands for, if it is half of a pair. -/
def halfUnit? (c : Char) : Option Nat :=
  if 0x10D800 ≤ c.toNat ∧ c.toNat ≤ 0x10DFFF then some (c.toNat - 0x100000) else none

/-- Text with the halves of pairs that meet joined. -/
def joinHalves : List Char → List Char
  | [] => []
  | c :: cs =>
    match halfUnit? c, joinHalves cs with
    | some hi, d :: ds =>
      match halfUnit? d with
      | some lo =>
        if hi < 0xDC00 ∧ 0xDC00 ≤ lo then
          Char.ofNat (0x10000 + (hi - 0xD800) * 0x400 + (lo - 0xDC00)) :: ds
        else c :: d :: ds
      | none => c :: d :: ds
    | _, ds => c :: ds

/-- What an escape stands for, and how many characters it covers after the backslash. -/
structure Escaped where
  chars : List Char
  used : Nat
  issue : Option Complaint

/-- The code point written after the letter `u` of an escape, and the number of characters it takes. -/
def readCode (cs : List Char) : Except Complaint (Nat × Nat) :=
  match cs with
  | '{' :: ds =>
    let digits := ds.takeWhile fun c => (hexDigit? c).isSome
    let n := (hexValue? digits).getD 0
    if digits.isEmpty then .error (.badEscape "1-6 hex characters")
    else if n > 0x10FFFF then .error (.badEscape "1-6 hex characters in the range 0 to 10FFFF.")
    else if ds[digits.length]? = some '}' then .ok (n, digits.length + 2)
    else .error .escapeUnclosed
  | _ =>
    match hexValue? (cs.take 4) with
    | some n => if cs.length < 4 then .error (.badEscape "4 hex characters") else .ok (n, 4)
    | none => .error (.badEscape "4 hex characters")

/-- The digits of an octal escape, at most three, with a value below 256. -/
def octalDigits (cs : List Char) : List Char :=
  let isOctal : Char → Bool := fun c => '0' ≤ c && c ≤ '7'
  match cs with
  | a :: _ => (cs.take (if a ≤ '3' then 3 else 2)).takeWhile isOctal
  | [] => []

/-- Reads an escape after its backslash. -/
def readEscape (inTemplate : Bool) (cs : List Char) : Except Complaint Escaped :=
  match cs with
  | [] => .ok ⟨[], 0, none⟩
  | c :: ds =>
    if c = 'n' then .ok ⟨['\n'], 1, none⟩
    else if c = 'r' then .ok ⟨['\r'], 1, none⟩
    else if c = 't' then .ok ⟨['\t'], 1, none⟩
    else if c = 'b' then .ok ⟨[Char.ofNat 8], 1, none⟩
    else if c = 'v' then .ok ⟨[Char.ofNat 11], 1, none⟩
    else if c = 'f' then .ok ⟨[Char.ofNat 12], 1, none⟩
    else if c = '\r' then .ok ⟨[], if ds.head? = some '\n' then 2 else 1, none⟩
    else if isLineEnd c then .ok ⟨[], 1, none⟩
    else if c = 'x' then
      match hexValue? (ds.take 2) with
      | some n =>
        if ds.length < 2 then .error (.badEscape "2 hex characters")
        else .ok ⟨[charOfCode n], 3, none⟩
      | none => .error (.badEscape "2 hex characters")
    else if c = 'u' then
      match readCode ds with
      | .ok (n, used) => .ok ⟨[charOfCode n], used + 1, none⟩
      | .error e => .error e
    else if '0' ≤ c && c ≤ '7' then
      let digits := octalDigits cs
      if c = '0' && digits.length = 1 then .ok ⟨[Char.ofNat 0], 1, none⟩
      else if inTemplate then .error .octalEscape
      else
        let n := digits.foldl (fun n d => n * 8 + (d.toNat - 48)) 0
        .ok ⟨[Char.ofNat n], digits.length, some .octalEscape⟩
    else .ok ⟨[c], 1, none⟩

/-! ### Strings -/

/-- What reading a string gave: the text without its quotes, and what comes after it. -/
structure AfterString where
  chars : List Char
  rest : List Char
  place : Nat
  closed : Bool
  issues : List Problem
  failure : Option Problem

/-- Reads a string after its opening quote; `chars` and `issues` were found so far, the last first. -/
def scanString (quote : Char) (chars : List Char) (issues : List Problem) :
    Nat → List Char → Nat → AfterString
  | _, [], p => ⟨chars.reverse, [], p, false, issues.reverse, none⟩
  | skip + 1, _ :: cs, p => scanString quote chars issues skip cs (p + 1)
  | 0, c :: cs, p =>
    if c = quote then ⟨chars.reverse, cs, p + 1, true, issues.reverse, none⟩
    else if c = '\n' || c = '\r' then ⟨chars.reverse, c :: cs, p, false, issues.reverse, none⟩
    else if c = '\\' then
      match readEscape false cs with
      | .ok e =>
        let issues := match e.issue with
          | some i => ⟨p, i⟩ :: issues
          | none => issues
        scanString quote (e.chars.reverse ++ chars) issues e.used cs (p + 1)
      | .error e => ⟨chars.reverse, cs, p + 1, false, issues.reverse, some ⟨p, e⟩⟩
    else scanString quote (c :: chars) issues 0 cs (p + 1)

/-! ### Templates -/

/-- How a stretch of a template ends. -/
inductive TemplateEnd where
  | value
  | close
  | missing
  deriving DecidableEq

/-- A stretch of a template, up to a value or to its end. -/
structure TemplatePart where
  /-- The text the stretch stands for, unless it has a bad escape. -/
  cooked : Except Problem (List Char)
  raw : List Char
  ending : TemplateEnd
  rest : List Char
  place : Nat

/-- Reads a stretch of a template; `cooked` and `raw` were found so far, the last character first, and
the next `skip` characters are part of what `cooked` holds. Every line end is one line feed. -/
def lexTemplate (cooked : Except Problem (List Char)) (raw : List Char) :
    Nat → List Char → Nat → TemplatePart
  | _, [], p => ⟨cooked, raw.reverse, .missing, [], p⟩
  | skip + 1, c :: cs, p =>
    let raw := if c = '\r' then (if cs.head? = some '\n' then raw else '\n' :: raw) else c :: raw
    lexTemplate cooked raw skip cs (p + 1)
  | 0, c :: cs, p =>
    if c = '\x60' then ⟨cooked.map List.reverse, raw.reverse, .close, cs, p + 1⟩
    else if c = '$' && cs.head? = some '{' then
      ⟨cooked.map List.reverse, raw.reverse, .value, cs.drop 1, p + 2⟩
    else if c = '\\' then
      match readEscape true cs with
      | .ok e => lexTemplate (cooked.map (e.chars.reverse ++ ·)) (c :: raw) e.used cs (p + 1)
      | .error e =>
        let cooked : Except Problem (List Char) := match cooked with
          | .ok _ => .error ⟨p, e⟩
          | .error first => .error first
        lexTemplate cooked (c :: raw) 1 cs (p + 1)
    else if c = '\r' then
      if cs.head? = some '\n' then lexTemplate cooked raw 0 cs (p + 1)
      else lexTemplate (cooked.map ('\n' :: ·)) ('\n' :: raw) 0 cs (p + 1)
    else lexTemplate (cooked.map (c :: ·)) (c :: raw) 0 cs (p + 1)

/-! ### Regular expressions -/

/-- Reads a regular expression after its opening slash: the pattern, and the text after it if it is
closed. -/
def scanRegex (pattern : List Char) (inClass escaped : Bool) :
    List Char → Nat → Option (List Char × List Char × Nat)
  | [], _ => none
  | c :: cs, p =>
    if isLineEnd c then none
    else if escaped then scanRegex (c :: pattern) inClass false cs (p + 1)
    else if c = '/' && !inClass then some (pattern.reverse, cs, p + 1)
    else
      let inClass := if c = '[' then true else if c = ']' then false else inClass
      scanRegex (c :: pattern) inClass (c = '\\') cs (p + 1)

/-- The first letter that occurs twice. -/
def repeated? : List Char → Option Char
  | [] => none
  | c :: cs => if cs.contains c then some c else repeated? cs

/-- Reads a regular expression from its slash on. -/
def lexRegex (text : List Char) (lo : Nat) (afterLineEnd : Bool) : Token :=
  match scanRegex [] false false text.tail (lo + 1) with
  | none => ⟨.bad ⟨lo, .unterminatedRegex⟩, lo, lo + 1, afterLineEnd, [], text, text.tail⟩
  | some (pattern, rest, p) =>
    let flags := rest.takeWhile isIdentifierPart
    let issues : List Problem := match repeated? flags with
      | some c => [⟨lo, .repeatedRegexFlag c⟩]
      | none =>
        if flags.all fun c => "dgimsuvy".toList.contains c then [] else [⟨lo, .unknownRegexFlags⟩]
    ⟨.regex (String.ofList pattern) (String.ofList flags), lo, p + flags.length, afterLineEnd, issues,
      text, rest.drop flags.length⟩

/-! ### Words -/

/-- What reading a word gave. -/
structure AfterWord where
  chars : List Char
  rest : List Char
  place : Nat
  escaped : Bool
  issues : List Problem
  failure : Option Problem

/-- Reads a word; `chars` and `issues` were found so far, the last first. -/
def scanWord (chars : List Char) (escaped : Bool) (issues : List Problem) :
    Nat → List Char → Nat → AfterWord
  | _, [], p => ⟨chars.reverse, [], p, escaped, issues.reverse, none⟩
  | skip + 1, _ :: cs, p => scanWord chars escaped issues skip cs (p + 1)
  | 0, c :: cs, p =>
    if isIdentifierPart c then scanWord (c :: chars) escaped issues 0 cs (p + 1)
    else if c = '\\' then
      if cs.head? = some 'u' then
        match readCode cs.tail with
        | .ok (n, used) =>
          let letter := charOfCode n
          let issues := if isIdentifierPart letter then issues else ⟨p, .escapedLetter⟩ :: issues
          scanWord (letter :: chars) true issues (used + 1) cs (p + 1)
        | .error e => ⟨chars.reverse, c :: cs, p, escaped, issues.reverse, some ⟨p, e⟩⟩
      else ⟨chars.reverse, c :: cs, p, escaped, issues.reverse, some ⟨p, .unicodeEscapeExpected⟩⟩
    else ⟨chars.reverse, c :: cs, p, escaped, issues.reverse, none⟩

/-! ### Numbers -/

/-- Whether the character is a digit of a number with the radix. -/
def isDigitOf (radix : Nat) (c : Char) : Bool :=
  match hexDigit? c with
  | some d => d < radix
  | none => false

/-- Digits with separators, and the text after them. -/
def takeDigits (radix : Nat) (cs : List Char) : List Char × List Char :=
  (cs.takeWhile fun c => isDigitOf radix c || c = '_', cs.dropWhile fun c => isDigitOf radix c || c = '_')

/-- Whether every separator stands between two digits. -/
def separatorsFit : Bool → List Char → Bool
  | after, [] => after
  | after, c :: cs => if c = '_' then after && separatorsFit false cs else separatorsFit true cs

/-- The digits without separators. -/
def withoutSeparators (cs : List Char) : List Char := cs.filter (· ≠ '_')

/-- The complaint about separators that do not stand between digits. -/
def separatorIssues (digits : List Char) (p : Nat) : List Problem :=
  if digits.isEmpty || separatorsFit false digits then [] else [⟨p, .separatorMisplaced⟩]

/-- The number that digits with the radix write. -/
def digitsValue (radix : Nat) (cs : List Char) : Nat :=
  (withoutSeparators cs).foldl (fun n c => n * radix + (hexDigit? c).getD 0) 0

/-- A number without its place in the text. -/
structure AfterNumber where
  lexeme : Lexeme
  rest : List Char
  place : Nat
  issues : List Problem

/-- A number that is refused. -/
def badNumber (problem : Problem) (rest : List Char) (place : Nat) : AfterNumber :=
  ⟨.bad problem, rest, place, []⟩

/-- The number, unless a letter follows it. -/
def endNumber (n : AfterNumber) : AfterNumber :=
  match n.rest with
  | c :: _ =>
    if isIdentifierStart c || c = '\\' then
      { n with lexeme := .bad ⟨n.place, .identifierAfterNumber⟩ }
    else n
  | [] => n

/-- Reads a number with a radix mark, from the character after the mark. -/
def scanRadix (radix : Nat) (mark : List Char) (cs : List Char) (p : Nat) : AfterNumber :=
  let (digits, rest) := takeDigits radix cs
  if digits.isEmpty then badNumber ⟨p, .digitExpected radix⟩ cs p
  else
    let issues := separatorIssues digits p
    let value := digitsValue radix digits
    let q := p + digits.length
    match rest with
    | 'n' :: after =>
      endNumber ⟨.bigint value (String.ofList (mark ++ digits ++ ['n'])), after, q + 1, issues⟩
    | _ => endNumber ⟨.number (Float.ofNat value) (String.ofList (mark ++ digits)), rest, q, issues⟩

/-- Reads the exponent of a number: its text, its value, and what follows; or why there is
none. -/
def scanExponent (cs : List Char) (p : Nat) :
    Except Problem (List Char × Int × List Char × Nat × List Problem) :=
  match cs with
  | e :: after =>
    if e = 'e' || e = 'E' then
      let (sign, body) : List Char × List Char := match after with
        | '+' :: ds => (['+'], ds)
        | '-' :: ds => (['-'], ds)
        | ds => ([], ds)
      let (digits, rest) := takeDigits 10 body
      let q := p + 1 + sign.length
      if after.isEmpty then .error ⟨q, .exponentMissing⟩
      else if digits.isEmpty then .error ⟨q, .digitExpected 10⟩
      else
        let n : Int := digitsValue 10 digits
        .ok (e :: sign ++ digits, if sign = ['-'] then -n else n, rest, q + digits.length,
          separatorIssues digits q)
    else .ok ([], 0, cs, p, [])
  | [] => .ok ([], 0, cs, p, [])

/-- The number with the digits, as an integer, and the power of ten. -/
def decimalValue (digits : Nat) (power : Int) : Float :=
  if power < 0 then OfScientific.ofScientific digits true power.natAbs
  else OfScientific.ofScientific digits false power.natAbs

/-- Reads a number that starts with a digit or a point. -/
def scanNumber (cs : List Char) (p : Nat) : AfterNumber :=
  match cs with
  | '0' :: 'x' :: ds => scanRadix 16 ['0', 'x'] ds (p + 2)
  | '0' :: 'X' :: ds => scanRadix 16 ['0', 'X'] ds (p + 2)
  | '0' :: 'o' :: ds => scanRadix 8 ['0', 'o'] ds (p + 2)
  | '0' :: 'O' :: ds => scanRadix 8 ['0', 'O'] ds (p + 2)
  | '0' :: 'b' :: ds => scanRadix 2 ['0', 'b'] ds (p + 2)
  | '0' :: 'B' :: ds => scanRadix 2 ['0', 'B'] ds (p + 2)
  | _ =>
    let (whole, rest) := takeDigits 10 cs
    let q := p + whole.length
    let issues := separatorIssues whole p
    let legacy := whole.length > 1 && whole.head? = some '0'
    let octal := legacy && whole.all (isDigitOf 8)
    match rest with
    | 'n' :: after =>
      endNumber ⟨.bigint (digitsValue 10 whole) (String.ofList (whole ++ ['n'])), after, q + 1, issues⟩
    | _ =>
      if octal then
        endNumber ⟨.number (Float.ofNat (digitsValue 8 whole)) (String.ofList whole), rest, q,
          issues ++ [⟨p, .octalLiteral⟩]⟩
      else
        let issues := if legacy then issues ++ [⟨p, .decimalEscape⟩] else issues
        let (point, fraction, rest, q) : List Char × List Char × List Char × Nat := match rest with
          | '.' :: after =>
            let (digits, left) := takeDigits 10 after
            (['.'], digits, left, q + 1 + digits.length)
          | _ => ([], [], rest, q)
        let issues := issues ++ separatorIssues fraction (q - fraction.length)
        match scanExponent rest q with
        | .error problem => badNumber problem rest q
        | .ok (expText, power, rest, q, more) =>
          let value := decimalValue (digitsValue 10 (whole ++ fraction))
            (power - (withoutSeparators fraction).length)
          endNumber ⟨.number value (String.ofList (whole ++ point ++ fraction ++ expText)), rest, q,
            issues ++ more⟩

/-! ### Marks -/

/-- The marks, a longer one before those it starts with. -/
def marks : List (List Char) :=
  [">>>=", "...", "===", "!==", "**=", "<<=", ">>=", ">>>", "&&=", "||=", "??=", "=>", "==", "!=",
    "<=", ">=", "&&", "||", "??", "?.", "++", "--", "+=", "-=", "*=", "/=", "%=", "&=", "|=", "^=",
    "<<", ">>", "**", "\x7b", "\x7d", "(", ")", "[", "]", ".", ";", ",", "<", ">", "+", "-", "*",
    "/", "%", "&", "|", "^", "!", "~", "?", ":", "=", "@", "#"].map String.toList

/-- The mark at the start of the text. -/
def markAt? (cs : List Char) : Option (List Char) :=
  match marks.find? fun m => m.isPrefixOf cs with
  | some ['?', '.'] =>
    match cs[2]? with
    | some c => if c.isDigit then some ['?'] else some ['?', '.']
    | none => some ['?', '.']
  | found => found

/-! ### Tokens -/

/-- Whether a character may start a word. -/
def startsWord (c : Char) : Bool := isIdentifierStart c || c = '\\'

/-- Whether the text starts with the mark of a conflict between two versions of it. -/
def startsConflict (text : List Char) : Bool :=
  match text with
  | c :: cs => "<>|".toList.contains c && cs.take 7 = List.replicate 6 c ++ [' ']
  | [] => false

/-- The next token of the text from the place on. -/
def lex (text : List Char) (place : Nat) : Token :=
  let gap := skipGap .blank (place = 0) [] 0 text place
  let lo := gap.place
  let make (lexeme : Lexeme) (hi : Nat) (rest : List Char) (issues : List Problem) : Token :=
    ⟨lexeme, lo, hi, gap.lineEnd, gap.issues ++ issues, gap.rest, rest⟩
  match gap.rest with
  | [] => make .finish lo [] []
  | c :: cs =>
    if startsWord c then
      let w := scanWord [] false [] 0 (c :: cs) lo
      let word := String.ofList w.chars
      match w.failure with
      | some problem =>
        if w.chars.isEmpty then make (.bad problem) (lo + 1) cs []
        else make (.word word w.escaped) w.place w.rest w.issues
      | none =>
        if w.escaped && c ≠ '\\' && isReserved word then
          make (.bad ⟨lo, .wordEscape word⟩) w.place w.rest w.issues
        else make (.word word w.escaped) w.place w.rest w.issues
    else if c.isDigit || (c = '.' && (cs.head?.map Char.isDigit).getD false) then
      let n := scanNumber (c :: cs) lo
      make n.lexeme n.place n.rest n.issues
    else if c = '"' || c = '\'' then
      let s := scanString c [] [] 0 cs (lo + 1)
      match s.failure with
      | some problem => make (.bad problem) s.place s.rest s.issues
      | none =>
        let raw := String.ofList ((c :: cs).take (s.place - lo))
        let unclosed : List Problem := if s.closed then [] else [⟨lo, .unterminatedString⟩]
        make (.string (String.ofList (joinHalves s.chars)) raw) s.place s.rest (s.issues ++ unclosed)
    else if c = '\x60' then make .backtick (lo + 1) cs []
    else if gap.lineEnd && startsConflict (c :: cs) then
      let line := (c :: cs).takeWhile fun d => !isLineEnd d
      let problem : Problem := ⟨lo, .conflictMarker⟩
      make (.bad problem) (lo + line.length) ((c :: cs).drop line.length) [problem]
    else
      match markAt? (c :: cs) with
      | some m => make (.punct (String.ofList m)) (lo + m.length) ((c :: cs).drop m.length) []
      | none => make (.bad ⟨lo, .unexpectedCharacter c⟩) (lo + 1) cs []

end Script

end NotebookEngine
