/-
**The words of a command line.**

A command takes switches, some of them with a value, and may take one operand.  The words are read from
left to right; the first one that has no place ends the reading.

Main definitions:

* `Command.Switch`, `Command.Form` — what a command takes;
* `Command.Given` — what was given;
* `Command.Misuse` — why words have no place;
* `Command.Form.read` — the words of a command.
-/

set_option autoImplicit false

namespace NotebookEngine

namespace Command

/-! ### Forms -/

/-- A switch of a command. -/
structure Switch where
  letter? : Option Char
  name : String
  /-- What its value is called, if it takes one. -/
  value? : Option String
  help : String
  deriving DecidableEq, Inhabited

/-- The switch as messages show it. -/
def Switch.shown (s : Switch) : String :=
  "--" ++ s.name ++ (s.value?.elim "" fun v => " <" ++ v ++ ">")

/-- What a command takes. -/
structure Form where
  /-- The words that name the command. -/
  name : String
  about : String
  /-- What the operand is called, if the command takes one, and what it is. -/
  operand? : Option (String × String)
  /-- The commands to choose from, with what they do. -/
  commands : List (String × String)
  switches : List Switch
  deriving Inhabited

namespace Form

/-- The switch of a name. -/
def switch? (f : Form) (name : String) : Option Switch := f.switches.find? fun s => s.name = name

/-- The switch of a letter. -/
def letter? (f : Form) (c : Char) : Option Switch := f.switches.find? fun s => s.letter? = some c

end Form

/-- What was given to a command. -/
structure Given where
  operand? : Option String
  /-- The switches in order, with their values. -/
  switches : List (Switch × Option String)
  deriving Inhabited

namespace Given

/-- Nothing. -/
def empty : Given := ⟨none, []⟩

/-- Whether a switch was given. -/
def has (g : Given) (name : String) : Bool := g.switches.any fun (s, _) => s.name = name

/-- The value of a switch. -/
def value? (g : Given) (name : String) : Option String :=
  (g.switches.find? fun (s, _) => s.name = name).bind Prod.snd

/-- One more switch. -/
def add (g : Given) (s : Switch) (value? : Option String) : Given :=
  { g with switches := g.switches ++ [(s, value?)] }

end Given

/-! ### Misuse -/

/-- Why words have no place. -/
inductive Misuse where
  /-- A word that means nothing here: a switch that is named like it, or a command that has the switch;
  whether it could be meant as an operand. -/
  | unknown (word : String) (similar? : Option Switch) (elsewhere? : Option String) (operand : Bool)
  | unknownCommand (word : String)
  /-- A word of which help is asked for. -/
  | unknownTopic (word : String)
  /-- A command that follows the sign that no switches follow. -/
  | commandAfterDashes (word : String)
  | missingCommand
  | missingOperand
  | missingValue (s : Switch)
  | repeated (s : Switch)
  | needlessValue (s : Switch) (value : String)
  deriving Inhabited

/-- Why reading stopped. -/
inductive Stop where
  /-- Help was asked for. -/
  | help
  /-- Nothing was asked for at all. -/
  | nothing
  | version
  | misuse (m : Misuse) (before : Given)
  deriving Inhabited

/-! ### Similar words -/

/-- The place of the first letter like `c`, from a place on, that is not taken; places are below `stop`. -/
def freeMatch (letters : List Char) (taken : List Nat) (c : Char) (start stop : Nat) : Option Nat :=
  (List.range (min stop letters.length)).find? fun j =>
    start ≤ j && letters[j]? = some c && !taken.contains j

/-- The letters of one word that are found near their place in another, with the places found. -/
def matchedLetters (xs ys : List Char) : List (Char × Nat) :=
  let reach := max xs.length ys.length / 2 - 1
  (xs.zipIdx.foldl
    (fun (found : List (Char × Nat)) (c, i) =>
      match freeMatch ys (found.map Prod.snd) c (i - reach) (i + reach + 1) with
      | some j => found ++ [(c, j)]
      | none => found) [])

/-- How alike two words are, as a fraction: the mean of the shares of letters that both have and of those
that are in the same order. -/
def likeness (a b : String) : Nat × Nat :=
  let xs := a.toList
  let ys := b.toList
  let found := matchedLetters xs ys
  let m := found.length
  if m = 0 then (0, 1)
  else
    let places := (found.map Prod.snd).mergeSort (· ≤ ·)
    let there := places.filterMap (ys[·]?)
    let displaced := ((found.map Prod.fst).zip there).countP fun (c, d) => c ≠ d
    let t := displaced / 2
    (m * m * ys.length + m * m * xs.length + (m - t) * xs.length * ys.length,
      3 * m * xs.length * ys.length)

/-- Words that are alike enough to be meant, the most alike last. -/
def similarWords (word : String) (words : List String) : List String :=
  let rated := (words.map fun w => (likeness word w, w)).filter fun ((n, d), _) => 7 * d < 10 * n
  (rated.mergeSort fun ((n, d), _) ((k, e), _) => n * e ≤ k * d).map Prod.snd

/-! ### Reading -/

/-- Whether a word is written like a switch. -/
def isSwitchLike (word : String) : Bool := word.startsWith "-" && word ≠ "-"

/-- The name and the value of a word that follows two dashes. -/
def splitName (cs : List Char) : String × Option String :=
  match cs.dropWhile (· ≠ '=') with
  | _ :: value => (String.ofList (cs.takeWhile (· ≠ '=')), some (String.ofList value))
  | [] => (String.ofList cs, none)

namespace Form

/-- What reading a switch gives: what was given so far, and a switch that waits for its value. -/
abbrev Reading := Except Stop (Given × Option Switch)

/-- Take a switch without a value. -/
def takeFlag (s : Switch) (g : Given) : Except Stop Given :=
  if s.name = "help" then .error .help
  else if s.name = "version" then .error .version
  else if g.has s.name then .error (.misuse (.repeated s) .empty)
  else .ok (g.add s none)

/-- Take a switch with its value. -/
def takeValue (s : Switch) (value : String) (g : Given) : Except Stop Given :=
  if g.has s.name then .error (.misuse (.repeated s) .empty) else .ok (g.add s (some value))

/-- A switch that is named by nothing here. -/
def unknownName (f : Form) (others : List Form) (rest : List String) (g : Given) (name : String) : Stop :=
  match (similarWords name (f.switches.map Switch.name)).getLast?.bind f.switch? with
  | some s => .misuse (.unknown ("--" ++ name) (some s) none false) (if g.has s.name then g else g.add s none)
  | none =>
    let found := others.filterMap fun o => do
      let s ← (similarWords name (o.switches.map Switch.name)).getLast?
      let command := (o.name.splitOn " ").getLast?.getD ""
      let i ← rest.findIdx? (· = command)
      pure (i, command ++ " --" ++ s)
    let nearest := found.foldl
      (fun best (i, s) => match best with
        | some (j, _) => if i < j then some (i, s) else best
        | none => some (i, s)) (none : Option (Nat × String))
    .misuse (.unknown ("--" ++ name) none (nearest.map Prod.snd) f.operand?.isSome) g

/-- Read a word that follows two dashes. -/
def readName (f : Form) (others : List Form) (rest : List String) (g : Given) (cs : List Char) : Reading :=
  let (name, value?) := splitName cs
  match f.switch? name, value? with
  | none, _ => .error (f.unknownName others rest g name)
  | some s, some value =>
    if s.value?.isSome then do pure (← takeValue s value g, none)
    else
      let g := if g.has s.name then g else g.add s none
      .error (.misuse (.needlessValue s value) { g with operand? := none })
  | some s, none =>
    if s.value?.isSome then .ok (g, some s) else do pure (← takeFlag s g, none)

/-- Read letters that follow one dash. -/
def readLetters (f : Form) (g : Given) : List Char → Reading
  | [] => .ok (g, none)
  | c :: cs =>
    match f.letter? c with
    | none => .error (.misuse (.unknown ("-" ++ c.toString) none none f.operand?.isSome) .empty)
    | some s =>
      if s.value?.isSome then
        match cs with
        | [] => .ok (g, some s)
        | '=' :: value | value => do pure (← takeValue s (String.ofList value) g, none)
      else
        match takeFlag s g with
        | .error stop => .error stop
        | .ok g => readLetters f g cs

/-- Read an operand. -/
def readOperand (f : Form) (g : Given) (trailing : Bool) (word : String) : Except Stop Given :=
  if f.operand?.isSome && g.operand?.isNone then .ok { g with operand? := some word }
  else
    .error (.misuse (.unknown word none none (!trailing && f.operand?.isSome && isSwitchLike word)) .empty)

/-- Read a word that is written like a switch. -/
def readSwitch (f : Form) (others : List Form) (rest : List String) (g : Given) (word : String) : Reading :=
  match word.toList with
  | '-' :: '-' :: cs => f.readName others rest g cs
  | _ :: cs => f.readLetters g cs
  | [] => .ok (g, none)

/-- Whether a word that is written like a switch means something here. -/
def isKnown (f : Form) (word : String) : Bool :=
  match word.toList with
  | '-' :: '-' :: cs => (f.switch? (splitName cs).1).isSome
  | _ :: c :: _ => (f.letter? c).isSome
  | _ => false

/-- Read words; a switch may wait for its value, and no switches may follow any more. A switch that waits
when it is said that none follow gets no value. -/
def readWords (f : Form) : List String → Given → Option Switch → Bool → Except Stop Given
  | [], g, none, _ => .ok g
  | [], g, some s, _ => .error (.misuse (.missingValue s) g)
  | word :: rest, g, some s, trailing =>
    if !trailing && isSwitchLike word then
      if word = "--" then
        match rest with
        | next :: _ => do
          let g ← f.readOperand g true next
          .error (.misuse (.missingValue s) g)
        | [] => .error (.misuse (.missingValue s) g)
      else if f.isKnown word then .error (.misuse (.missingValue s) g)
      else
        match f.readSwitch [] rest g word with
        | .error stop => .error stop
        | .ok (g, waiting?) => f.readWords rest g waiting? trailing
    else
      match takeValue s word g with
      | .error stop => .error stop
      | .ok g => f.readWords rest g none trailing
  | word :: rest, g, none, trailing =>
    if !trailing && isSwitchLike word then
      if word = "--" then f.readWords rest g none true
      else
        match f.readSwitch [] rest g word with
        | .error stop => .error stop
        | .ok (g, waiting?) => f.readWords rest g waiting? trailing
    else
      match f.readOperand g trailing word with
      | .error stop => .error stop
      | .ok g => f.readWords rest g none trailing

/-- Read the words of a command. -/
def read (f : Form) (words : List String) : Except Stop Given := do
  let g ← f.readWords words .empty none false
  if f.operand?.isSome && g.operand?.isNone then throw (.misuse .missingOperand g)
  pure g

end Form

end Command

end NotebookEngine
