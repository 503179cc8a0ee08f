/-
**Lists in angle brackets.**

Main definitions:

* `Script.innerType`, `Script.plainType` — types within other phrases;
* `Script.typeArguments` — the types that something is used with;
* `Script.typeParameters` — the names for types that something declares.
-/

import NotebookEngine.Script.Parser.Names

set_option autoImplicit false

namespace NotebookEngine

namespace Script

/-! ### Angle brackets -/

/-- Cuts the token after its first character if it is a longer mark that starts with it. -/
def cutMark (c : Char) : Parser Unit :=
  modify fun s =>
    let t := s.token
    match t.lexeme with
    | .punct p =>
      if p.length > 1 && p.toList.head? = some c && p ≠ "=>" then
        { s with
          token := { t with lexeme := .punct c.toString, hi := t.lo + 1, rest := t.text.tail } }
      else s
    | _ => s

/-- Goes over an opening angle bracket, which must be there. -/
def openAngle : Parser Unit := do
  cutMark '<'
  expect "<"

/-- Whether the token starts with a closing angle bracket. -/
def atCloseAngle : Parser Bool := do
  match (← get).token.lexeme with
  | .punct p => pure (p.toList.head? = some '>')
  | _ => pure false

/-- Goes over a closing angle bracket, which must be there. -/
def closeAngle : Parser Unit := do
  cutMark '>'
  expect ">"

/-- A type within another one. -/
def innerType (rec : Grammar) : Parser Unit := do
  let _ ← within (fun c => { c with plainTypes := false }) (rec .typeExpr)

/-- A type that may not be conditional. -/
def plainType (rec : Grammar) : Parser Unit := do
  let _ ← within (fun c => { c with plainTypes := true }) (rec .typeExpr)

/-- An item of a list in angle brackets. -/
def angleItem (item : Parser Unit) : Parser (Option Unit) := do
  if ← atCloseAngle then pure none
  else
    item
    if !(← atCloseAngle) then expect ","
    pure (some ())

/-- Types in angle brackets. -/
def typeArguments (rec : Grammar) : Parser Unit := do
  let lo ← here
  openAngle
  let items ← sequenceOf (angleItem (innerType rec))
  closeAngle
  if items.isEmpty then noteAt lo .emptyTypeArguments

/-- Type arguments, if they are there. -/
def typeArgumentsHere (rec : Grammar) : Parser Unit := do
  if (← setting).typed && ((← at? "<") || (← at? "<<")) then typeArguments rec

/-! ### Type parameters -/

/-- The words that may be written before a member or a parameter. -/
def parameterModifiers : List String :=
  ["public", "private", "protected", "readonly", "abstract", "const", "override", "in", "out"]

/-- What declares type parameters. -/
structure ParameterOwner where
  /-- The parameters may say which way they vary. -/
  varied : Bool
  /-- The parameters may be constant. -/
  constant : Bool

/-- A class. -/
def ParameterOwner.ofClass : ParameterOwner := ⟨true, true⟩

/-- An interface, or a name for a type. -/
def ParameterOwner.ofType : ParameterOwner := ⟨true, false⟩

/-- A function. -/
def ParameterOwner.ofFunction : ParameterOwner := ⟨false, true⟩

/-- The fault of a modifier after those that were seen, the last first. -/
def ParameterOwner.complaint? (owner : ParameterOwner) (seen : List String) (word : String) :
    Option Complaint :=
  if word = "const" then if owner.constant then none else some (.constantModifier word)
  else if word = "in" || word = "out" then
    if !owner.varied then some (.varianceModifier word)
    else if seen.contains word then some (.modifierRepeated word)
    else if word = "in" && seen.contains "out" then some (.modifierOrder "in" "out")
    else none
  else some (.parameterModifier word)

/-- One more modifier of a type parameter; the answer holds those seen so far, the last first. -/
def parameterModifier (owner : ParameterOwner) (seen : List String) :
    Parser (Option (List String)) := do
  match ← modifier? parameterModifiers false with
  | none => pure none
  | some word =>
    match owner.complaint? seen word with
    | some complaint => noteAt (← get).before.lo complaint
    | none => pure ()
    pure (some (word :: seen))

/-- The declaration of a type parameter. -/
def typeParameter (rec : Grammar) (owner : ParameterOwner) : Parser Unit := do
  let _ ← extend (parameterModifier owner) []
  let _ ← anyName
  if ← eatWord "extends" then innerType rec
  if ← eat "=" then innerType rec

/-- Type parameters in angle brackets, if they are there. -/
def typeParameters (rec : Grammar) (owner : ParameterOwner) : Parser Unit := do
  if (← setting).typed && (← at? "<") then
    step
    let _ ← sequenceOf (angleItem (typeParameter rec owner))
    closeAngle

end Script

end NotebookEngine
