/-
**What a command line says about itself.**

Main definitions:

* `Command.Form.usage`, `Command.Form.usageWith` — how a command is used;
* `Command.Form.helpText` — the help of a command;
* `Command.Misuse.text` — the complaint about words that have no place.
-/

import NotebookEngine.Command.Grammar

set_option autoImplicit false

namespace NotebookEngine

namespace Command

/-! ### Usage -/

namespace Form

/-- The operand as usages show it. -/
def operandMark (f : Form) : String := f.operand?.elim "" fun (name, _) => " <" ++ name ++ ">"

/-- The command to choose as usages show it. -/
def commandMark (f : Form) : String := if f.commands.isEmpty then "" else " <COMMAND>"

/-- How a command is used. -/
def usage (f : Form) : String := f.name ++ " [OPTIONS]" ++ f.operandMark ++ f.commandMark

/-- How a command is used with the switches that were given. -/
def usageWith (f : Form) (g : Given) : String :=
  f.name ++ String.join (g.switches.map fun (s, _) => " " ++ s.shown) ++ f.operandMark ++ f.commandMark

/-- How a command is used, with the switches that were given if something was. -/
def usageAfter (f : Form) (g : Given) : String :=
  if g.switches.isEmpty && g.operand?.isNone then f.usage else f.usageWith g

/-! ### Help -/

/-- Lines of two columns. -/
def columns (rows : List (String × String)) : String :=
  let width := (rows.map fun (left, _) => left.length).foldl max 0
  String.join (rows.map fun (left, right) =>
    "  " ++ left ++ String.ofList (List.replicate (width - left.length) ' ') ++ "  " ++ right ++ "\n")

/-- A switch as help shows it. -/
def switchMark (s : Switch) : String :=
  (match s.letter? with
    | some c => "-" ++ c.toString ++ ", "
    | none => "    ") ++ s.shown

/-- A part of the help with its title. -/
def titled (title : String) (rows : List (String × String)) : String :=
  if rows.isEmpty then "" else "\n" ++ title ++ ":\n" ++ columns rows

/-- The help of a command. -/
def helpText (f : Form) : String :=
  f.about ++ "\n\nUsage: " ++ f.usage ++ "\n" ++ titled "Commands" f.commands ++
    titled "Arguments" (f.operand?.toList.map fun (name, help) => ("<" ++ name ++ ">", help)) ++
    titled "Options" (f.switches.map fun s => (switchMark s, s.help))

end Form

/-! ### Complaints -/

/-- Advice in a complaint. -/
def tip (text : String) : String := "\n\n  tip: " ++ text

/-- Advice that names similar words. -/
def similarTip (what : String) (words : List String) : String :=
  let shown := ", ".intercalate (words.map fun w => "'" ++ w ++ "'")
  match words with
  | [] => ""
  | [_] => tip ("a similar " ++ what ++ " exists: " ++ shown)
  | _ => tip ("some similar " ++ what ++ "s exist: " ++ shown)

/-- How a complaint ends. -/
def complaintEnd : String := "\n\nFor more information, try '--help'.\n"

/-- The complaint about words that have no place, for a command that was given what came before. -/
def Misuse.text (m : Misuse) (f : Form) (before : Given) : String :=
  let usage (u : String) : String := "\n\nUsage: " ++ u
  let body := match m with
    | .unknown word similar? elsewhere? operand =>
      "unexpected argument '" ++ word ++ "' found" ++
        similarTip "argument" (similar?.toList.map fun s => "--" ++ s.name) ++
        (elsewhere?.elim "" fun s => tip ("'" ++ s ++ "' exists")) ++
        (if operand then tip ("to pass '" ++ word ++ "' as a value, use '-- " ++ word ++ "'") else "") ++
        usage (f.usageAfter before)
    | .unknownCommand word =>
      "unrecognized subcommand '" ++ word ++ "'" ++
        similarTip "subcommand" (similarWords word (f.commands.map Prod.fst)) ++ usage f.usage
    | .unknownTopic word => "unrecognized subcommand '" ++ word ++ "'" ++ usage f.usage
    | .commandAfterDashes word =>
      "subcommand '" ++ word ++ "' exists; to use it, remove the '--' before it" ++ usage f.usage
    | .missingCommand =>
      "'" ++ f.name ++ "' requires a subcommand but one was not provided\n  [subcommands: " ++
        ", ".intercalate (f.commands.map Prod.fst) ++ "]" ++ usage f.usage
    | .missingOperand =>
      "the following required arguments were not provided:\n " ++ f.operandMark ++
        usage (f.usageWith before)
    | .missingValue s => "a value is required for '" ++ s.shown ++ "' but none was supplied"
    | .repeated s =>
      "the argument '" ++ s.shown ++ "' cannot be used multiple times" ++ usage f.usage
    | .needlessValue s value =>
      "unexpected value '" ++ value ++ "' for '" ++ s.shown ++ "' found; no more were expected" ++
        usage (f.usageAfter before)
  "error: " ++ body ++ complaintEnd

end Command

end NotebookEngine
