/-
**The commands.**

A notebook can be run with its progress shown, written out as a script, or compiled into the program that
a run would evaluate.

Main definitions:

* `Command.Invocation` — what a command line asks for;
* `Command.Outcome` — what carrying it out gives;
* `Command.execute` — a whole command line.
-/

import NotebookEngine.Command.Help
import NotebookEngine.Document.Reader
import NotebookEngine.Run.Evaluate
import NotebookEngine.SourceMap.Printer
import NotebookEngine.Decimal.Layout

set_option autoImplicit false

namespace NotebookEngine

namespace Command

/-! ### Outcomes -/

/-- What carrying out a command gives. -/
structure Outcome where
  output : String
  errors : String
  status : Nat
  files : FileTree
  deriving Inhabited

namespace Outcome

/-- The outcome of doing nothing. -/
def start (files : FileTree) : Outcome := ⟨"", "", 0, files⟩

/-- One more text of output. -/
def print (o : Outcome) (text : String) : Outcome := { o with output := o.output ++ text }

/-- One more line of output. -/
def printLine (o : Outcome) (line : String) : Outcome := o.print (line ++ "\n")

/-- One more line of errors. -/
def complain (o : Outcome) (line : String) : Outcome := { o with errors := o.errors ++ line ++ "\n" }

/-- The command has failed. -/
def fail (o : Outcome) (message : String) : Outcome :=
  { o.complain ("Error: " ++ message) with status := 1 }

end Outcome

/-! ### Styles -/

/-- How text is set off on a terminal. -/
inductive Style where
  | header
  | timing
  | running
  | done
  | shown
  | error
  | notice
  | warning
  deriving DecidableEq, Inhabited

/-- The number of a style. -/
def Style.code : Style → String
  | .header => "1"
  | .timing => "2"
  | .running => "36"
  | .done => "32"
  | .shown => "34"
  | .error => "31"
  | .notice => "33"
  | .warning => "33"

/-- A text that is set off. -/
def paint (s : Style) (text : String) : String := "\x1b[" ++ s.code ++ "m" ++ text ++ "\x1b[0m"

/-- A line across the terminal. -/
def rule : String := String.ofList (List.replicate 50 '─')

/-! ### Times -/

/-- A time with a number of digits after the point, in units of so many nanoseconds. -/
def timeText (nanos unit digits : Nat) : String :=
  let scaled := (nanos * Nat.pow 10 digits * 2 + unit) / (2 * unit)
  let fraction := toString (scaled % Nat.pow 10 digits)
  toString (scaled / Nat.pow 10 digits) ++ "." ++
    String.ofList (List.replicate (digits - fraction.length) '0') ++ fraction

/-- A time in milliseconds. -/
def millisText (nanos : Nat) : String := timeText nanos 1000000 1 ++ "ms"

/-- A time in seconds. -/
def secondsText (nanos : Nat) : String := timeText nanos 1000000000 2 ++ "s"

/-! ### Progress -/

/-- Lines of a text without the line ends after it. -/
def shownLines (text : String) : List String :=
  Text.linesOf (String.ofList (text.toList.reverse.dropWhile (· = '\n')).reverse)

/-- The lines of a cell's output. -/
def outputLines (style? : Option Style) (text : String) : String :=
  String.join ((shownLines text).map fun line =>
    "    " ++ (style?.elim line fun s => paint s line) ++ "\n")

/-- An event as progress shows it; a cell has started at `start?`. -/
def eventText (start? : Option Nat) (moment : Nat) : Event → String
  | .started cell => paint .running "  ▶ Running" ++ " " ++ paint .header cell ++ "\n"
  | .ended cell =>
    let elapsed := start?.elim "" fun s =>
      " " ++ paint .timing ("(" ++ millisText (moment - s) ++ ")")
    paint .done "  ✓" ++ " " ++ cell ++ elapsed ++ "\n"
  | .display _ kind? data =>
    let text := match data with
      | .str s => s
      | v => v.pretty
    outputLines (if kind? = some "text" then none else some .shown) text
  | .error cell message =>
    paint .error ("  ✗ " ++ (if cell.isEmpty then "notebook" else cell)) ++ "\n" ++
      outputLines (some .error) message
  | .capped => paint .notice "  ! Output limit reached, further output is dropped" ++ "\n"
  | .completed => ""

/-- A warning as a log shows it. -/
def warningText (time text : String) : String :=
  paint .timing time ++ " " ++ paint .warning " WARN" ++ " " ++ text ++ "\n"

/-- Show the notices of a run one after the other. -/
def showNotices (time : String) (o : Outcome) (ns : List Notice.Timed) : Outcome :=
  (ns.foldl
    (fun (o, start?) n =>
      match n.notice with
      | .event e =>
        let start? := match e with
          | .started _ => some n.moment
          | _ => start?
        (Outcome.print o (eventText start? n.moment e), start?)
      | .passed .output text => (o.print text, start?)
      | .passed .error text => ({ o with errors := o.errors ++ text }, start?)
      | .warning text => ({ o with errors := o.errors ++ warningText time text }, start?))
    (o, (none : Option Nat))).1

/-! ### Notebooks -/

/-- The notebook at a path. -/
def loadNotebook (fresh : Nat → String) (files : FileTree) (path : String) : Except String Notebook :=
  if !files.isFile path then .error ("Notebook not found: " ++ path)
  else
    let read : Except Failure Notebook := match files.readText path with
      | .ok text => Notebook.read fresh text
      | .error fault => .error (.file fault.message)
    read.mapError Failure.hinted

/-- The name under which messages tell of a notebook. -/
def notebookName (path : String) : String := (Path.fileName? path).elim path String.ofList

/-- The directory of a notebook. -/
def notebookDirectory (path : String) : String :=
  match Path.parent? path with
  | some directory => if directory.isEmpty then "." else directory
  | none => "."

/-- Write a file. -/
def writeFile (o : Outcome) (path text : String) : Except Outcome Outcome :=
  match o.files.writeText path text with
  | .ok files => .ok { o with files }
  | .error fault => .error (o.fail fault.message)

/-! ### The commands -/

/-- What a command line asks for. -/
inductive Invocation where
  | run (notebook : String) (project? : Option String) (install environment echo : Bool)
  | exportScript (notebook : String) (output? : Option String)
  | generate (notebook : String) (output? : Option String) (map : Bool)
  deriving Inhabited

/-- What commands need to know of their surroundings. -/
structure Surroundings where
  files : FileTree
  /-- The identities of cells that have none. -/
  fresh : Nat → String
  /-- The installing program, if there is one. -/
  installer? : Option String
  /-- The time as the log shows it. -/
  time : String

/-- The end of a run's progress. -/
def summary (o : Outcome) (count limit : Nat) (r : Evaluation.Report) : Outcome :=
  let o := o.printLine ("\n" ++ rule)
  let o := if r.capped then
      o.printLine (paint .notice ("Output was capped at " ++ toString limit ++ " entries"))
    else o
  let elapsed := secondsText r.elapsed
  if r.succeeded then
    o.printLine (paint .done "Completed" ++ " " ++ toString count ++ " cells in " ++ elapsed ++
      " (evaluation: " ++ elapsed ++ ")")
  else
    (o.printLine (paint .error "Failed" ++ " with " ++ toString r.errors ++ " error(s) in " ++
      elapsed)).fail ("Evaluation reported " ++ toString r.errors ++ " error(s)")

/-- Run a notebook. -/
def runNotebook (s : Surroundings) (path : String) (project? : Option String)
    (install environment echo : Bool) : Outcome :=
  let o := Outcome.start s.files
  match loadNotebook s.fresh s.files path with
  | .error message => o.fail message
  | .ok notebook =>
    let name := notebookName path
    let count := notebook.codeCells.length
    let o := (((o.printLine ("\n" ++ paint .header "Ember Run" ++ " - " ++ paint .running name)).printLine
      rule).printLine ("Found " ++ toString count ++ " code cells"))
    if count = 0 then o.printLine ("\n" ++ paint .notice "No code cells found in notebook.")
    else
      let evaluation : Evaluation :=
        { settings := { Settings.default with echo }
          compiler := Program.compile
          installer := if install then Installer.command s.installer? else Installer.none
          fileName := name
          project := project?.getD (notebookDirectory path) }
      let o := o.printLine ""
      let report := evaluation.report notebook.cells s.files
      let o := showNotices s.time { o with files := report.files } report.notices
      match report.failure? with
      | some failure => o.fail failure.hinted
      | none =>
        let o := if environment then
            (o.printLine ("\n" ++ paint .header "Environment:")).printLine (Json.obj report.environment).pretty
          else o
        summary o count evaluation.settings.maxOutputs report

/-- Write a notebook out as a script. -/
def exportNotebook (s : Surroundings) (path : String) (output? : Option String) : Outcome :=
  let o := Outcome.start s.files
  match loadNotebook s.fresh s.files path with
  | .error message => o.fail message
  | .ok notebook =>
    let script := Program.exported notebook.cells
    match output? with
    | none => o.print script
    | some output =>
      match writeFile o output script with
      | .error o => o
      | .ok o =>
        o.complain (paint .done "Exported" ++ " " ++ toString notebook.codeCells.length ++
          " code cells to " ++ output)

/-- A diagnostic as the command shows it. -/
def diagnosticText (d : Diagnostic) : String :=
  let place := d.place?.elim "" fun p => " (" ++ p.file ++ ":" ++ toString p.line ++ ")"
  paint .error "error" ++ place ++ ": " ++ d.message

/-- Compile the program that a run would evaluate. -/
def generateProgram (s : Surroundings) (path : String) (output? : Option String) (map : Bool) : Outcome :=
  let o := Outcome.start s.files
  match loadNotebook s.fresh s.files path with
  | .error message => o.fail message
  | .ok notebook =>
    let g := Program.build Program.compile notebook.codeCells (notebookDirectory path)
    let o := g.diagnostics.foldl (fun o d => Outcome.complain o (diagnosticText d)) o
    match g.program with
    | .error failure => o.fail failure.hinted
    | .ok text =>
      let map? := if map then
          g.finalMap?.map fun m => SourceMap.write { m with file? := some (notebookName path) }
        else none
      match output? with
      | none => (map?.toList.foldl Outcome.printLine (o.printLine text))
      | some output =>
        let written : Except Outcome Outcome := do
          let o ← writeFile o output text
          match map? with
          | none => pure o
          | some m =>
            let o ← writeFile o (output ++ ".map") m
            pure (o.complain ("Wrote source map to " ++ output ++ ".map"))
        match written with
        | .error o => o
        | .ok o => o.complain (paint .done "Generated" ++ " " ++ output)

/-- Do what a command line asks for. -/
def Invocation.execute (s : Surroundings) : Invocation → Outcome
  | .run notebook project? install environment echo =>
    runNotebook s notebook project? install environment echo
  | .exportScript notebook output? => exportNotebook s notebook output?
  | .generate notebook output? map => generateProgram s notebook output? map

/-! ### The command line -/

/-- The switch that every command takes. -/
def verboseSwitch : Switch := ⟨some 'v', "verbose", none, "Enable verbose logging"⟩

/-- The switch that asks for help. -/
def helpSwitch : Switch := ⟨some 'h', "help", none, "Print help"⟩

/-- The switch that asks for the version. -/
def versionSwitch : Switch := ⟨some 'V', "version", none, "Print version"⟩

/-- The switch that names a file to write. -/
def outputSwitch : Switch := ⟨some 'o', "output", some "OUTPUT", "Output path (default: stdout)"⟩

/-- The notebook that a command works on. -/
def notebookOperand : String × String := ("NOTEBOOK", "Path to the notebook (.json file)")

/-- Running a notebook. -/
def runForm : Form :=
  { name := "ember run", about := "Run a notebook headlessly", operand? := some notebookOperand
    commands := []
    switches :=
      [⟨none, "project", some "PROJECT",
          "Project directory modules are installed into (default: notebook's directory)"⟩,
       ⟨none, "no-install", none, "Skip installing missing npm packages"⟩,
       ⟨none, "env", none, "Print the captured environment as JSON after the run"⟩,
       ⟨none, "echo", none, "Also write console output straight to the terminal"⟩,
       verboseSwitch, helpSwitch] }

/-- Writing a notebook out as a script. -/
def exportForm : Form :=
  { name := "ember export", about := "Export notebook as a standalone script"
    operand? := some notebookOperand, commands := []
    switches := [outputSwitch, verboseSwitch, helpSwitch] }

/-- Compiling the program of a notebook. -/
def generateForm : Form :=
  { name := "ember generate", about := "Print the compiled evaluation program"
    operand? := some notebookOperand, commands := []
    switches :=
      [outputSwitch, ⟨none, "map", none, "Also write the source map next to the output"⟩,
       verboseSwitch, helpSwitch] }

/-- What the help command does. -/
def helpAbout : String := "Print this message or the help of the given subcommand(s)"

/-- How the help command is used. -/
def helpUsage : String := "\n\nUsage: ember help [COMMAND]...\n"

/-- The help of the help command. -/
def helpHelp : String :=
  helpAbout ++ helpUsage ++ "\nArguments:\n  [COMMAND]...  Print help for the subcommand(s)\n"

/-- The whole command line. -/
def topForm : Form :=
  { name := "ember", about := "Evaluate JavaScript/TypeScript notebooks", operand? := none
    commands :=
      [("run", "Run a notebook headlessly"), ("export", "Export notebook as a standalone script"),
       ("generate", "Print the compiled evaluation program"),
       ("help", helpAbout)]
    switches := [verboseSwitch, helpSwitch, versionSwitch] }

/-- The commands by their names. -/
def form? : String → Option Form
  | "run" => some runForm
  | "export" => some exportForm
  | "generate" => some generateForm
  | _ => none

/-- What was given to a command as what it asks for. -/
def invocation (name : String) (g : Given) : Invocation :=
  let notebook := g.operand?.getD ""
  match name with
  | "run" =>
    .run notebook (g.value? "project") (!g.has "no-install") (g.has "env") (g.has "echo")
  | "export" => .exportScript notebook (g.value? "output")
  | _ => .generate notebook (g.value? "output") (g.has "map")

/-- The outcome of words that stopped the reading. -/
def Stop.outcome (files : FileTree) (f : Form) : Stop → Outcome
  | .help => (Outcome.start files).print f.helpText
  | .nothing => { Outcome.start files with errors := f.helpText, status := 2 }
  | .version => (Outcome.start files).print "ember 0.1.0-beta.1\n"
  | .misuse m before => { Outcome.start files with errors := m.text f before, status := 2 }

/-- The outcome of the words after `help`. -/
def helpOutcome (files : FileTree) : List String → Outcome
  | [] => Stop.help.outcome files topForm
  | word :: rest =>
    match form? word, rest with
    | some f, [] => Stop.help.outcome files f
    | some f, next :: _ => (Stop.misuse (.unknownTopic next) .empty).outcome files f
    | none, _ =>
      if word ≠ "help" then (Stop.misuse (.unknownTopic word) .empty).outcome files topForm
      else
        match rest with
        | [] => (Outcome.start files).print helpHelp
        | next :: _ =>
          { Outcome.start files with
            errors := "error: unrecognized subcommand '" ++ next ++ "'" ++ helpUsage
            status := 2 }

/-- Carry out the words of a command line; some switches may have been given before. -/
def executeFrom (s : Surroundings) : List String → Given → Bool → Outcome
  | [], g, _ =>
    if g.switches.isEmpty then Stop.nothing.outcome s.files topForm
    else (Stop.misuse .missingCommand g).outcome s.files topForm
  | word :: rest, g, trailing =>
    if trailing then
      let known := word = "help" || (form? word).isSome
      let m := if known then Misuse.commandAfterDashes word else .unknownCommand word
      (Stop.misuse m .empty).outcome s.files topForm
    else if word = "--" then executeFrom s rest g true
    else if isSwitchLike word then
      match topForm.readSwitch [runForm, exportForm, generateForm] rest g word with
      | .error stop => stop.outcome s.files topForm
      | .ok (g, _) => executeFrom s rest g false
    else if word = "help" then helpOutcome s.files rest
    else
      match form? word with
      | none => (Stop.misuse (.unknownCommand word) .empty).outcome s.files topForm
      | some f =>
        match f.read rest with
        | .error stop => stop.outcome s.files f
        | .ok given => (invocation word given).execute s

/-- Carry out a command line. -/
def execute (s : Surroundings) (words : List String) : Outcome := executeFrom s words .empty false

end Command

end NotebookEngine
