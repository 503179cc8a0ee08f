import NotebookEngine.Command.Execute
import NotebookEngine.Command.Grammar
import NotebookEngine.Command.Help
import NotebookEngine.Data.Table
import NotebookEngine.Decimal.Layout
import NotebookEngine.Decimal.Shortest
import NotebookEngine.Diagnostic
import NotebookEngine.Document.Notebook
import NotebookEngine.Document.Printer
import NotebookEngine.Document.Reader
import NotebookEngine.Engine.Action
import NotebookEngine.Engine.Classes
import NotebookEngine.Engine.Convert
import NotebookEngine.Engine.Expressions
import NotebookEngine.Engine.Functions
import NotebookEngine.Engine.Generators
import NotebookEngine.Engine.Hoisting
import NotebookEngine.Engine.Library.Arrays
import NotebookEngine.Engine.Library.Collections
import NotebookEngine.Engine.Library.Dates
import NotebookEngine.Engine.Library.Entry
import NotebookEngine.Engine.Library.Errors
import NotebookEngine.Engine.Library.Globals
import NotebookEngine.Engine.Library.Iterators
import NotebookEngine.Engine.Library.JsonData
import NotebookEngine.Engine.Library.Numbers
import NotebookEngine.Engine.Library.Objects
import NotebookEngine.Engine.Library.Promises
import NotebookEngine.Engine.Library.Regexps
import NotebookEngine.Engine.Library.Texts
import NotebookEngine.Engine.Library.Workbench
import NotebookEngine.Engine.Machine
import NotebookEngine.Engine.Operators
import NotebookEngine.Engine.Promise
import NotebookEngine.Engine.Property
import NotebookEngine.Engine.Reading
import NotebookEngine.Engine.Realm
import NotebookEngine.Engine.Running
import NotebookEngine.Engine.Statements
import NotebookEngine.Engine.Value
import NotebookEngine.Engine.World
import NotebookEngine.Failure
import NotebookEngine.Files.Path
import NotebookEngine.Files.Tree
import NotebookEngine.Json.Cursor
import NotebookEngine.Json.Printer
import NotebookEngine.Json.Reader
import NotebookEngine.Json.Record
import NotebookEngine.Json.Value
import NotebookEngine.Main
import NotebookEngine.Output.Ansi
import NotebookEngine.Output.Streams
import NotebookEngine.Package.CommandFile
import NotebookEngine.Package.Install
import NotebookEngine.Package.Name
import NotebookEngine.Package.Resolve
import NotebookEngine.Package.Specifier
import NotebookEngine.Program.Compile
import NotebookEngine.Program.Generate
import NotebookEngine.Program.Locals
import NotebookEngine.Proofs.Data.TableKeys
import NotebookEngine.Proofs.Engine.TimerRequests
import NotebookEngine.Proofs.Program.Layout
import NotebookEngine.Proofs.Run.Desk
import NotebookEngine.Proofs.Run.HostCalls
import NotebookEngine.Proofs.Run.InStep
import NotebookEngine.Proofs.Run.Requests
import NotebookEngine.Proofs.Run.Standing
import NotebookEngine.Proofs.Schedule.Agenda
import NotebookEngine.Proofs.Schedule.Ledger
import NotebookEngine.Proofs.Schedule.Refinement
import NotebookEngine.Proofs.SourceMap.Lookup
import NotebookEngine.Proofs.Text.Closed
import NotebookEngine.Proofs.Tracking.Counters
import NotebookEngine.Run.Drive
import NotebookEngine.Run.Evaluate
import NotebookEngine.Run.Host
import NotebookEngine.Run.Timers
import NotebookEngine.Schedule.Delay
import NotebookEngine.Schedule.Scheduler
import NotebookEngine.Script.Arithmetic
import NotebookEngine.Script.Complaint
import NotebookEngine.Script.Erasure
import NotebookEngine.Script.Letters
import NotebookEngine.Script.Lexer
import NotebookEngine.Script.Lowering
import NotebookEngine.Script.Parser
import NotebookEngine.Script.Parser.Expressions
import NotebookEngine.Script.Parser.Functions
import NotebookEngine.Script.Parser.Modules
import NotebookEngine.Script.Parser.Names
import NotebookEngine.Script.Parser.Patterns
import NotebookEngine.Script.Parser.State
import NotebookEngine.Script.Parser.Statements
import NotebookEngine.Script.Parser.Targets
import NotebookEngine.Script.Parser.Types
import NotebookEngine.Script.Printer
import NotebookEngine.Script.Syntax
import NotebookEngine.Script.Token
import NotebookEngine.SourceMap.Basic
import NotebookEngine.SourceMap.Printer
import NotebookEngine.SourceMap.Reader
import NotebookEngine.SourceMap.Vlq
import NotebookEngine.Stack.CellPlaces
import NotebookEngine.Stack.Frame
import NotebookEngine.Text.Blank
import NotebookEngine.Text.Bytes
import NotebookEngine.Text.Calendar
import NotebookEngine.Text.Case
import NotebookEngine.Text.Digits
import NotebookEngine.Text.Lines
import NotebookEngine.Text.Numeral
import NotebookEngine.Text.Regex
import NotebookEngine.Text.Units
import NotebookEngine.Tracking.Snapshot
import NotebookEngine.Tracking.Tracker
import NotebookEngine.Proofs.Run.Barrier
import NotebookEngine.Proofs.Run.Completion
import NotebookEngine.Proofs.Package.Scan
import NotebookEngine.Proofs.Package.LineImports
import NotebookEngine.Proofs.Package.Requires
import NotebookEngine.Proofs.Engine.ModuleRequests
import NotebookEngine.Proofs.Tracking.Ancestry
import NotebookEngine.Proofs.Run.Outputs
import NotebookEngine.Proofs.SourceMap.Merge
import NotebookEngine.Proofs.Run.Lifecycle
import NotebookEngine.Proofs.Run.Blame
import NotebookEngine.Proofs.Run.Environment
import NotebookEngine.Proofs.Tracking.SignalOrder
import NotebookEngine.Proofs.Script.Bindings
import NotebookEngine.Proofs.Script.Erasure
import NotebookEngine.Proofs.Script.Captures
import NotebookEngine.Proofs.Program.Captures
import NotebookEngine.Proofs.Json.Reading
import NotebookEngine.Proofs.Json.Spelling
import NotebookEngine.Proofs.Json.Decoding
import NotebookEngine.Proofs.Document.RoundTrip
import NotebookEngine.Proofs.SourceMap.Mappings
import NotebookEngine.Proofs.SourceMap.RoundTrip
import NotebookEngine.Proofs.Engine.Actions
import NotebookEngine.Proofs.Package.FailedRequires
import NotebookEngine.Proofs.Engine.FailedRequires
import NotebookEngine.Proofs.Engine.SharedData
import NotebookEngine.Proofs.Engine.HeapData
import NotebookEngine.Proofs.Engine.DataWriting
import NotebookEngine.Proofs.Stack.Frames
import NotebookEngine.Proofs.SourceMap.Regions
import NotebookEngine.Proofs.Stack.Attribution
import NotebookEngine.Proofs.Script.Lexical
import NotebookEngine.Proofs.Program.Redeclarations
import NotebookEngine.Proofs.Script.Trees
import NotebookEngine.Proofs.Script.TrackedAwaits
import NotebookEngine.Proofs.Script.VisibleLocals
import NotebookEngine.Proofs.Diagnostic.CleanMessages
import NotebookEngine.Proofs.Stack.ShownTraces
import NotebookEngine.Proofs.Files.Walks
import NotebookEngine.Proofs.Files.Ancestors
import NotebookEngine.Proofs.Package.Candidates
import NotebookEngine.Proofs.Package.Installed
import NotebookEngine.Proofs.Package.PathSpecifiers
import NotebookEngine.Proofs.Engine.ThrowingCalls
import NotebookEngine.Proofs.Tracking.Forest
import NotebookEngine.Proofs.Run.Driving
import NotebookEngine.Proofs.Run.Brackets
import NotebookEngine.Proofs.Engine.ProgramBrackets
