import HostedScripts.CommandLine.Arguments
import HostedScripts.CommandLine.Help
import HostedScripts.CommandLine.Commands
import HostedScripts.Config
import HostedScripts.Context
import HostedScripts.Decimal.Binary64
import HostedScripts.Decimal.Layout
import HostedScripts.Decimal.Reading
import HostedScripts.Decimal.Shortest
import HostedScripts.Diagnostics
import HostedScripts.Dictionary
import HostedScripts.Engines
import HostedScripts.Environment
import HostedScripts.Event
import HostedScripts.Executor
import HostedScripts.FileTree
import HostedScripts.Fixtures
import HostedScripts.Host
import HostedScripts.Json.Basic
import HostedScripts.Json.Cursor
import HostedScripts.Json.Fault
import HostedScripts.Json.Shape
import HostedScripts.Kinds
import HostedScripts.Language.CompileError
import HostedScripts.Language.Datum
import HostedScripts.Language.Choice
import HostedScripts.Language.Computation
import HostedScripts.Language.Evaluator.Calls
import HostedScripts.Language.Evaluator.Chains
import HostedScripts.Language.Evaluator.Statements
import HostedScripts.Language.Focus
import HostedScripts.Language.FunctionName
import HostedScripts.Language.Purity
import HostedScripts.Language.Failure
import HostedScripts.Language.Library
import HostedScripts.Language.Machine
import HostedScripts.Language.Operators
import HostedScripts.Language.Parts
import HostedScripts.Language.Reader.Basic
import HostedScripts.Language.Reader.Expressions
import HostedScripts.Language.Reader.Statements
import HostedScripts.Language.Simplify
import HostedScripts.Language.Token
import HostedScripts.Language.Tree
import HostedScripts.Main
import HostedScripts.Output.Arena
import HostedScripts.Output.Console
import HostedScripts.Output.Registry
import HostedScripts.Path
import HostedScripts.Refusal
import HostedScripts.Report
import HostedScripts.Runtime
import HostedScripts.ScriptData
import HostedScripts.SystemPath
import HostedScripts.TestCase.Basic
import HostedScripts.TestCase.Run
import HostedScripts.Text.Blank
import HostedScripts.Text.Case
import HostedScripts.Text.Category
import HostedScripts.Text.CharSet
import HostedScripts.Text.Codec
import HostedScripts.Text.Lines
import HostedScripts.Text.Pattern.Basic
import HostedScripts.Text.Pattern.Notation
import HostedScripts.Text.Pattern.Weight
import HostedScripts.Text.Printable
import HostedScripts.Text.Quoted
import HostedScripts.Value
import HostedScripts.Proofs.CommandLine.Transcript
import HostedScripts.Proofs.Dictionary
import HostedScripts.Proofs.Path
import HostedScripts.Proofs.SystemPath
import HostedScripts.Proofs.Selection
import HostedScripts.Proofs.Runtime.Attached
import HostedScripts.Proofs.Runtime.Dispatch
import HostedScripts.Proofs.Runtime.Dispose
import HostedScripts.Proofs.FileTree
import HostedScripts.Proofs.PathOrder
import HostedScripts.Proofs.TreeShape
import HostedScripts.Proofs.TreeChange
import HostedScripts.Proofs.Output.Arena
import HostedScripts.Proofs.Output.Registry
import HostedScripts.Proofs.Output.History
import HostedScripts.Proofs.Runtime.Steps
import HostedScripts.Proofs.Runtime.LifeCycle
import HostedScripts.Proofs.Runtime.Disposal
import HostedScripts.Proofs.Output.Sparing
import HostedScripts.Proofs.Runtime.Streams
import HostedScripts.Proofs.Runtime.Session
import HostedScripts.Proofs.Runtime.Windows
import HostedScripts.Proofs.Runtime.Agreement
import HostedScripts.Proofs.Runtime.Check
import HostedScripts.Proofs.Executor.Chosen
import HostedScripts.Proofs.Executor.Left
import HostedScripts.Proofs.Executor.Course
import HostedScripts.Proofs.Executor.Exit
import HostedScripts.Proofs.Executor.Log
import HostedScripts.Proofs.Output.Lines
import HostedScripts.Proofs.Runtime.Isolation
import HostedScripts.Proofs.Runtime.Logs
import HostedScripts.Proofs.Output.Generations
import HostedScripts.Proofs.Output.Ledger
import HostedScripts.Proofs.Output.Refinement
import HostedScripts.Proofs.Output.Recall
import HostedScripts.Proofs.Runtime.Residue
import HostedScripts.Proofs.Json.Documents
import HostedScripts.Proofs.Json.Skipping
import HostedScripts.Proofs.Json.Reading
import HostedScripts.Proofs.Json.Shapes
import HostedScripts.Proofs.Json.Records
import HostedScripts.Proofs.Json.Spellings
import HostedScripts.Proofs.Value
import HostedScripts.Proofs.Language.Crossing
import HostedScripts.Proofs.Executor.Scope
import HostedScripts.Proofs.Runtime.Variables
import HostedScripts.Proofs.Runtime.Results
import HostedScripts.Proofs.Runtime.Wiring
import HostedScripts.Proofs.Records
import HostedScripts.Proofs.Executor.Directories
import HostedScripts.Proofs.Runtime.Engine
import HostedScripts.Proofs.TestCase.Verdict
import HostedScripts.Proofs.TestCase.Discovery
import HostedScripts.Proofs.Runtime.Naming
import HostedScripts.Proofs.TestCase.Alone
import HostedScripts.Proofs.TestCase.Batch
import HostedScripts.Proofs.Language.Moved
import HostedScripts.Proofs.Language.BlindStatements
import HostedScripts.Proofs.Language.Known
import HostedScripts.Proofs.Executor.Place
import HostedScripts.Proofs.Runtime.Looking
import HostedScripts.Proofs.Text.Lines
import HostedScripts.Proofs.Output.Writing
import HostedScripts.Proofs.Executor.Sections
import HostedScripts.Proofs.Environment
import HostedScripts.Proofs.Runtime.Facts
import HostedScripts.Proofs.CommandLine.Variables
import HostedScripts.Proofs.Output.Given
import HostedScripts.Proofs.Runtime.Interpreters
