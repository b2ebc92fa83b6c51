import Scratchpad.Bindings
import Scratchpad.Name
import Scratchpad.Program.Operator
import Scratchpad.Program.Annotation
import Scratchpad.Program.FunctionalShape
import Scratchpad.Program.Node
import Scratchpad.Program.Arena
import Scratchpad.Number.Binary
import Scratchpad.Number.Remainder
import Scratchpad.Number.Shortest
import Scratchpad.Number.Layout
import Scratchpad.Text.Printable
import Scratchpad.Text.Quoted
import Scratchpad.Text.Utf16
import Scratchpad.Text.CaseTable
import Scratchpad.Text.Case
import Scratchpad.Value
import Scratchpad.Variables
import Scratchpad.Heap
import Scratchpad.Scene
import Scratchpad.Error
import Scratchpad.Conversion
import Scratchpad.Operation
import Scratchpad.Output
import Scratchpad.Host.Basic
import Scratchpad.Host.Sample
import Scratchpad.Eval.State
import Scratchpad.Eval.Machine
import Scratchpad.Eval.Lambda
import Scratchpad.Eval.Expression
import Scratchpad.Eval.Statement
import Scratchpad.Eval.Run
import Scratchpad.Program.Builder
import Scratchpad.Program.Written
import Scratchpad.Json
import Scratchpad.Program.Encoding
import Scratchpad.Console
import Scratchpad.Proofs.Program.Nesting
import Scratchpad.Proofs.Variables.Levels
import Scratchpad.Proofs.Variables.Scopes
import Scratchpad.Proofs.Name.Interning
import Scratchpad.Proofs.Eval.Coupling
import Scratchpad.Proofs.Eval.ExpressionCoupling
import Scratchpad.Proofs.Eval.StatementCoupling
import Scratchpad.Proofs.Eval.StateChanges
import Scratchpad.Proofs.Eval.Invocation
import Scratchpad.Proofs.Eval.FrameKeeping
import Scratchpad.Proofs.Eval.ClosureIsolation
import Scratchpad.Proofs.Eval.Fuel
import Scratchpad.Proofs.Eval.Termination
import Scratchpad.Proofs.Eval.BreakDiscipline
import Scratchpad.Proofs.Output.CapturedLines
import Scratchpad.Proofs.Eval.ArenaSafety
import Scratchpad.Proofs.Eval.NameTables
import Scratchpad.Proofs.Eval.Cancellation
import Scratchpad.Proofs.Console.Protocol
import Scratchpad.Proofs.Console.History
import Scratchpad.Proofs.Console.ArenaThreading
import Scratchpad.Proofs.Program.RoundTrip
import Scratchpad.Proofs.Eval.RaisedLimits
import Scratchpad.Proofs.Eval.CancelledLoops
import Scratchpad.Proofs.Operation.Kinds
import Scratchpad.Proofs.Eval.ArrayTyping
import Scratchpad.Proofs.Eval.LoopCeiling
import Scratchpad.Proofs.Eval.Simulation
import Scratchpad.Proofs.Program.Building
import Scratchpad.Proofs.Eval.ExpressionSimulation
import Scratchpad.Proofs.Eval.SampleSimulation
import Scratchpad.Proofs.Eval.StatementSimulation
import Scratchpad.Proofs.Eval.Placing
import Scratchpad.Proofs.Eval.Spans
import Scratchpad.Proofs.Console.Spelling
import Scratchpad.Proofs.Console.NamesByText
import Scratchpad.Proofs.Operation.Integers
import Scratchpad.Proofs.Operation.ResultKinds
import Scratchpad.Proofs.Eval.ForAsWhile
import Scratchpad.Proofs.Eval.ForEachElements
import Scratchpad.Proofs.Operation.Conversions
import Scratchpad.Proofs.Eval.Assignments
import Scratchpad.Proofs.Eval.UnitSteps
import Scratchpad.Proofs.Output.ArrayTexts
import Scratchpad.Proofs.Operation.Equality
import Scratchpad.Proofs.Eval.InterfaceCalls
import Scratchpad.Proofs.Eval.ChainRegrouping
import Scratchpad.Proofs.Eval.WorldKeeping
import Scratchpad.Proofs.Host.Beans
import Scratchpad.Proofs.Host.Texts
import Scratchpad.Proofs.Eval.PropertyAccess
