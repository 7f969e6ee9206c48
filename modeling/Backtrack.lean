import Backtrack.Braces.Check
import Backtrack.Braces.Command
import Backtrack.Braces.Command.Error
import Backtrack.Braces.Command.Folder
import Backtrack.Braces.Command.Options
import Backtrack.Braces.Form
import Backtrack.Braces.Form.Text
import Backtrack.Braces.Grammar
import Backtrack.Braces.Grammar.Halting
import Backtrack.Braces.Grammar.Rule
import Backtrack.Braces.Located
import Backtrack.Braces.Mismatch
import Backtrack.Braces.OpenBraces
import Backtrack.Braces.Summary
import Backtrack.Descent
import Backtrack.Event
import Backtrack.Fault
import Backtrack.Main
import Backtrack.Outcome
import Backtrack.Outcome.Step
import Backtrack.Parser.Basic
import Backtrack.Parser.Combinators
import Backtrack.Parser.Itemizer
import Backtrack.Parser.Meaning
import Backtrack.Position
import Backtrack.Process
import Backtrack.Process.Action
import Backtrack.Process.Machine
import Backtrack.Process.Meets
import Backtrack.Process.Tells
import Backtrack.Process.Yields
import Backtrack.Proofs.Braces.Check
import Backtrack.Proofs.Braces.Document
import Backtrack.Proofs.Braces.Replies
import Backtrack.Proofs.Braces.Rules
import Backtrack.Proofs.Braces.Scan
import Backtrack.Proofs.Braces.WellFormed
import Backtrack.Proofs.Parser.Alike
import Backtrack.Proofs.Parser.Conduct
import Backtrack.Proofs.Parser.Derived
import Backtrack.Proofs.Parser.Errors
import Backtrack.Proofs.Parser.Parts
import Backtrack.Proofs.Parser.Simulation
import Backtrack.Proofs.Parser.Unwinding
import Backtrack.Proofs.Parser.Watch
import Backtrack.Proofs.Process.Coupling
import Backtrack.Proofs.Process.Ends
import Backtrack.Proofs.Process.Graft
import Backtrack.Proofs.Process.Trail
import Backtrack.Script.Build
import Backtrack.Script.Function
import Backtrack.Script.Node
import Backtrack.Script.Plan
import Backtrack.Script.Run
import Backtrack.Script.Value
import Backtrack.Stream
import Backtrack.Stream.Workspace
import Backtrack.Text.Hidden
import Backtrack.Text.Quoted
import Backtrack.Text.Tree
import Backtrack.Proofs.Parser.Consumption
import Backtrack.Proofs.Itemizer.Tracking
import Backtrack.Proofs.Itemizer.Policies
import Backtrack.Proofs.Parser.StreamEquality
import Backtrack.Proofs.Process.Shape
import Backtrack.Proofs.Process.Agreement
import Backtrack.Proofs.Parser.Substitution
import Backtrack.Proofs.Parser.Recursion
import Backtrack.Proofs.Parser.Repetition
import Backtrack.Proofs.Process.Passing
import Backtrack.Proofs.Parser.Coverage
import Backtrack.Proofs.Braces.ExitStatus
import Backtrack.Proofs.Position.After
import Backtrack.Proofs.Braces.Tokens
import Backtrack.Proofs.Braces.Events
import Backtrack.Proofs.Braces.Findings
import Backtrack.Proofs.Braces.Counts
import Backtrack.Proofs.Braces.Effort
import Backtrack.Proofs.Braces.Concatenation
import Backtrack.Proofs.Position.Limits
import Backtrack.Proofs.Fault
import Backtrack.Proofs.Braces.Overflow
import Backtrack.Proofs.Itemizer.Tokens
import Backtrack.Proofs.Itemizer.Strings
import Backtrack.Proofs.Braces.Locations
import Backtrack.Proofs.Parser.Stalling
import Backtrack.Proofs.Process.Same
import Backtrack.Proofs.Process.Choices
import Backtrack.Proofs.Parser.Unrolling
import Backtrack.Proofs.Parser.Sequences
import Backtrack.Proofs.Braces.Arguments
import Backtrack.Proofs.Text.Quoted
import Backtrack.Proofs.Braces.Listing
import Backtrack.Proofs.Parser.Alternatives
import Backtrack.Proofs.Parser.Laws
import Backtrack.Proofs.Itemizer.Members
import Backtrack.Proofs.Braces.Versions
import Backtrack.Proofs.Braces.Visit
import Backtrack.Proofs.Stream.Places
