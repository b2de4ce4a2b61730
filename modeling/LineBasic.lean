import LineBasic.CommandLine.Arguments
import LineBasic.CommandLine.Session
import LineBasic.Config
import LineBasic.Console
import LineBasic.Cursor
import LineBasic.Expression
import LineBasic.Failure
import LineBasic.FileTree
import LineBasic.Labels
import LineBasic.Listing
import LineBasic.Log
import LineBasic.Machine
import LineBasic.Main
import LineBasic.Number.Arithmetic
import LineBasic.Number.Binary64
import LineBasic.Number.Display
import LineBasic.Number.Literal
import LineBasic.Number.Shortest
import LineBasic.Program
import LineBasic.Reading
import LineBasic.Run
import LineBasic.Source
import LineBasic.Statement
import LineBasic.Store
import LineBasic.Terminal
import LineBasic.Text.Alphabetic
import LineBasic.Text.Blank
import LineBasic.Token
import LineBasic.Proofs.Cutting
import LineBasic.Proofs.RoundTrip
import LineBasic.Proofs.Evaluation
import LineBasic.Proofs.Acceptance
import LineBasic.Proofs.Alignment
import LineBasic.Proofs.Simulation
import LineBasic.Proofs.Lines
import LineBasic.Proofs.TokenStream
import LineBasic.Proofs.ReadingOn
import LineBasic.Proofs.Statements
import LineBasic.Proofs.Effects
import LineBasic.Proofs.Runs
import LineBasic.Proofs.Landing
import LineBasic.Proofs.Fetching
import LineBasic.Proofs.LabelledLines
import LineBasic.Proofs.FailureLine
import LineBasic.Proofs.Histories
import LineBasic.Proofs.OneProgram
import LineBasic.Proofs.Reruns
import LineBasic.Proofs.Cues
import LineBasic.Proofs.ConsoleProtocol
import LineBasic.Proofs.InputLines
import LineBasic.Proofs.Settings
import LineBasic.Proofs.LabelTable
import LineBasic.Proofs.SkippedBodies
import LineBasic.Proofs.Shapes
import LineBasic.Proofs.Products
import LineBasic.Proofs.Powers
import LineBasic.Proofs.StreamLines
import LineBasic.Proofs.Sessions
import LineBasic.Proofs.Rounds
import LineBasic.Proofs.ForLoops
import LineBasic.Proofs.RepeatLoops
import LineBasic.Proofs.PrintLists
import LineBasic.Proofs.FailedStatements
import LineBasic.Proofs.LineEnds
import LineBasic.Proofs.GivingBack
import LineBasic.Proofs.Descent
import LineBasic.Proofs.InnerLoops
import LineBasic.Proofs.Advances
