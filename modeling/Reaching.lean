import Reaching.Command.Run
import Reaching.Json.Reader
import Reaching.Main
import Reaching.Settings.JsonData
import Reaching.Proofs.Solver.Contents
import Reaching.Proofs.Solver.Expression
import Reaching.Proofs.Solver.Pass
import Reaching.Proofs.Solver.Rounds
import Reaching.Proofs.Solver.Convergence
import Reaching.Proofs.Solver.Outcome
import Reaching.Proofs.Grammar.Spelling
import Reaching.Proofs.Grammar.Readers
import Reaching.Proofs.Grammar.Accepted
import Reaching.Proofs.Grammar.Respelling
import Reaching.Proofs.Grammar.Lookahead
import Reaching.Proofs.Grammar.Refusal
import Reaching.Proofs.Grammar.Safety
import Reaching.Proofs.Lexing.Cut
import Reaching.Proofs.Document.System
import Reaching.Proofs.Solver.LeastSolution
import Reaching.Proofs.Solver.Lead
import Reaching.Proofs.Solver.Ahead
import Reaching.Proofs.Solver.Slice
import Reaching.Proofs.Solver.Undefined
import Reaching.Proofs.Solver.Loop
import Reaching.Proofs.Solver.Solutions
import Reaching.Proofs.Solver.Sequential
import Reaching.Proofs.Solver.Chain
import Reaching.Proofs.Solver.Oscillation
import Reaching.Proofs.Solver.Alike
import Reaching.Proofs.Solver.Rearrangement
import Reaching.Proofs.Solver.Origin
import Reaching.Proofs.Solver.Growth
import Reaching.Proofs.Solver.Wrappers
import Reaching.Proofs.Document.Settling
import Reaching.Proofs.Document.KillFree
import Reaching.Proofs.Document.Separation
import Reaching.Proofs.Document.LastEquation
import Reaching.Proofs.Document.Manuscript
import Reaching.Proofs.Document.Joining
import Reaching.Proofs.Lexing.Exact
import Reaching.Proofs.Lexing.Moves
import Reaching.Proofs.Lexing.Dialects
import Reaching.Proofs.Lexing.LineEnds
import Reaching.Proofs.Lexing.Joining
import Reaching.Proofs.Document.ReadBack
import Reaching.Proofs.Command.Steps
import Reaching.Proofs.Command.Opening
import Reaching.Proofs.Report.Suffix
import Reaching.Proofs.Report.Limits
import Reaching.Proofs.Report.NameOrder
import Reaching.Proofs.Report.Record
import Reaching.Proofs.Node.Unwrapping
import Reaching.Proofs.Node.Outlines
import Reaching.Proofs.Solver.Snapshots
import Reaching.Proofs.Command.Solving
import Reaching.Proofs.Command.Success
import Reaching.Proofs.Command.Delivery
import Reaching.Proofs.Json.Strings
import Reaching.Proofs.Json.ReadBack
import Reaching.Proofs.Command.Reports
import Reaching.Proofs.Settings.Rules
import Reaching.Proofs.Settings.Given
import Reaching.Proofs.Settings.Forms
