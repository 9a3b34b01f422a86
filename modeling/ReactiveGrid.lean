import ReactiveGrid.Binding
import ReactiveGrid.Grid.Operation
import ReactiveGrid.Main
import ReactiveGrid.Proofs.Expr.Language
import ReactiveGrid.Proofs.Grid.Links
import ReactiveGrid.Proofs.Grid.Current
import ReactiveGrid.Proofs.Grid.Bounds
import ReactiveGrid.Proofs.Grid.Renewed
import ReactiveGrid.Proofs.Grid.Modes
import ReactiveGrid.Proofs.Grid.Notifications
import ReactiveGrid.Proofs.Decimal.Nearest
import ReactiveGrid.Proofs.Decimal.Bits
import ReactiveGrid.Proofs.Decimal.Numeral
import ReactiveGrid.Proofs.Decimal.RoundTrip
import ReactiveGrid.Proofs.Token.Characters
import ReactiveGrid.Proofs.Token.Reading
import ReactiveGrid.Proofs.Expr.Written
import ReactiveGrid.Proofs.Expr.RoundTrip
import ReactiveGrid.Proofs.Dependency.Edits
import ReactiveGrid.Proofs.Dependency.LowLinks
import ReactiveGrid.Proofs.Grid.OneHop
import ReactiveGrid.Proofs.Grid.Replay
import ReactiveGrid.Proofs.Script.Meaning
import ReactiveGrid.Proofs.Script.Play
import ReactiveGrid.Proofs.CommandLine.Sheet
import ReactiveGrid.Proofs.Token.Cut
import ReactiveGrid.Proofs.Address.Name
import ReactiveGrid.Proofs.Grid.Table
import ReactiveGrid.Proofs.Grid.Listeners
import ReactiveGrid.Proofs.CommandLine.Trace
import ReactiveGrid.Proofs.Token.Blanks
import ReactiveGrid.Proofs.Token.Spaced
import ReactiveGrid.Proofs.CommandLine.Tokens
import ReactiveGrid.Proofs.Expr.Viable
import ReactiveGrid.Proofs.Token.Faults
import ReactiveGrid.Proofs.Grid.Repeated
import ReactiveGrid.Proofs.Grid.Logged
import ReactiveGrid.Proofs.Expr.InOrder
import ReactiveGrid.Proofs.Expr.Substitution
import ReactiveGrid.Proofs.Grid.Binding
import ReactiveGrid.Proofs.Latest
import ReactiveGrid.Proofs.Grid.Answers
import ReactiveGrid.Proofs.Grid.History
import ReactiveGrid.Proofs.Grid.Snapshots
import ReactiveGrid.Proofs.Grid.LastWritten
import ReactiveGrid.Proofs.Grid.Registrations
import ReactiveGrid.Proofs.Grid.Refused
import ReactiveGrid.Proofs.Script.Refusals
import ReactiveGrid.Proofs.CommandLine.FirstRefusal
import ReactiveGrid.Proofs.CommandLine.Eval
