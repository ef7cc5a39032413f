import TableDraw.Main
import TableDraw.Session
import TableDraw.Proofs.Fill
import TableDraw.Proofs.Partition
import TableDraw.Proofs.FewTeams
import TableDraw.Proofs.Template
import TableDraw.Proofs.Feasibility
import TableDraw.Proofs.Budget
import TableDraw.Proofs.Entry
import TableDraw.Proofs.Replay
import TableDraw.Proofs.FirstFit
import TableDraw.Proofs.Json.Reading
import TableDraw.Proofs.Json.Fields
import TableDraw.Proofs.RoundTrip
import TableDraw.Proofs.SeatRecords
import TableDraw.Proofs.Listing
import TableDraw.Proofs.Command
import TableDraw.Proofs.Splitting
import TableDraw.Proofs.Saturation
import TableDraw.Proofs.Stranded
import TableDraw.Proofs.Choices
import TableDraw.Proofs.Orders
import TableDraw.Proofs.Violation
import TableDraw.Proofs.Trace
import TableDraw.Proofs.Unbiased
import TableDraw.Proofs.Numeral
import TableDraw.Proofs.Settings
import TableDraw.Proofs.Arguments
import TableDraw.Proofs.Json.Strings
import TableDraw.Proofs.Json.Skip
import TableDraw.Proofs.RosterText
