import CommandConsole.Declaration.Document
import CommandConsole.Main
import CommandConsole.Snapshot
import CommandConsole.Proofs.Queue.Deferral
import CommandConsole.Proofs.Queue.Drained
import CommandConsole.Proofs.Save.RoundTrip
import CommandConsole.Proofs.Queue.Attendance
import CommandConsole.Proofs.Queue.Replayable
import CommandConsole.Proofs.Queue.Outlook
import CommandConsole.Proofs.Queue.Heard
import CommandConsole.Proofs.Run.Contained
import CommandConsole.Proofs.Run.Boundary
import CommandConsole.Proofs.Run.Bound
import CommandConsole.Proofs.Run.Sequence
import CommandConsole.Proofs.Run.Table
import CommandConsole.Proofs.Run.Growth
import CommandConsole.Proofs.Run.Typed
import CommandConsole.Proofs.Save.Usable
import CommandConsole.Proofs.Statement.Quoting
import CommandConsole.Proofs.Queue.Interrupted
import CommandConsole.Proofs.Run.Kinds
import CommandConsole.Proofs.Run.Apart
import CommandConsole.Proofs.Statement.Layout
import CommandConsole.Proofs.Statement.Arguments
import CommandConsole.Proofs.Save.Padding
import CommandConsole.Proofs.Run.Resolving
import CommandConsole.Proofs.Run.Admission
import CommandConsole.Proofs.Run.Frame
import CommandConsole.Proofs.Run.Assigning
import CommandConsole.Proofs.Run.History
import CommandConsole.Proofs.Declaration.RoundTrip
import CommandConsole.Proofs.Report.Owners
import CommandConsole.Proofs.Report.Hazards
import CommandConsole.Proofs.Report.ReadOuts
import CommandConsole.Proofs.Declaration.Callback
import CommandConsole.Proofs.Value.Grammar
import CommandConsole.Proofs.Queue.Departed
