import EventLog.Config.Encode
import EventLog.Demo.Basic
import EventLog.Application.Facts
import EventLog.Session.Run
import EventLog.Proofs.Layout.Scan
import EventLog.Proofs.Layout.Compile
import EventLog.Proofs.Layout.Canonical
import EventLog.Facility.Operation
import EventLog.Proofs.Facility.FanOut
import EventLog.Proofs.Facility.Delivery
import EventLog.Proofs.Output.FileSink
import EventLog.Proofs.Facility.FileAppender
import EventLog.Proofs.Facility.Attribution
import EventLog.Proofs.Names
import EventLog.Proofs.Facility.Build
import EventLog.Proofs.Registry.Apply
import EventLog.Proofs.Registry.Rejection
import EventLog.Application.Call
import EventLog.Application.Program
import EventLog.Proofs.Facility.Naming
import EventLog.Proofs.Registry.Invariant
import EventLog.Proofs.Application.Wrap
import EventLog.Proofs.Date.Text
import EventLog.Proofs.Layout.Columns
import EventLog.Proofs.Config.Notation
import EventLog.Proofs.Application.Layouts
import EventLog.Proofs.Application.Strict
import EventLog.Proofs.Application.Inheritance
import EventLog.Proofs.Layout.ErrorFree
import EventLog.Proofs.Layout.Composition
import EventLog.Proofs.Date.Complete
import EventLog.Proofs.Facility.Accounting
import EventLog.Application.Crew
import EventLog.Proofs.Application.Identities
import EventLog.Facility.Trace
import EventLog.Proofs.Facility.Snapshot
import EventLog.Application.Statement
import EventLog.Proofs.Application.Statement
import EventLog.Facility.Construct
import EventLog.Proofs.Facility.Construct
import EventLog.Application.Act
import EventLog.Proofs.Application.Failures
import EventLog.Proofs.Layout.Message
import EventLog.Proofs.Layout.Bounds
import EventLog.Proofs.Facility.Attachment
import EventLog.Proofs.Facility.Lifecycle
