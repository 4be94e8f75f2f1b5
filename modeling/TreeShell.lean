import TreeShell.Client
import TreeShell.Client.Local
import TreeShell.Environment.Schema
import TreeShell.Http.Service
import TreeShell.Json.Writer
import TreeShell.Proofs.Client.Backoff
import TreeShell.Proofs.Client.Exchange
import TreeShell.Proofs.Client.Failure
import TreeShell.Proofs.Client.Local
import TreeShell.Proofs.Client.Resolve
import TreeShell.Proofs.Client.Response
import TreeShell.Proofs.Client.Url
import TreeShell.Proofs.Client.Waits
import TreeShell.Proofs.Command
import TreeShell.Proofs.Config
import TreeShell.Proofs.Decimal.Power
import TreeShell.Proofs.Http.Inspection
import TreeShell.Proofs.Http.Percent
import TreeShell.Proofs.Http.Service
import TreeShell.Proofs.Line
import TreeShell.Proofs.Path.Canonical
import TreeShell.Proofs.Path.Child
import TreeShell.Proofs.Path.Normal
import TreeShell.Proofs.Session.Columns
import TreeShell.Proofs.Session.Descent
import TreeShell.Proofs.Session.Dispatch
import TreeShell.Proofs.Session.Failure
import TreeShell.Proofs.Session.Growth
import TreeShell.Proofs.Session.History
import TreeShell.Proofs.Session.Quotation
import TreeShell.Proofs.Session.Refusal
import TreeShell.Proofs.Session.Replay
import TreeShell.Proofs.Session.Report
import TreeShell.Proofs.Session.Reset
import TreeShell.Proofs.Session.Run
import TreeShell.Proofs.Session.Sequence
import TreeShell.Proofs.Session.Substitution
import TreeShell.Proofs.Shell.Atomic
import TreeShell.Proofs.Shell.Run
import TreeShell.Proofs.Text.Utf8
import TreeShell.Proofs.Token
import TreeShell.Proofs.Tree.Additions
import TreeShell.Proofs.Tree.Ancestors
import TreeShell.Proofs.Tree.Built
import TreeShell.Proofs.Tree.Change
import TreeShell.Proofs.Tree.Consistent
import TreeShell.Proofs.Tree.Creation
import TreeShell.Proofs.Tree.Growth
import TreeShell.Proofs.Tree.Independence
import TreeShell.Proofs.Tree.Listing
import TreeShell.Proofs.Tree.Seed
import TreeShell.Proofs.Tree.Snapshot
import TreeShell.Proofs.Tree.Tampering
import TreeShell.Proofs.Wire
