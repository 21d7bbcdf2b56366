import Curation.Archive
import Curation.Audit.Action
import Curation.Audit.Entry
import Curation.Audit.Payload
import Curation.Audit.Trail
import Curation.Audit.Unwind
import Curation.CommandLine.Command
import Curation.CommandLine.Grammar
import Curation.CommandLine.Help
import Curation.CommandLine.Machine
import Curation.CommandLine.Report
import Curation.CommandLine.Run
import Curation.CommandLine.Scratch
import Curation.CommandLine.Script
import Curation.Config.Address
import Curation.Config.Basic
import Curation.Config.Connection
import Curation.Config.Environment
import Curation.Config.Load
import Curation.Counters
import Curation.Digest.Content
import Curation.Digest.Sha256
import Curation.Distinct
import Curation.Error
import Curation.Ident
import Curation.Json.Basic
import Curation.Json.Canonical
import Curation.Json.Printer
import Curation.Json.Reader
import Curation.Main
import Curation.Memory.Basic
import Curation.Memory.Rules
import Curation.Number.Binary64
import Curation.Number.Decimal
import Curation.Number.Rounding
import Curation.Proofs.Audit.Covered
import Curation.Proofs.Audit.Digest
import Curation.Proofs.Audit.Inverse
import Curation.Proofs.Audit.Payload
import Curation.Proofs.Audit.Sound
import Curation.Proofs.Audit.Trail
import Curation.Proofs.Calls
import Curation.Proofs.CommandLine.Calls
import Curation.Proofs.CommandLine.Forms
import Curation.Proofs.CommandLine.OpenSessions
import Curation.Proofs.CommandLine.Scripted
import Curation.Proofs.CommandLine.Sweep
import Curation.Proofs.Ident
import Curation.Proofs.Config.Precedence
import Curation.Proofs.Json.Alike
import Curation.Proofs.Json.Normal
import Curation.Proofs.Json.Printed
import Curation.Proofs.Memory.Admission
import Curation.Proofs.Memory.Search
import Curation.Proofs.Number.Exact
import Curation.Proofs.Number.Order
import Curation.Proofs.Record.Blind
import Curation.Proofs.Record.Pair
import Curation.Proofs.Retention
import Curation.Proofs.Retention.Whole
import Curation.Proofs.Service.Arising
import Curation.Proofs.Service.Contents
import Curation.Proofs.Service.Counting
import Curation.Proofs.Service.History
import Curation.Proofs.Service.Interleaving
import Curation.Proofs.Service.Isolation
import Curation.Proofs.Service.Requests
import Curation.Proofs.Service.Steps
import Curation.Proofs.Session.Afterwards
import Curation.Proofs.Session.Calls
import Curation.Proofs.Session.Changes
import Curation.Proofs.Session.Chronicle
import Curation.Proofs.Session.Completion
import Curation.Proofs.Session.Deadline
import Curation.Proofs.Session.Faithful
import Curation.Proofs.Session.Guard
import Curation.Proofs.Session.Mass
import Curation.Proofs.Session.Overtaken
import Curation.Proofs.Session.Performed
import Curation.Proofs.Session.Recoverable
import Curation.Proofs.Session.Recovery
import Curation.Proofs.Session.Refusal
import Curation.Proofs.Session.Rollback
import Curation.Proofs.Session.Run
import Curation.Proofs.Session.Succession
import Curation.Proofs.Session.Undoing
import Curation.Proofs.Sorting
import Curation.Proofs.Store.Alike
import Curation.Proofs.Store.Backends
import Curation.Proofs.Store.Batch
import Curation.Proofs.Store.Evolution
import Curation.Proofs.Store.Interface
import Curation.Proofs.Store.Mass
import Curation.Proofs.Store.Overflow
import Curation.Proofs.Store.Owned
import Curation.Proofs.Store.Restoring
import Curation.Proofs.Store.Transaction
import Curation.Proofs.Store.Undoing
import Curation.Proofs.Tokens
import Curation.Proofs.Transcript.Budget
import Curation.Proofs.Transcript.Chunks
import Curation.Proofs.Transcript.Ingest
import Curation.Record.Decoder
import Curation.Retention
import Curation.Session.Action
import Curation.Session.Basic
import Curation.Session.Opening
import Curation.Session.Recovery
import Curation.Session.ToolCall
import Curation.Sorting
import Curation.StorageError
import Curation.Store.Basic
import Curation.Store.Saved
import Curation.Store.Write
import Curation.Text.Alphanumeric
import Curation.Text.Blank
import Curation.Text.CaseTable
import Curation.Text.CharSet
import Curation.Text.Lines
import Curation.Text.LowerCase
import Curation.Text.PrintTable
import Curation.Text.Quoted
import Curation.Threshold
import Curation.Time.Calendar
import Curation.Time.Clock
import Curation.Time.Instant
import Curation.Tokens
import Curation.Toml.Document
import Curation.Toml.Table
import Curation.Toml.Value
import Curation.Transcript
