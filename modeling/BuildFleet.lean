import BuildFleet.Entries
import BuildFleet.Text.Blank
import BuildFleet.Text.Piece
import BuildFleet.Text.Digit
import BuildFleet.Text.Letter
import BuildFleet.Text.Unassigned
import BuildFleet.Text.Quoted
import BuildFleet.Text.Integer
import BuildFleet.Number.Power
import BuildFleet.Number.Decimal
import BuildFleet.Number.Double
import BuildFleet.Number.Shortest
import BuildFleet.Json.Value
import BuildFleet.Json.Reader
import BuildFleet.Json.Printer
import BuildFleet.Log
import BuildFleet.Failure
import BuildFleet.Ec2.Fault
import BuildFleet.Schema.Issue
import BuildFleet.Schema.Checked
import BuildFleet.Schema.Numeral
import BuildFleet.Schema.Conversions
import BuildFleet.Schema.Convert
import BuildFleet.Cap
import BuildFleet.Clock.Moment
import BuildFleet.Clock.TimeOfDay
import BuildFleet.Window
import BuildFleet.Template.Basic
import BuildFleet.Text.Sorted
import BuildFleet.Files
import BuildFleet.Settings.Basic
import BuildFleet.Settings.Source
import BuildFleet.Settings.VariablesFile
import BuildFleet.Settings.Precedence
import BuildFleet.Template.Catalog
import BuildFleet.RequestState
import BuildFleet.Action
import BuildFleet.Clock.Duration
import BuildFleet.Clock.Timeline
import BuildFleet.Retry
import BuildFleet.Script
import BuildFleet.Json.Access
import BuildFleet.Ec2.Request
import BuildFleet.Ec2.Compute
import BuildFleet.Ec2.Clients
import BuildFleet.Node
import BuildFleet.Roster
import BuildFleet.Ledger
import BuildFleet.Provider
import BuildFleet.Pool
import BuildFleet.Fleet
import BuildFleet.Provisioning
import BuildFleet.Retention
import BuildFleet.Sweep
import BuildFleet.Rehearsal.Cloud
import BuildFleet.Rehearsal.Command
import BuildFleet.Rehearsal.Stage
import BuildFleet.Wiring
import BuildFleet.Text.Similar
import BuildFleet.Text.Terminal
import BuildFleet.CommandLine.Arguments
import BuildFleet.CommandLine.Command
import BuildFleet.CommandLine.Program
import BuildFleet.Main
import BuildFleet.Ec2.Provider
import BuildFleet.Proofs.Checks
import BuildFleet.Proofs.Rounding
import BuildFleet.Proofs.Course
import BuildFleet.Proofs.Slots
import BuildFleet.Proofs.Operations
import BuildFleet.Proofs.Census
import BuildFleet.Proofs.Accounts
import BuildFleet.Proofs.Capacity
import BuildFleet.Proofs.Planning
import BuildFleet.Proofs.Health
import BuildFleet.Proofs.Need
import BuildFleet.Proofs.Rush
import BuildFleet.Proofs.Overlap
import BuildFleet.Proofs.Sweeps
import BuildFleet.Proofs.Growth
import BuildFleet.Proofs.Settling
import BuildFleet.Proofs.Targets
import BuildFleet.Proofs.Idleness
import BuildFleet.Proofs.Sparing
import BuildFleet.Proofs.Resilience
import BuildFleet.Proofs.Phases
import BuildFleet.Proofs.Turnover
import BuildFleet.Proofs.Quantity
import BuildFleet.Proofs.Surfacing
import BuildFleet.Proofs.Reading
import BuildFleet.Proofs.Isolation
import BuildFleet.Proofs.Invariants
import BuildFleet.Proofs.Record
import BuildFleet.Proofs.Ownership
import BuildFleet.Proofs.Coverage
import BuildFleet.Proofs.Surplus
import BuildFleet.Proofs.Promises
import BuildFleet.Proofs.Fulfilment
import BuildFleet.Proofs.Deadlines
import BuildFleet.Proofs.Attempts
import BuildFleet.Proofs.Listing
import BuildFleet.Proofs.CapText
import BuildFleet.Proofs.NormalForm
import BuildFleet.Proofs.Export
import BuildFleet.Proofs.Coherence
import BuildFleet.Proofs.Spacing
