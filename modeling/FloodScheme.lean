import FloodScheme.Area
import FloodScheme.Area.Hierarchy
import FloodScheme.Decision
import FloodScheme.Failure
import FloodScheme.Fault
import FloodScheme.Field
import FloodScheme.Field.Mapping
import FloodScheme.Json
import FloodScheme.Level
import FloodScheme.Level.Catalogue
import FloodScheme.Level.Validation
import FloodScheme.Number.Decimal
import FloodScheme.Number.Digits
import FloodScheme.Number.Double
import FloodScheme.Number.Numeral
import FloodScheme.Number.Rounded
import FloodScheme.Number.Shortest
import FloodScheme.Permission
import FloodScheme.Principal
import FloodScheme.Reference
import FloodScheme.Rule
import FloodScheme.Rule.Check
import FloodScheme.Rule.Merge
import FloodScheme.Saving
import FloodScheme.Service.Cache
import FloodScheme.Service.Health
import FloodScheme.Service.Logging
import FloodScheme.Service.Request
import FloodScheme.Service.Response
import FloodScheme.Service.Routes
import FloodScheme.Service.State
import FloodScheme.Store.Column
import FloodScheme.Store.Lookup
import FloodScheme.Store.Operation
import FloodScheme.Store.Seed
import FloodScheme.Store.Tables
import FloodScheme.Store.Upsert
import FloodScheme.Text.Blank
import FloodScheme.Text.Case
import FloodScheme.Text.CaseTable
import FloodScheme.Text.Digit
import FloodScheme.Text.Pattern
import FloodScheme.Text.Percent
import FloodScheme.Text.Printable
import FloodScheme.Text.Quoted
import FloodScheme.Timeline
import FloodScheme.Value
import FloodScheme.Value.Equal
import FloodScheme.Value.Integer
import FloodScheme.Value.Text
import FloodScheme.Proofs.Number.Written
import FloodScheme.Proofs.Outcome
import FloodScheme.Proofs.Reference.Parts
import FloodScheme.Proofs.Store.Write
import FloodScheme.Proofs.Area.Parents
import FloodScheme.Proofs.Store.Minting
import FloodScheme.Proofs.Decision.Agreement
import FloodScheme.Proofs.Level.Single
import FloodScheme.Proofs.Saving
import FloodScheme.Proofs.Service.Refusal
import FloodScheme.Proofs.Store.Effect
import FloodScheme.Proofs.Service.Saving
import FloodScheme.Proofs.Store.Caller
import FloodScheme.Proofs.Store.Ownership
import FloodScheme.Proofs.Saving.Rights
import FloodScheme.Proofs.Service.History
import FloodScheme.Proofs.Fields
import FloodScheme.Proofs.Number.Trimmed
import FloodScheme.Proofs.Number.Whole
import FloodScheme.Proofs.Store.Columns
import FloodScheme.Proofs.Store.Whole
import FloodScheme.Proofs.Level.Accepted
import FloodScheme.Proofs.Saving.Years
import FloodScheme.Proofs.Service.Years
import FloodScheme.Proofs.Level.Dates
import FloodScheme.Proofs.Text.Case
import FloodScheme.Proofs.Level.Name
import FloodScheme.Proofs.Saving.Window
import FloodScheme.Proofs.Service.Window
import FloodScheme.Proofs.Store.Fit
import FloodScheme.Proofs.Store.Success
import FloodScheme.Proofs.Store.Sound
import FloodScheme.Proofs.Saving.Success
import FloodScheme.Proofs.Service.Success
import FloodScheme.Proofs.Number.Order
import FloodScheme.Proofs.Value.Equal
import FloodScheme.Proofs.Rule.Condition
import FloodScheme.Proofs.Saving.Conditions
import FloodScheme.Proofs.Service.Conditions
import FloodScheme.Proofs.Rule.Merge
import FloodScheme.Proofs.Rule.Check
import FloodScheme.Proofs.Level.Merged
import FloodScheme.Proofs.Level.Failures
import FloodScheme.Proofs.Rule.Twin
import FloodScheme.Proofs.Level.Widening
import FloodScheme.Proofs.Level.Order
import FloodScheme.Proofs.Level.Stripped
import FloodScheme.Proofs.Decision.Stripped
import FloodScheme.Proofs.Number.Plain
import FloodScheme.Proofs.Field.Kind
import FloodScheme.Proofs.Store.Row
import FloodScheme.Proofs.Field.Shown
import FloodScheme.Proofs.Field.RoundTrip
import FloodScheme.Proofs.Store.Failed
import FloodScheme.Proofs.Store.Regular
import FloodScheme.Proofs.Saving.Regular
import FloodScheme.Proofs.Service.Regular
import FloodScheme.Proofs.Decision.Rights
import FloodScheme.Proofs.Decision.Denial
import FloodScheme.Proofs.Service.Race
import FloodScheme.Proofs.Json.RoundTrip
import FloodScheme.Proofs.Service.Listing
import FloodScheme.Proofs.Rule.Admits
import FloodScheme.Proofs.Saving.Interventions
import FloodScheme.Proofs.Service.Interventions
import FloodScheme.Proofs.Level.Reads
import FloodScheme.Proofs.Level.Report
import FloodScheme.Proofs.Level.Local
import FloodScheme.Proofs.Rule.Truth
import FloodScheme.Proofs.Level.Gates
import FloodScheme.Proofs.Store.Links
import FloodScheme.Proofs.Store.Frame
import FloodScheme.Proofs.Saving.Frame
import FloodScheme.Proofs.Service.Frame
import FloodScheme.Proofs.Service.Moving
import FloodScheme.Proofs.Store.Names
import FloodScheme.Proofs.Service.Names
import FloodScheme.Proofs.Number.Readings
import FloodScheme.Proofs.Value.Readers
import FloodScheme.Proofs.Area.Resolution
import FloodScheme.Proofs.Timeline.FinancialYear
import FloodScheme.Proofs.Reference.Pattern
import FloodScheme.Proofs.Saving.EarlyStart
import FloodScheme.Proofs.Service.Minted
import FloodScheme.Proofs.Decision.Converted
import FloodScheme.Proofs.Decision.Faults
import FloodScheme.Proofs.Reference.Slug
import FloodScheme.Proofs.Store.Seeding
import FloodScheme.Proofs.Reference.Slug
