import Walkthrough.Json.Printer
import Walkthrough.Outcome
import Walkthrough.Pattern.Match
import Walkthrough.Registry.Request
import Walkthrough.Report
import Walkthrough.Page.Browser
import Walkthrough.Proofs.Page.Operation
import Walkthrough.Proofs.Step.Plan
import Walkthrough.Proofs.Step.Related
import Walkthrough.Proofs.Page.Oblivious
import Walkthrough.Proofs.Page.Law
import Walkthrough.Proofs.Page.Scripted
import Walkthrough.Proofs.Fault
import Walkthrough.Proofs.Step.Result
import Walkthrough.Proofs.Validation
import Walkthrough.Proofs.Run.Steps
import Walkthrough.Proofs.Run.Account
import Walkthrough.Proofs.Run.Stopping
import Walkthrough.Proofs.Run.Assertions
import Walkthrough.Proofs.Run.Composition
import Walkthrough.Proofs.Run.Classification
import Walkthrough.Proofs.Outcome.Agreement
import Walkthrough.Proofs.Action.Payload
import Walkthrough.Proofs.Action.Inert
import Walkthrough.Proofs.Action.Faults
import Walkthrough.Proofs.Action.Limits
import Walkthrough.Proofs.Number.Order
import Walkthrough.Proofs.Number.Rounding
import Walkthrough.Proofs.Number.Division
import Walkthrough.Proofs.Step.Pause
import Walkthrough.Proofs.Step.Timeout
import Walkthrough.Proofs.Step.Sleep
import Walkthrough.Proofs.Run.Sleeps
import Walkthrough.Proofs.Json.Numbers
import Walkthrough.Proofs.Json.Strings
import Walkthrough.Proofs.Report
import Walkthrough.Proofs.Text.Utf8
import Walkthrough.Proofs.Json.Roundtrip
import Walkthrough.Proofs.Source
import Walkthrough.Proofs.Outcome.Refusal
import Walkthrough.Proofs.Step.Course
import Walkthrough.Proofs.Step.Containment
import Walkthrough.Proofs.Run.Course
import Walkthrough.Proofs.Run.Waiting
import Walkthrough.Proofs.Number.Addition
import Walkthrough.Proofs.Page.Content
import Walkthrough.Proofs.Run.Browser
import Walkthrough.Proofs.Registry.History
import Walkthrough.Proofs.Run.Options
import Walkthrough.Proofs.Text.Infix
import Walkthrough.Proofs.Text.Trim
import Walkthrough.Proofs.Report.Hint
import Walkthrough.Proofs.Pattern.Reading
import Walkthrough.Proofs.Pattern.Faults
import Walkthrough.Proofs.Step.Comparison
import Walkthrough.Proofs.Pattern.Plain
import Walkthrough.Proofs.Assertions
import Walkthrough.Proofs.Page.Session
import Walkthrough.Proofs.Run.Sessions
import Walkthrough.Proofs.Run.Queries
import Walkthrough.Proofs.Value.Entries
import Walkthrough.Proofs.Validation.Filling
import Walkthrough.Proofs.Action.Nulls
import Walkthrough.Proofs.Toml.Distinct
import Walkthrough.Proofs.Toml.Hexadecimal
import Walkthrough.Proofs.Settings.Precedence
import Walkthrough.Proofs.Number.Integer
import Walkthrough.Proofs.Settings.Export
import Walkthrough.Proofs.Step.TextCheck
