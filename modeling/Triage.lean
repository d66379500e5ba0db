import Triage.Json.Reading
import Triage.Log.Layout.Reading
import Triage.Main
import Triage.Proofs.Decimal.Packing
import Triage.Proofs.Escalation.Targets
import Triage.Proofs.Policy.RoundTrip
import Triage.Proofs.Sync.Agreement
import Triage.Proofs.Yaml.Cursor
import Triage.Proofs.Yaml.Laid
import Triage.Proofs.Yaml.Meaning
import Triage.Proofs.Labels.Carried
import Triage.Proofs.Labels.Readers
import Triage.Proofs.Labels.Ambiguity
import Triage.Proofs.Escalation.Climbing
import Triage.Proofs.Sync.Convergence
import Triage.Proofs.Plan
import Triage.Proofs.Decimal.Shortest
import Triage.Proofs.Decimal.Spelled
import Triage.Proofs.Yaml.Numbers
import Triage.Proofs.Yaml.RoundTrip
import Triage.Proofs.Policy.Text
import Triage.Proofs.Audit.Findings
import Triage.Proofs.Policy.Obstacles
import Triage.Proofs.Policy.Sections
import Triage.Proofs.Yaml.Origins
import Triage.Proofs.Yaml.Tokens
import Triage.Proofs.Policy.Failures
import Triage.Proofs.Audit.Warnings
import Triage.Proofs.Command.Snapshot
import Triage.Proofs.Command.Refusal
import Triage.Proofs.Command.Answer
import Triage.Proofs.Command.Files
import Triage.Proofs.Log.Level
import Triage.Proofs.Log.Rotation
import Triage.Proofs.Sync.Applicable
import Triage.Proofs.Sync.Conflicts
import Triage.Proofs.Plan.Partition
import Triage.Proofs.Sla.Urgency
import Triage.Proofs.Sla.Overflow
import Triage.Proofs.Inference.Overrides
import Triage.Proofs.Inference.Confidence
import Triage.Proofs.Report.Accounts
import Triage.Proofs.Policy.Colors
import Triage.Proofs.Amounts
import Triage.Proofs.Report.Advice
import Triage.Proofs.Tracker.Issue
import Triage.Proofs.Settings
import Triage.Proofs.Settings.Quotation
import Triage.Proofs.Board.Lookups
import Triage.Proofs.Command.Selection
import Triage.Proofs.Report.Tables
