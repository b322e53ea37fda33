import ListField.Access
import ListField.Change
import ListField.Choice.Basic
import ListField.Choice.Decorator
import ListField.Choice.Selection
import ListField.Choices
import ListField.ErrorCode
import ListField.Field
import ListField.Ids
import ListField.StoreError
import ListField.Text.Blank
import ListField.Text.Case
import ListField.Text.Json
import ListField.Actor
import ListField.Request
import ListField.CachedRequest
import ListField.Validation
import ListField.Workflow
import ListField.Writer
import ListField.Store.Admin
import ListField.Store.Basic
import ListField.Store.Tables
import ListField.Update
import ListField.Text.Decode
import ListField.Exchange
import ListField.Store.Schema
import ListField.Text.Shortest
import ListField.Toml.Scan
import ListField.Toml.Document
import ListField.Toml.Reader
import ListField.Toml.Report
import ListField.Toml.Quoted
import ListField.Config
import ListField.Text.Similar
import ListField.Text.JsonRead
import ListField.Store.Saved
import ListField.Cli.Grammar
import ListField.Cli.Help
import ListField.Cli.Error
import ListField.Cli.Parse
import ListField.Tool.Grammar
import ListField.Tool.Output
import ListField.Tool.Session
import ListField.Tool.Commands
import ListField.Tool.Program
import ListField.Main
import ListField.Proofs.Canonical
import ListField.Proofs.ValueLists
import ListField.Proofs.ValueRows
import ListField.Proofs.Recording
import ListField.Proofs.Frames
import ListField.Proofs.Reachable
import ListField.Proofs.Atomicity
import ListField.Proofs.CopyForward
import ListField.Proofs.Checks
import ListField.Proofs.FreshRows
import ListField.Proofs.Accepted
import ListField.Proofs.ChangeLaws
import ListField.Proofs.AuditTrail
import ListField.Proofs.Failures
import ListField.Proofs.KeptChanges
import ListField.Proofs.WriterOutcome
import ListField.Proofs.FollowUp
import ListField.Proofs.Transitions
import ListField.Proofs.WorkflowImage
import ListField.Proofs.ValueCheck
import ListField.Proofs.Rejections
import ListField.Proofs.Rendering
import ListField.Proofs.ChoiceIds
import ListField.Proofs.Defaults
import ListField.Proofs.ChoiceIndex
import ListField.Proofs.BuiltWorkflows
import ListField.Proofs.StoredRows
import ListField.Proofs.OpenUnits
import ListField.Proofs.EdgeWrites
import ListField.Proofs.UniqueEdges
import ListField.Proofs.CachedAnswers
import ListField.Proofs.ChoiceJson
import ListField.Proofs.Catalog
import ListField.Proofs.TokenResolution
import ListField.Proofs.LabelOrder
import ListField.Proofs.Migrations
