import CloudSpace.Change.Basic
import CloudSpace.Change.Encoding
import CloudSpace.Cloud.Client
import CloudSpace.Cloud.Description
import CloudSpace.Cloud.Manifest
import CloudSpace.Cloud.Request
import CloudSpace.Cloud.Resource
import CloudSpace.Cloud.Space
import CloudSpace.Cloud.Wire
import CloudSpace.CommandLine
import CloudSpace.Decimal.Binary64
import CloudSpace.Decimal.Shortest
import CloudSpace.Diff
import CloudSpace.Dotenv
import CloudSpace.Environment
import CloudSpace.Error
import CloudSpace.Files
import CloudSpace.Fingerprint
import CloudSpace.Grouping
import CloudSpace.Json.Printer
import CloudSpace.Json.Reader
import CloudSpace.Main
import CloudSpace.NameMap
import CloudSpace.Plan.Application
import CloudSpace.Plan.Batch
import CloudSpace.Plan.Entity
import CloudSpace.Plan.Operation
import CloudSpace.Plan.Transition
import CloudSpace.Platform.Basic
import CloudSpace.Platform.Call
import CloudSpace.Platform.Memory
import CloudSpace.Program
import CloudSpace.Proofs.Delta
import CloudSpace.Proofs.Diff
import CloudSpace.Proofs.Diff.Exact
import CloudSpace.Proofs.Diff.FieldType
import CloudSpace.Proofs.Diff.Patch
import CloudSpace.Proofs.Diff.Schema
import CloudSpace.Proofs.Grouping
import CloudSpace.Proofs.Grouping.Partition
import CloudSpace.Proofs.NameMap
import CloudSpace.Proofs.Plan.Application
import CloudSpace.Proofs.Plan.Batch
import CloudSpace.Proofs.Plan.Entity
import CloudSpace.Proofs.Plan.Progress
import CloudSpace.Proofs.Plan.Section
import CloudSpace.Proofs.Plan.Separation
import CloudSpace.Proofs.Platform.Effect
import CloudSpace.Proofs.Platform.Independence
import CloudSpace.Proofs.Platform.Memory
import CloudSpace.Proofs.Platform.Run
import CloudSpace.Proofs.Reconcile.Convergence
import CloudSpace.Proofs.Reconcile.Dependencies
import CloudSpace.Proofs.Reconcile.DryRun
import CloudSpace.Proofs.Reconcile.Frame
import CloudSpace.Proofs.Reconcile.Order
import CloudSpace.Proofs.Reconcile.Preparation
import CloudSpace.Proofs.Reconcile.Rerun
import CloudSpace.Proofs.Reconcile.Trace
import CloudSpace.Reconcile
import CloudSpace.Record.Application
import CloudSpace.Record.Document
import CloudSpace.Record.Service
import CloudSpace.Record.Space
import CloudSpace.Report.Data
import CloudSpace.Report.Format
import CloudSpace.Report.Moment
import CloudSpace.Report.Style
import CloudSpace.Report.Table
import CloudSpace.Report.Text
import CloudSpace.Sha256
import CloudSpace.Text.Bytes
import CloudSpace.Text.Character
import CloudSpace.Text.Width
import CloudSpace.Url.Address
import CloudSpace.Url.Basic
import CloudSpace.Url.Host
import CloudSpace.Url.Percent
import CloudSpace.Url.Punycode
import CloudSpace.Usage
import CloudSpace.Validation
import CloudSpace.Value
import CloudSpace.Yaml.Alias
import CloudSpace.Yaml.Node
import CloudSpace.Yaml.Place
import CloudSpace.Yaml.Plain
import CloudSpace.Yaml.Printer
import CloudSpace.Yaml.Reader
import CloudSpace.Yaml.ScalarText
import CloudSpace.Yaml.Token
import CloudSpace.Proofs.Reconcile.Abort
import CloudSpace.Proofs.Reconcile.Isolation
import CloudSpace.Proofs.Reconcile.Soundness
import CloudSpace.Proofs.Cloud.Server
import CloudSpace.Proofs.Platform.Atomic
import CloudSpace.Proofs.Cloud.Reading
import CloudSpace.Proofs.Program
import CloudSpace.Proofs.Cloud.Annotation
import CloudSpace.Proofs.Cloud.Answers
import CloudSpace.Proofs.Cloud.Field
import CloudSpace.Proofs.Cloud.Update
import CloudSpace.Proofs.Cloud.Table
import CloudSpace.Proofs.Cloud.Entry
import CloudSpace.Proofs.Cloud.ReadBack
import CloudSpace.Proofs.Platform.Bystander
import CloudSpace.Proofs.Reconcile.Interruption
import CloudSpace.Proofs.Record.Keeping
import CloudSpace.Proofs.Record.RoundTrip
import CloudSpace.Proofs.Cloud.Exchange
import CloudSpace.Proofs.Cloud.Mutation
import CloudSpace.Proofs.Cloud.Retry
import CloudSpace.Proofs.Cloud.Job
import CloudSpace.Proofs.Reconcile.Fixpoint
import CloudSpace.Proofs.Cloud.Script
import CloudSpace.Proofs.Cloud.Question
import CloudSpace.Proofs.Cloud.Errand
import CloudSpace.Proofs.Cloud.Conduct
import CloudSpace.Proofs.Cloud.Gathering
import CloudSpace.Proofs.Cloud.Catalog
import CloudSpace.Proofs.Cloud.Developers
import CloudSpace.Proofs.Plan.Transition
import CloudSpace.Proofs.Plan.Update
import CloudSpace.Proofs.Reconcile.Listing
import CloudSpace.Proofs.Cloud.Paging
import CloudSpace.Proofs.Diff.Mirror
import CloudSpace.Proofs.Plan.Arbitrary
import CloudSpace.Proofs.Plan.Reordering
import CloudSpace.Proofs.Plan.Summary
import CloudSpace.Proofs.Json.Layout
import CloudSpace.Proofs.Json.Order
import CloudSpace.Proofs.Plan.Reading
import CloudSpace.Proofs.Record.Telling
import CloudSpace.Proofs.Change.Telling
import CloudSpace.Proofs.Text
import CloudSpace.Proofs.Validation.Cautions
import CloudSpace.Proofs.Validation.Exact
import CloudSpace.Proofs.Validation.Rules
import CloudSpace.Proofs.Fingerprint
import CloudSpace.Proofs.Files
import CloudSpace.Proofs.Yaml.Quoted
import CloudSpace.Proofs.Yaml.Block
import CloudSpace.Proofs.Yaml.Word
import CloudSpace.Proofs.Yaml.Scalar
import CloudSpace.Proofs.Yaml.Layout
import CloudSpace.Proofs.Record.Writing
import CloudSpace.Proofs.Fingerprint.Exact
