import AppOperator.Application.Basic
import AppOperator.Application.Definition
import AppOperator.Application.Spec
import AppOperator.Application.Status
import AppOperator.Binding.Consumer
import AppOperator.Binding.Name
import AppOperator.Binding.Provider
import AppOperator.Binding.Wiring
import AppOperator.Child.Knative
import AppOperator.Child.Monitor
import AppOperator.Child.Pod
import AppOperator.Child.Route
import AppOperator.Child.Service
import AppOperator.Child.Workload
import AppOperator.Cluster.Access
import AppOperator.Cluster.Child
import AppOperator.Cluster.Dialogue
import AppOperator.Cluster.Discovery
import AppOperator.Cluster.Key
import AppOperator.Cluster.Ownership
import AppOperator.Cluster.Server
import AppOperator.Data.Assoc
import AppOperator.Data.Dict
import AppOperator.Error
import AppOperator.Extension.ImageStream
import AppOperator.Extension.Knative
import AppOperator.Extension.Monitor
import AppOperator.Extension.Route
import AppOperator.Json.Basic
import AppOperator.Json.Merge
import AppOperator.Json.Pointer
import AppOperator.Json.Printer
import AppOperator.Json.Reader
import AppOperator.Kubernetes.Config
import AppOperator.Kubernetes.Container
import AppOperator.Kubernetes.Metadata
import AppOperator.Kubernetes.Pod
import AppOperator.Kubernetes.Service
import AppOperator.Kubernetes.Volume
import AppOperator.Kubernetes.Workload
import AppOperator.Layer.Admission
import AppOperator.Layer.Effective
import AppOperator.Layer.Merge
import AppOperator.Layer.Stack
import AppOperator.Main
import AppOperator.Number.Binary
import AppOperator.Number.Decimal
import AppOperator.Number.Shortest
import AppOperator.Operator.Address
import AppOperator.Operator.Arguments
import AppOperator.Operator.Config
import AppOperator.Operator.Controller
import AppOperator.Operator.Endpoint
import AppOperator.Operator.Metrics
import AppOperator.Reconcile.Bindings
import AppOperator.Reconcile.Children
import AppOperator.Reconcile.Pass
import AppOperator.Reconcile.Preparation
import AppOperator.Reconcile.Record
import AppOperator.Reconcile.Retry
import AppOperator.Shape.Basic
import AppOperator.Shape.Codec
import AppOperator.Shape.Schema
import AppOperator.Shape.Shaped
import AppOperator.Text.Base64
import AppOperator.Text.Blank
import AppOperator.Text.Quoted
import AppOperator.Text.Split
import AppOperator.Text.Visible
import AppOperator.Time.Date
import AppOperator.Time.Instant
import AppOperator.Watch.Dependents
import AppOperator.Watch.Filter
import AppOperator.Watch.Intake
import AppOperator.Watch.Source
import AppOperator.Yaml.Cursor
import AppOperator.Yaml.Node
import AppOperator.Yaml.Scalar
import AppOperator.Yaml.ScalarText
import AppOperator.Yaml.Shaped
import AppOperator.Yaml.Token
import AppOperator.Proofs.Binding.Contents
import AppOperator.Proofs.Binding.Delivery
import AppOperator.Proofs.Binding.Interleaving
import AppOperator.Proofs.Binding.Lifecycle
import AppOperator.Proofs.Binding.Mounts
import AppOperator.Proofs.Binding.Orphans
import AppOperator.Proofs.Binding.Owned
import AppOperator.Proofs.Binding.Published
import AppOperator.Proofs.Binding.Secrets
import AppOperator.Proofs.Binding.Sharing
import AppOperator.Proofs.Binding.Variables
import AppOperator.Proofs.Child.Admissible
import AppOperator.Proofs.Child.Claims
import AppOperator.Proofs.Child.Fixed
import AppOperator.Proofs.Child.Frame
import AppOperator.Proofs.Child.Labels
import AppOperator.Proofs.Child.Revision
import AppOperator.Proofs.Child.Steady
import AppOperator.Proofs.Cluster.Access
import AppOperator.Proofs.Cluster.Child
import AppOperator.Proofs.Cluster.Control
import AppOperator.Proofs.Cluster.Discovery
import AppOperator.Proofs.Cluster.Operations
import AppOperator.Proofs.Cluster.Owners
import AppOperator.Proofs.Cluster.Owning
import AppOperator.Proofs.Cluster.Resuming
import AppOperator.Proofs.Cluster.Runs
import AppOperator.Proofs.Cluster.Settling
import AppOperator.Proofs.Cluster.Stored
import AppOperator.Proofs.Cluster.Versions
import AppOperator.Proofs.Image.Reference
import AppOperator.Proofs.Layer.Admission
import AppOperator.Proofs.Layer.Keyed
import AppOperator.Proofs.Layer.Precedence
import AppOperator.Proofs.Layer.Stability
import AppOperator.Proofs.Operator.Backoff
import AppOperator.Proofs.Operator.Core
import AppOperator.Proofs.Operator.Counts
import AppOperator.Proofs.Operator.Failures
import AppOperator.Proofs.Operator.Fixed
import AppOperator.Proofs.Operator.History
import AppOperator.Proofs.Operator.Merged
import AppOperator.Proofs.Operator.Recorded
import AppOperator.Proofs.Operator.Rounds
import AppOperator.Proofs.Reconcile.Evolving
import AppOperator.Proofs.Reconcile.Footprint
import AppOperator.Proofs.Reconcile.Formed
import AppOperator.Proofs.Reconcile.Handover
import AppOperator.Proofs.Reconcile.Joined
import AppOperator.Proofs.Reconcile.Labelled
import AppOperator.Proofs.Reconcile.Labels
import AppOperator.Proofs.Reconcile.Ownership
import AppOperator.Proofs.Reconcile.Quiet
import AppOperator.Proofs.Reconcile.Resuming
import AppOperator.Proofs.Reconcile.Steps
import AppOperator.Proofs.Reconcile.Walk
import AppOperator.Proofs.Reconcile.Wanted
import AppOperator.Proofs.Shape.Described
import AppOperator.Proofs.Shape.Frame
import AppOperator.Proofs.Shape.Kept
import AppOperator.Proofs.Shape.RoundTrip
import AppOperator.Proofs.Shape.Written
import AppOperator.Proofs.Time.Notation
import AppOperator.Proofs.Time.Order
import AppOperator.Proofs.Watch.Coverage
import AppOperator.Proofs.Watch.Incarnations
import AppOperator.Proofs.Watch.Lookups
import AppOperator.Proofs.Watch.Precision
