import ShootKubeconfig.Admission
import ShootKubeconfig.Arguments
import ShootKubeconfig.Artifact
import ShootKubeconfig.Certificate.Element
import ShootKubeconfig.Certificate.Pem
import ShootKubeconfig.Certificate.Structure
import ShootKubeconfig.Certificate.Validity
import ShootKubeconfig.Cluster.Api
import ShootKubeconfig.Cluster.Change
import ShootKubeconfig.Cluster.Garden
import ShootKubeconfig.Cluster.Memory
import ShootKubeconfig.Cluster.Scripted
import ShootKubeconfig.Cluster.Session
import ShootKubeconfig.Configuration
import ShootKubeconfig.Controller.Invocation
import ShootKubeconfig.Controller.Records
import ShootKubeconfig.Controller.Removal
import ShootKubeconfig.Controller.Scenario
import ShootKubeconfig.Controller.Schedule
import ShootKubeconfig.Controller.Simulation
import ShootKubeconfig.Controller.Trigger
import ShootKubeconfig.Endpoints
import ShootKubeconfig.Failure
import ShootKubeconfig.Json.Binary64
import ShootKubeconfig.Json.Fields
import ShootKubeconfig.Json.Reader
import ShootKubeconfig.Json.Value
import ShootKubeconfig.Json.Writer
import ShootKubeconfig.Key
import ShootKubeconfig.Kubeconfig.Document
import ShootKubeconfig.Kubeconfig.Format
import ShootKubeconfig.Kubeconfig.Request
import ShootKubeconfig.LogFormat
import ShootKubeconfig.Main
import ShootKubeconfig.Metrics
import ShootKubeconfig.ObjectKey
import ShootKubeconfig.Quantity
import ShootKubeconfig.Quota
import ShootKubeconfig.Reconcile.Outcome
import ShootKubeconfig.Reconcile.Pool
import ShootKubeconfig.Reconcile.Program
import ShootKubeconfig.Reconcile.Shoot
import ShootKubeconfig.Resource.ConfigMap
import ShootKubeconfig.Resource.Metadata
import ShootKubeconfig.Resource.ResourceQuota
import ShootKubeconfig.Resource.Shoot
import ShootKubeconfig.Resource.ShootState
import ShootKubeconfig.Table
import ShootKubeconfig.Text.Base64
import ShootKubeconfig.Text.Blank
import ShootKubeconfig.Text.Invisible
import ShootKubeconfig.Text.Quoted
import ShootKubeconfig.Text.Utf8
import ShootKubeconfig.Time.Agenda
import ShootKubeconfig.Time.Calendar
import ShootKubeconfig.Time.Delay
import ShootKubeconfig.Time.Span
import ShootKubeconfig.Time.Timestamp
import ShootKubeconfig.TrustAnchor
import ShootKubeconfig.Uri
import ShootKubeconfig.Version
import ShootKubeconfig.Watch.Relevance
import ShootKubeconfig.Watch.RelevanceFilter
import ShootKubeconfig.Watch.Sighting
import ShootKubeconfig.Yaml.Cursor
import ShootKubeconfig.Yaml.Event
import ShootKubeconfig.Yaml.Layout
import ShootKubeconfig.Yaml.Node
import ShootKubeconfig.Yaml.Plain
import ShootKubeconfig.Yaml.Scalar
import ShootKubeconfig.Yaml.Token
import ShootKubeconfig.Yaml.Tree
import ShootKubeconfig.Proofs.Artifact.Folding
import ShootKubeconfig.Proofs.Artifact.Merge
import ShootKubeconfig.Proofs.Reconcile.Wanted
import ShootKubeconfig.Proofs.Reconcile.Backing
import ShootKubeconfig.Proofs.Cluster.Undisturbed
import ShootKubeconfig.Proofs.Cluster.EndState
import ShootKubeconfig.Proofs.Cluster.Fixpoint
import ShootKubeconfig.Proofs.Cluster.Interleaving
import ShootKubeconfig.Proofs.Cluster.Cleanup
import ShootKubeconfig.Proofs.Cluster.Dependence
import ShootKubeconfig.Proofs.TrustAnchor
import ShootKubeconfig.Proofs.Watch.Completeness
import ShootKubeconfig.Proofs.Admission
import ShootKubeconfig.Proofs.Reconcile.Ceilings
import ShootKubeconfig.Proofs.Quantity
import ShootKubeconfig.Proofs.Quota
import ShootKubeconfig.Proofs.Watch.Delivery
import ShootKubeconfig.Proofs.Watch.FreedQuota
import ShootKubeconfig.Proofs.Watch.Stream
import ShootKubeconfig.Proofs.Watch.Replay
import ShootKubeconfig.Proofs.Cluster.Independence
import ShootKubeconfig.Proofs.Kubeconfig.Authority
import ShootKubeconfig.Proofs.Reconcile.Submission
import ShootKubeconfig.Proofs.Kubeconfig.Document
import ShootKubeconfig.Proofs.Reconcile.Concealment
import ShootKubeconfig.Proofs.Controller.Removal
import ShootKubeconfig.Proofs.Controller.Accounting
import ShootKubeconfig.Proofs.Cluster.Blocked
import ShootKubeconfig.Proofs.Controller.Waiting
import ShootKubeconfig.Proofs.Text.Run
import ShootKubeconfig.Proofs.Version
import ShootKubeconfig.Proofs.Kubeconfig.Format
import ShootKubeconfig.Proofs.Configuration
