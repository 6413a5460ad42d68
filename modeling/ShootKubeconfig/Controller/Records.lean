import ShootKubeconfig.Key
import ShootKubeconfig.Metrics
import ShootKubeconfig.Reconcile.Outcome

namespace ShootKubeconfig

namespace Metrics

open Reconcile

def shootFailures (key : Key) (failure : Failure) : FailureSeries :=
  ⟨Shoot.kind, key.path, failure.label⟩

/-- Counts a failure, or why the kubeconfig of a shoot is postponed. -/
def recordResult (metrics : Metrics) (key : Key) : Result → Metrics
  | .ok outcome =>
      match outcome.deferral? with
      | some reason => metrics.recordDeferral reason
      | none => metrics
  | .error failure =>
      { metrics with failures := metrics.failures.increment (shootFailures key failure) }

@[simp] theorem recordFailure_shoot (metrics : Metrics) (metadata : Metadata)
    (failure : Failure) :
    metrics.recordFailure Shoot.kind metadata failure =
      metrics.recordResult metadata.key (.error failure) := rfl

@[simp] theorem reconciliations_recordResult (metrics : Metrics) (key : Key) (result : Result) :
    (metrics.recordResult key result).reconciliations = metrics.reconciliations := by
  cases result with
  | ok outcome => cases outcome <;> rfl
  | error failure => rfl

@[simp] theorem durations_recordResult (metrics : Metrics) (key : Key) (result : Result) :
    (metrics.recordResult key result).durations = metrics.durations := by
  cases result with
  | ok outcome => cases outcome <;> rfl
  | error failure => rfl

@[simp] theorem failures_recordResult_ok (metrics : Metrics) (key : Key) (outcome : Outcome) :
    (metrics.recordResult key (.ok outcome)).failures = metrics.failures := by
  cases outcome <;> rfl

@[simp] theorem failures_recordResult_error (metrics : Metrics) (key : Key)
    (failure : Failure) :
    (metrics.recordResult key (.error failure)).failures =
      metrics.failures.increment (shootFailures key failure) := rfl

@[simp] theorem deferrals_recordResult_error (metrics : Metrics) (key : Key)
    (failure : Failure) :
    (metrics.recordResult key (.error failure)).deferrals = metrics.deferrals := rfl

end Metrics

namespace Controller

open Reconcile

structure Subject where
  name : Option String
  inNamespace? : Option String
  uid : Option String
  deriving DecidableEq, Repr

def Subject.ofMetadata (metadata : Metadata) : Subject :=
  ⟨metadata.name, metadata.inNamespace?, metadata.uid⟩

/-- An event that tells the owner of a shoot what is wrong with it. -/
structure Warning where
  regarding : Subject
  /-- The wording of the failure. -/
  note : Option Wording
  deriving DecidableEq, Repr

namespace Warning

def type : String := "Warning"

def reason : String := "FailedReconcile"

def action : String := "Reconcile"

/-- The warning about a reconcile: only a failure that needs other inputs deserves one. -/
def ofResult? (metadata : Metadata) : Result → Option Warning
  | .ok _ => none
  | .error failure =>
      match failure.failureClass with
      | .transient => none
      | .validation => some ⟨.ofMetadata metadata, failure.message?⟩

end Warning

structure Records where
  metrics : Metrics := {}
  /-- The warnings that were to be published, the latest first. -/
  warnings : List Warning := []

def namespaceMissing : Failure := .missingKey "shoot metadata.namespace"

namespace Records

def start (records : Records) : Records :=
  { records with metrics := records.metrics.recordStart }

def warn (records : Records) (warning : Warning) : Records :=
  { records with warnings := warning :: records.warnings }

def measure (records : Records) : Records :=
  { records with metrics := records.metrics.recordDuration Shoot.kind }

def count (records : Records) (key : Key) (result : Result) : Records :=
  { records with metrics := records.metrics.recordResult key result }

def finish (records : Records) (key : Key) (result : Result) : Records :=
  (records.count key result).measure

end Records

/-- When a shoot is reconciled again after a result, unless only a change gives cause to. -/
def nextAttempt? (settings : ShootSettings) : Result → Option Delay
  | .ok outcome => requeue? settings outcome
  | .error failure => some (.exactly (retryAfter failure))

end Controller

end ShootKubeconfig
