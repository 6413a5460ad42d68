import ShootKubeconfig.Configuration
import ShootKubeconfig.Failure
import ShootKubeconfig.Time.Delay

namespace ShootKubeconfig.Reconcile

inductive Outcome where
  /-- The namespace already has as many reconciles as it may. -/
  | admissionDenied
  /-- The shoot or its state is gone or about to go, and so is the kubeconfig. -/
  | cleanup
  /-- The quotas of the namespace leave no room. -/
  | quotaExceeded
  /-- The shoot does not advertise any address yet. -/
  | noEndpoints
  /-- The certificate authority has not been generated yet. -/
  | trustAnchorPending
  | unchanged
  | created
  | updated
  deriving DecidableEq, Repr, Inhabited

/-- Between reconciles of a shoot of which nothing is expected. -/
def resyncInterval : Span := .ofHours 1

def transientRetry : Span := .ofSeconds 30

namespace Outcome

def all : List Outcome :=
  [.admissionDenied, .cleanup, .quotaExceeded, .noEndpoints, .trustAnchorPending, .unchanged,
    .created, .updated]

def name : Outcome → String
  | .admissionDenied => "AdmissionDenied"
  | .cleanup => "Cleanup"
  | .quotaExceeded => "QuotaExceeded"
  | .noEndpoints => "NoEndpoints"
  | .trustAnchorPending => "TrustAnchorPending"
  | .unchanged => "Unchanged"
  | .created => "Created"
  | .updated => "Updated"

def deferral? : Outcome → Option String
  | .admissionDenied => some "AdmissionDenied"
  | .quotaExceeded => some "QuotaExceeded"
  | .noEndpoints => some "NoEndpoints"
  | .trustAnchorPending => some "TrustAnchorPending"
  | .cleanup | .unchanged | .created | .updated => none

end Outcome

abbrev Result : Type := Except Failure Outcome

def admissionRetry (settings : ShootSettings) : Delay :=
  .jitter settings.admissionRetryMin settings.admissionRetryMax

def requeue? (settings : ShootSettings) : Outcome → Option Delay
  | .admissionDenied => some (admissionRetry settings)
  | .cleanup => none
  | .quotaExceeded => some (.exactly settings.quotaRetry)
  | .noEndpoints | .trustAnchorPending | .unchanged | .created | .updated =>
      some (.exactly resyncInterval)

def retryAfter (failure : Failure) : Span :=
  match failure.failureClass with
  | .transient => transientRetry
  | .validation => resyncInterval

end ShootKubeconfig.Reconcile
