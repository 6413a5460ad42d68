import ShootKubeconfig.Kubeconfig.Format
import ShootKubeconfig.Quota
import ShootKubeconfig.TrustAnchor
import ShootKubeconfig.Uri

namespace ShootKubeconfig

structure Refusal where
  status : String
  message : String
  reason : String
  code : Nat
  deriving DecidableEq, Repr

inductive ClusterFailure where
  | refused (refusal : Refusal)
  | broken
  deriving DecidableEq, Repr

def Refusal.description (refusal : Refusal) : String :=
  s!"{refusal.message}: {refusal.reason} (ErrorResponse \x7b status: " ++
    Text.quoted refusal.status ++ ", message: " ++ Text.quoted refusal.message ++
    ", reason: " ++ Text.quoted refusal.reason ++ s!", code: {refusal.code} \x7d)"

inductive Failure where
  | serialization
  | cluster (cause : ClusterFailure)
  | quota (cause : Quota.Failure)
  | trustAnchor (cause : TrustAnchor.Failure)
  | kubeconfig (cause : Kubeconfig.Failure)
  | endpointUrl (name url : String) (cause : Uri.Malformed)
  | identityNotFound (configMap : String)
  | identityEmpty (configMap key : String)
  | identityTimeout
  | objectTooLarge (name : String) (size limit : Nat)
  | alreadyOwned (name owner : String)
  | missingKey (key : String)
  deriving DecidableEq, Repr

/-- A transient failure may pass by itself; any other needs its inputs to change. -/
inductive FailureClass where
  | transient
  | validation
  deriving DecidableEq, Repr

namespace Failure

/-- The wording of a failure, except where no more than its heading is ours. -/
def message? : Failure → Option Wording
  | .serialization => none
  | .cluster .broken => none
  | .cluster (.refused refusal) => some s!"Kube Error: ApiError: {refusal.description}"
  | .quota cause => some cause.message
  | .trustAnchor cause => some cause.message
  | .kubeconfig cause => some s!"Failed to build kubeconfig: {cause.message}"
  | .endpointUrl name url cause =>
      some s!"Could not parse url {url} of advertised address {name}: {cause.message}"
  | .identityNotFound configMap =>
      some s!"The garden cluster identity ConfigMap {configMap} does not exist"
  | .identityEmpty configMap key =>
      some s!"The garden cluster identity ConfigMap {configMap} has no data for key {key}"
  | .identityTimeout => some "Timed out fetching the garden cluster identity"
  | .objectTooLarge name size limit =>
      some s!"ConfigMap {name} has {size} bytes, which is more than the allowed {limit}"
  | .alreadyOwned name owner => some s!"ConfigMap {name} is already controlled by {owner}"
  | .missingKey key => some s!"Object is missing {key}"

/-- The API server refuses an object as it is with one of two codes. -/
def failureClass : Failure → FailureClass
  | .cluster (.refused refusal) =>
      if refusal.code = 400 ∨ refusal.code = 422 then .validation else .transient
  | .cluster .broken => .transient
  | .quota _ => .transient
  | .identityNotFound _ => .transient
  | .identityEmpty _ _ => .transient
  | .identityTimeout => .transient
  | .serialization => .validation
  | .trustAnchor _ => .validation
  | .kubeconfig _ => .validation
  | .endpointUrl _ _ _ => .validation
  | .objectTooLarge _ _ _ => .validation
  | .alreadyOwned _ _ => .validation
  | .missingKey _ => .validation

def label : Failure → String
  | .serialization => "SerializationError"
  | .cluster _ => "KubeError"
  | .quota _ => "QuotaStatusUnknown"
  | .trustAnchor _ => "InvalidTrustAnchor"
  | .kubeconfig _ => "InvalidKubeconfig"
  | .endpointUrl _ _ _ => "InvalidEndpointUrl"
  | .identityNotFound _ => "ClusterIdentityNotFound"
  | .identityEmpty _ _ => "ClusterIdentityEmpty"
  | .identityTimeout => "ClusterIdentityTimeout"
  | .objectTooLarge _ _ _ => "ObjectTooLarge"
  | .alreadyOwned _ _ => "AlreadyOwned"
  | .missingKey _ => "MissingObjectKey"

end Failure

end ShootKubeconfig
