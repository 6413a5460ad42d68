import ShootKubeconfig.Admission
import ShootKubeconfig.Endpoints
import ShootKubeconfig.Reconcile.Outcome
import ShootKubeconfig.Reconcile.Program

namespace ShootKubeconfig.Reconcile

def identityKey : Key := ⟨"kube-system", "cluster-identity"⟩

def identityDataKey : String := "cluster-identity"

def identityPatience : Span := .ofSeconds 10

/-- The identity in the ConfigMap that publishes it, which is not the empty text. -/
def identityIn : Option ConfigMap → Except Failure String
  | none => .error (.identityNotFound identityKey.path)
  | some configMap =>
      match configMap.data.bind (·.get? identityDataKey) with
      | none => .error (.identityEmpty identityKey.path identityDataKey)
      | some identity =>
          if identity = "" then .error (.identityEmpty identityKey.path identityDataKey)
          else .ok identity

def gardenIdentity : Program String :=
  .ask .clusterIdentity fun configMap => .ofExcept (identityIn configMap)

def cleanup (key : Key) : Program Outcome :=
  .ask (.delete key.artifact) fun _ => .done .cleanup

/-- Whether one more ConfigMap may be created; an update needs no room. -/
def hasRoom (key : Key) (existing : Option ConfigMap) : Program Bool :=
  match existing with
  | some _ => .done true
  | none =>
      .ask (.resourceQuotas key.namespaceName) fun quotas =>
        .ofExcept ((Quota.hasCapacity Quota.configMapCount quotas).mapError .quota)

/-- What a shoot and its state allow for. -/
inductive Readiness where
  | postponed (outcome : Outcome)
  | ready (authority : Octets) (endpoints : List Kubeconfig.Endpoint)

def readiness (shoot : Shoot) (state : ShootState) : Except Failure Readiness :=
  if shoot.advertisedAddresses = [] then .ok (.postponed .noEndpoints)
  else
    match TrustAnchor.ofShootState state with
    | .error .notProvisioned => .ok (.postponed .trustAnchorPending)
    | .error failure => .error (.trustAnchor failure)
    | .ok authority => do
        (TrustAnchor.validate authority).mapError .trustAnchor
        let endpoints ← shoot.endpoints
        return .ready authority endpoints

def request (key : Key) (authority : Octets) (endpoints : List Kubeconfig.Endpoint)
    (identity : String) : Kubeconfig.Request where
  endpoints
  certificateAuthority := authority
  namespaceName := key.namespaceName
  shootName := key.name
  gardenIdentity := identity

def desired (shoot : Shoot) (request : Kubeconfig.Request) : Except Failure ConfigMap := do
  let format ←
    (Kubeconfig.Format.ofKubernetesVersion shoot.kubernetesVersion).mapError .kubeconfig
  let kubeconfig ← (request.build format).mapError .kubeconfig
  Artifact.desired shoot kubeconfig

def write (limit : Nat) (existing : Option ConfigMap) (desired : ConfigMap) : Program Outcome :=
  match existing with
  | none => do
      .ofExcept (Artifact.ensureSize desired limit)
      .ask (.create desired) fun _ => .done .created
  | some existing => do
      match ← Program.ofExcept (Artifact.merge existing desired) with
      | none => return .unchanged
      | some merged =>
          .ofExcept (Artifact.ensureSize merged limit)
          .ask (.replace merged) fun _ => .done .updated

def publish (limit : Nat) (key : Key) (shoot : Shoot) (existing : Option ConfigMap)
    (state : ShootState) : Program Outcome := do
  match ← Program.ofExcept (readiness shoot state) with
  | .postponed outcome => return outcome
  | .ready authority endpoints =>
      let identity ← gardenIdentity
      let configMap ←
        Program.ofExcept (desired shoot (request key authority endpoints identity))
      write limit existing configMap

def reconcileState (limit : Nat) (key : Key) (shoot : Shoot) (existing : Option ConfigMap) :
    Program Outcome :=
  .ask (.shootState key) fun
    | none => cleanup key
    | some state =>
        if state.terminating then cleanup key else publish limit key shoot existing state

def reconcileShoot (limit : Nat) (key : Key) (shoot : Shoot) : Program Outcome :=
  .ask (.configMap key.artifact) fun existing => do
    if ← hasRoom key existing then reconcileState limit key shoot existing
    else return .quotaExceeded

def reconcile (limit : Nat) (key : Key) : Program Outcome :=
  .ask (.shoot key) fun
    | none => cleanup key
    | some shoot => if shoot.terminating then cleanup key else reconcileShoot limit key shoot

/-- The reconcile of a key, unless its namespace already has as many as it may. -/
def attempt (admission : Admission) (limit : Nat) (key : Key) : Program Outcome :=
  match admission.enter? key.namespaceName with
  | none => .done .admissionDenied
  | some _ => reconcile limit key

end ShootKubeconfig.Reconcile
