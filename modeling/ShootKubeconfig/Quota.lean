import ShootKubeconfig.Quantity
import ShootKubeconfig.Resource.ResourceQuota

namespace ShootKubeconfig.Quota

/-- The resource whose quota limits the number of ConfigMaps in a namespace. -/
def configMapCount : String := "count/configmaps"

inductive Failure where
  | hardStatusMissing (quota resource : String)
  | usedStatusMissing (quota resource : String)
  | invalidQuantity (quota resource : String) (cause : Quantity.Malformed)
  deriving DecidableEq, Repr

def Failure.message : Failure → String
  | .hardStatusMissing quota resource =>
      s!"Could not determine hard status of ResourceQuota {quota} for {resource}; " ++
        "status does not seem to be up-to-date"
  | .usedStatusMissing quota resource =>
      s!"Could not determine used status of ResourceQuota {quota} for {resource}; " ++
        "status does not seem to be up-to-date"
  | .invalidQuantity quota resource cause =>
      s!"ResourceQuota {quota} has an invalid quantity for {resource}: {cause.message}"

/-- The amount of one resource in a list, in thousandths; no other resource is looked at. -/
def amountOf (list : Option (Dictionary String)) (resource : String) :
    Except Quantity.Malformed (Option Int) :=
  match list.bind (·.get? resource) with
  | none => .ok none
  | some quantity => (Quantity.read quantity).map some

/-- Whether one amount is less than another. An absent amount restricts nothing. -/
def lessThan : Option Int → Option Int → Bool
  | some first, some second => first < second
  | _, _ => true

def restricts (quota : ResourceQuota) (resource : String) : Bool :=
  ((quota.spec.bind (·.hard)).map (·.contains resource)).getD false

def hardAmount (quota : ResourceQuota) (resource : String) :
    Except Quantity.Malformed (Option Int) :=
  amountOf (quota.status.bind (·.hard)) resource

def usedAmount (quota : ResourceQuota) (resource : String) :
    Except Quantity.Malformed (Option Int) :=
  amountOf (quota.status.bind (·.used)) resource

/-- An amount that has to be there. -/
def requireAmount (quota : ResourceQuota) (resource : String) (missing : Failure) :
    Except Quantity.Malformed (Option Int) → Except Failure Int
  | .ok (some amount) => .ok amount
  | .ok none => .error missing
  | .error cause => .error (.invalidQuantity quota.metadata.anyName resource cause)

/-- One object counts a thousand thousandths. -/
def oneMoreFits (hard used : Int) : Bool :=
  match Quantity.bounded? (used + 1000) with
  | some next => next ≤ hard
  | none => false

def quotaHasCapacity (quota : ResourceQuota) (resource : String) : Except Failure Bool :=
  if restricts quota resource then do
    let name := quota.metadata.anyName
    let hard ← requireAmount quota resource (.hardStatusMissing name resource)
      (hardAmount quota resource)
    let used ← requireAmount quota resource (.usedStatusMissing name resource)
      (usedAmount quota resource)
    return oneMoreFits hard used
  else .ok true

/-- Every quota is looked at, so that an exhausted one hides no failure of another. -/
def hasCapacity (resource : String) : List ResourceQuota → Except Failure Bool
  | [] => .ok true
  | quota :: rest => do
      let sufficient ← quotaHasCapacity quota resource
      let others ← hasCapacity resource rest
      return sufficient && others

end ShootKubeconfig.Quota
