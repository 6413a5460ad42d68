import ShootKubeconfig.Artifact
import ShootKubeconfig.Quota
import ShootKubeconfig.TrustAnchor

namespace ShootKubeconfig

namespace Shoot

def updateMatters (old new : Shoot) : Bool :=
  old.advertisedAddresses != new.advertisedAddresses

end Shoot

namespace ConfigMap

def roleLabel? (configMap : ConfigMap) : Option String :=
  configMap.metadata.label? Artifact.roleLabel

/-- Only kubeconfigs count, among them those that become or cease to be one. -/
def updateMatters (old new : ConfigMap) : Bool :=
  (Artifact.hasRole old || Artifact.hasRole new) &&
    (old.roleLabel? != new.roleLabel? || Artifact.kubeconfig? old != Artifact.kubeconfig? new)

end ConfigMap

namespace ShootState

/-- A certificate authority matters once it can be read. One that could not be read before, other
than for not being there, is left to the next reconcile. -/
def updateMatters (old new : ShootState) : Bool :=
  match TrustAnchor.ofShootState new with
  | .error _ => false
  | .ok authority =>
      match TrustAnchor.ofShootState old with
      | .ok before => before != authority
      | .error .notProvisioned => true
      | .error _ => false

end ShootState

namespace ResourceQuota

structure Amounts where
  hard : Option Int
  used : Option Int
  deriving DecidableEq, Repr

def amounts? (quota : ResourceQuota) : Option Amounts :=
  match Quota.hardAmount quota Quota.configMapCount with
  | .error _ => none
  | .ok hard =>
      match Quota.usedAmount quota Quota.configMapCount with
      | .error _ => none
      | .ok used => some ⟨hard, used⟩

/-- More is allowed, or less is used where there was no room before. -/
def Amounts.freed (old new : Amounts) : Bool :=
  (old.hard != new.hard && Quota.lessThan old.hard new.hard) ||
    (old.used != new.used && !Quota.lessThan old.used old.hard &&
      Quota.lessThan new.used new.hard)

def updateMatters (old new : ResourceQuota) : Bool :=
  match old.amounts?, new.amounts? with
  | some old, some new => old.freed new
  | _, _ => false

end ResourceQuota

end ShootKubeconfig
