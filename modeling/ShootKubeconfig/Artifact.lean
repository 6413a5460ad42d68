import ShootKubeconfig.Failure
import ShootKubeconfig.Json.Writer
import ShootKubeconfig.Resource.ConfigMap
import ShootKubeconfig.Resource.Shoot

namespace ShootKubeconfig.Artifact

def roleLabel : String := "operations.gardener.cloud/role"

def role : String := "kubeconfig"

def dataKey : String := "kubeconfig"

def nameSuffix : String := ".kubeconfig"

def nameFor (shootName : String) : String :=
  shootName ++ nameSuffix

def hasRole (configMap : ConfigMap) : Bool :=
  configMap.metadata.label? roleLabel == some role

def kubeconfig? (configMap : ConfigMap) : Option String :=
  configMap.data.bind (·.get? dataKey)

/-- The shoot does not wait for its kubeconfig when it is deleted. -/
def ownerReference (shoot : Shoot) : Except Failure OwnerReference :=
  match shoot.metadata.name, shoot.metadata.uid with
  | some name, some uid =>
      .ok {
        apiVersion := Shoot.apiVersion
        blockOwnerDeletion := some false
        controller := some true
        kind := Shoot.kind
        name
        uid }
  | _, _ => .error (.missingKey "shoot metadata.uid")

def desired (shoot : Shoot) (kubeconfig : String) : Except Failure ConfigMap := do
  let owner ← ownerReference shoot
  return {
    metadata := {
      name := some (nameFor shoot.metadata.anyName)
      inNamespace? := shoot.metadata.inNamespace?
      labels := some (.singleton roleLabel role)
      ownerReferences := some [owner] }
    data := some (.singleton dataKey kubeconfig) }

/-- A controller other than the one with the given identifier. -/
def foreignController? (uid : String) (owners : List OwnerReference) : Option OwnerReference :=
  owners.find? fun owner => owner.isController && owner.uid != uid

/-- Replaces the first reference to the same owner, or adds one at the end. -/
def putOwner (owner : OwnerReference) : List OwnerReference → List OwnerReference
  | [] => [owner]
  | other :: rest =>
      if other.uid = owner.uid then owner :: rest else other :: putOwner owner rest

/-- An existing ConfigMap with role, owner and data as desired, and all else as it is. -/
def merged (existing desired : ConfigMap) (owner : OwnerReference) : ConfigMap :=
  { existing with
    metadata := {
      existing.metadata with
      labels := some ((existing.metadata.labels.getD .empty).insert roleLabel role)
      ownerReferences := some (putOwner owner existing.metadata.owners) }
    data := desired.data }

/-- The ConfigMap that has to be written over an existing one, if any. -/
def merge (existing desired : ConfigMap) : Except Failure (Option ConfigMap) :=
  match desired.metadata.owners.head? with
  | none => .error (.missingKey "desired owner reference")
  | some owner =>
      match foreignController? owner.uid existing.metadata.owners with
      | some other =>
          .error (.alreadyOwned existing.metadata.anyName (other.kind ++ "/" ++ other.name))
      | none =>
          let result := merged existing desired owner
          .ok (if result = existing then none else some result)

def size (configMap : ConfigMap) : Nat :=
  configMap.toJson.size

def ensureSize (configMap : ConfigMap) (limit : Nat) : Except Failure Unit :=
  if limit < size configMap then
    .error (.objectTooLarge configMap.metadata.anyName (size configMap) limit)
  else .ok ()

end ShootKubeconfig.Artifact
