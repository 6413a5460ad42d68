import ShootKubeconfig.Reconcile.Program

namespace ShootKubeconfig.Cluster

open Reconcile

structure Memory where
  shoots : Table Key Shoot := .empty
  shootStates : Table Key ShootState := .empty
  configMaps : Table Key ConfigMap := .empty
  resourceQuotas : Table Key ResourceQuota := .empty
  identity : Option ConfigMap := none
  /-- The number that the last written ConfigMap got as its resource version. -/
  version : Nat := 0

namespace Memory

def alreadyExists : Refusal :=
  ⟨"Failure", "already exists", "AlreadyExists", 409⟩

def conflict : Refusal :=
  ⟨"Failure", "the object has been modified", "Conflict", 409⟩

def putConfigMap (memory : Memory) (configMap : ConfigMap) : Memory :=
  let version := memory.version + 1
  { memory with
    version
    configMaps :=
      memory.configMaps.insert configMap.metadata.key
        (configMap.withVersion (toString version)) }

/-- The quotas of a namespace in the order of their names. -/
def quotasOf (memory : Memory) (namespaceName : String) : List ResourceQuota :=
  (memory.resourceQuotas.entries.filter fun entry =>
    entry.1.namespaceName == namespaceName).map (·.2)

def create (memory : Memory) (configMap : ConfigMap) : Answer (.create configMap) × Memory :=
  if memory.configMaps.contains configMap.metadata.key then
    (.error (.cluster (.refused alreadyExists)), memory)
  else (.ok (), memory.putConfigMap configMap)

/-- A ConfigMap is replaced only by one with its own resource version. -/
def replace (memory : Memory) (configMap : ConfigMap) : Answer (.replace configMap) × Memory :=
  match memory.configMaps.get? configMap.metadata.key with
  | none => (.error (.cluster (.refused conflict)), memory)
  | some existing =>
      if existing.metadata.resourceVersion = configMap.metadata.resourceVersion then
        (.ok (), memory.putConfigMap configMap)
      else (.error (.cluster (.refused conflict)), memory)

def answer (memory : Memory) : (call : Call) → Answer call × Memory
  | .shoot key => (.ok (memory.shoots.get? key), memory)
  | .shootState key => (.ok (memory.shootStates.get? key), memory)
  | .configMap key => (.ok (memory.configMaps.get? key), memory)
  | .resourceQuotas namespaceName => (.ok (memory.quotasOf namespaceName), memory)
  | .clusterIdentity => (.ok memory.identity, memory)
  | .create configMap => memory.create configMap
  | .replace configMap => memory.replace configMap
  | .delete key =>
      (.ok (memory.configMaps.contains key),
        { memory with configMaps := memory.configMaps.erase key })

end Memory

end ShootKubeconfig.Cluster
