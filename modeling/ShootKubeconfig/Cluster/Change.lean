import ShootKubeconfig.Cluster.Memory

namespace ShootKubeconfig.Cluster

inductive Kind where
  | shoot
  | shootState
  | configMap
  | resourceQuota
  | identity
  deriving DecidableEq, Repr

inductive Stored where
  | shoot (object : Shoot)
  | shootState (object : ShootState)
  | configMap (object : ConfigMap)
  | resourceQuota (object : ResourceQuota)
  | identity (object : ConfigMap)

namespace Stored

def kind : Stored → Kind
  | .shoot _ => .shoot
  | .shootState _ => .shootState
  | .configMap _ => .configMap
  | .resourceQuota _ => .resourceQuota
  | .identity _ => .identity

def metadata : Stored → Metadata
  | .shoot object => object.metadata
  | .shootState object => object.metadata
  | .configMap object | .identity object => object.metadata
  | .resourceQuota object => object.metadata

end Stored

namespace Memory

def put (memory : Memory) : Stored → Memory
  | .shoot object => { memory with shoots := memory.shoots.insert object.metadata.key object }
  | .shootState object =>
      { memory with shootStates := memory.shootStates.insert object.metadata.key object }
  | .configMap object => memory.putConfigMap object
  | .resourceQuota object =>
      { memory with resourceQuotas := memory.resourceQuotas.insert object.metadata.key object }
  | .identity object => { memory with identity := some object }

def remove (memory : Memory) (key : Key) : Kind → Memory
  | .shoot => { memory with shoots := memory.shoots.erase key }
  | .shootState => { memory with shootStates := memory.shootStates.erase key }
  | .configMap => { memory with configMaps := memory.configMaps.erase key }
  | .resourceQuota => { memory with resourceQuotas := memory.resourceQuotas.erase key }
  | .identity => { memory with identity := none }

end Memory

end ShootKubeconfig.Cluster
