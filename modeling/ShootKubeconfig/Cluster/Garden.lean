import ShootKubeconfig.Cluster.Api
import ShootKubeconfig.Cluster.Change
import ShootKubeconfig.Watch.Sighting

/-!
A cluster in memory whose changes are watched, and whose API server may refuse requests.

The identity of the garden is kept among the ConfigMaps.
-/

namespace ShootKubeconfig.Cluster

open Reconcile Watch

structure Garden where
  memory : Memory := {}
  /-- The codes with which requests are refused, by their names. -/
  refusals : Dictionary Nat := .empty

namespace Garden

/-- What the watches see of the change from one memory to another under a key. The identity of
its own is not watched. -/
def sightings (old new : Memory) (key : Key) : Kind → List Sighting
  | .shoot =>
      ((Event.ofChange? always (old.shoots.get? key) (new.shoots.get? key)).map .shoot).toList
  | .shootState =>
      ((Event.ofChange? always (old.shootStates.get? key) (new.shootStates.get? key)).map
        .shootState).toList
  | .configMap =>
      ((Event.ofChange? Artifact.hasRole (old.configMaps.get? key)
        (new.configMaps.get? key)).map .configMap).toList
  | .resourceQuota =>
      ((Event.ofChange? always (old.resourceQuotas.get? key) (new.resourceQuotas.get? key)).map
        .resourceQuota).toList
  | .identity => []
where
  always {α : Type} (_ : α) : Bool := true

def moveTo (garden : Garden) (memory : Memory) (key : Key) (kind : Kind) :
    Garden × List Sighting :=
  ({ garden with memory }, sightings garden.memory memory key kind)

def put (garden : Garden) (object : Stored) : Garden × List Sighting :=
  garden.moveTo (garden.memory.put object) object.metadata.key object.kind

def remove (garden : Garden) (kind : Kind) (key : Key) : Garden × List Sighting :=
  garden.moveTo (garden.memory.remove key kind) key kind

def refuse (garden : Garden) (request : String) (code : Nat) : Garden :=
  { garden with refusals := garden.refusals.insert request code }

def heal (garden : Garden) : Garden :=
  { garden with refusals := .empty }

def requestName : Call → String
  | .shoot _ => "GET Shoot"
  | .shootState _ => "GET ShootState"
  | .configMap _ | .clusterIdentity => "GET ConfigMap"
  | .resourceQuotas _ => "list"
  | .create _ => "POST ConfigMap"
  | .replace _ => "PUT ConfigMap"
  | .delete _ => "DELETE ConfigMap"

def eventName : String := "event"

def refusal (code : Nat) : ApiResponse where
  status := code
  body := (Json.ofFields [
    ("kind", .text "Status"),
    ("apiVersion", .text "v1"),
    ("metadata", .object []),
    ("status", .text "Failure"),
    ("message", .text "injected"),
    ("reason", .text "Injected"),
    ("code", .integer code)]).write

def target? : Call → Option Key
  | .create object | .replace object => some object.metadata.key
  | .delete key => some key
  | _ => none

def hasWritten : (call : Call) → Answer call → Bool
  | .create _, .ok _ | .replace _, .ok _ => true
  | .delete _, .ok deleted => deleted
  | _, _ => false

/-- What comes of a call: its answer, the garden afterwards, what the watches see, and whether
anything has been written. -/
structure Effect (call : Call) where
  answer : Answer call
  garden : Garden
  sightings : List Sighting := []
  written : Bool := false

def accept (garden : Garden) (call : Call) : Effect call :=
  let (answer, memory) := garden.memory.answer call
  match target? call with
  | none => { answer, garden }
  | some key =>
      let (garden, sightings) := garden.moveTo memory key .configMap
      { answer, garden, sightings, written := hasWritten call answer }

def handle (garden : Garden) (call : Call) : Effect call :=
  match garden.refusals.get? (requestName call), call with
  | some code, call => { answer := (refusal code).answer call, garden }
  | none, .clusterIdentity =>
      { answer := .ok (garden.memory.configMaps.get? identityKey), garden }
  | none, call => garden.accept call

def listing (garden : Garden) : List Sighting :=
  let memory := garden.memory
  (Event.ofList memory.shoots.values).map .shoot ++
    (Event.ofList (memory.configMaps.values.filter Artifact.hasRole)).map .configMap ++
    (Event.ofList memory.shootStates.values).map .shootState ++
    (Event.ofList memory.resourceQuotas.values).map .resourceQuota

end Garden

end ShootKubeconfig.Cluster
