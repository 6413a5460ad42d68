import ShootKubeconfig.Cluster.Scripted
import ShootKubeconfig.Reconcile.Pool
import ShootKubeconfig.Reconcile.Shoot

/-!
Reconciles of a scripted cluster, one after another or side by side.

A reconcile in the background stops before its first call until it is released. Once it goes on
it does so to its end.
-/

namespace ShootKubeconfig.Cluster

open Reconcile

structure Session where
  configuration : Configuration
  pool : Pool String
  cluster : Scripted := {}
  /-- The keys of the reconciles in the background. -/
  keys : Dictionary Key := .empty
  /-- Those of them that need not stop. -/
  released : List String := []
  /-- Those that have ended. -/
  finished : Dictionary Result := .empty

namespace Session

def ofConfiguration? (configuration : Configuration) : Option Session :=
  (Pool.ofSettings? configuration.shoot).map fun pool => { configuration, pool }

def change (session : Session) (change : Change) : Session :=
  { session with cluster := session.cluster.change change }

def execute (session : Session) (program : Program Outcome) : Result × Session :=
  let (result, cluster) := Program.run Scripted.answer program session.cluster
  (result, { session with cluster })

def finish (session : Session) (name : String) (result : Result) : Session :=
  { session with
    finished := session.finished.insert name result
    keys := session.keys.erase name
    released := session.released.filter (· ≠ name) }

def complete? (session : Session) (name : String) : Option Session := do
  let (result, session) :=
    session.execute
      (reconcile session.configuration.maxObjectSize ((session.keys.get? name).getD default))
  let pool ← session.pool.leave? name
  return { session with pool }.finish name result

/-- Gives out workers until there are none, or none waits for one. -/
def settle? : Nat → Session → Option Session
  | 0, session => some session
  | fuel + 1, session =>
      match session.pool.advance? with
      | none => some session
      | some (place, admitted, pool) => do
          let session := { session with pool }
          if !admitted then settle? fuel (session.finish place.run (.ok .admissionDenied))
          else if place.run ∈ session.released then
            settle? fuel (← session.complete? place.run)
          else settle? fuel session

def settled? (session : Session) : Option Session :=
  session.settle? (session.pool.waiting.length + 1)

def start? (session : Session) (name : String) (key : Key) : Option Session :=
  { session with
    keys := session.keys.insert name key
    pool := session.pool.enter name key.namespaceName }.settled?

def isAdmitted (session : Session) (name : String) : Bool :=
  session.pool.admitted.any (Pool.isOf name)

def isWaiting (session : Session) (name : String) : Bool :=
  session.pool.waiting.any (Pool.isOf name)

def release? (session : Session) (name : String) : Option Session :=
  if session.isAdmitted name then do (← session.complete? name).settled?
  else if session.isWaiting name then
    some { session with released := name :: session.released }
  else some session

/-- A reconcile in the foreground, unless there is no worker for it. -/
def reconcileNow (session : Session) (key : Key) : Option Result × Session :=
  if session.pool.hasFreeWorker then
    let (result, session) :=
      session.execute
        (attempt session.pool.admission session.configuration.maxObjectSize key)
    (some result, session)
  else (none, session)

def parked (session : Session) : List String :=
  (Table.ofList (session.pool.admitted.map fun place => (place.run, ()))).keys

def waiting (session : Session) : List String :=
  (Table.ofList (session.pool.waiting.map fun place => (place.run, ()))).keys

def takeCalls (session : Session) : List String × Session :=
  (session.cluster.calls.reverse, { session with cluster := { session.cluster with calls := [] } })

def takeFinished (session : Session) : List (String × Result) × Session :=
  (session.finished.entries, { session with finished := .empty })

end Session

end ShootKubeconfig.Cluster
