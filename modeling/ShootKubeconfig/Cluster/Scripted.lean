import ShootKubeconfig.Cluster.Change
import ShootKubeconfig.Reconcile.Shoot

namespace ShootKubeconfig.Cluster

open Reconcile

/-- Calls are meant by the name of their kind. -/
inductive Change where
  | put (object : Stored)
  | remove (kind : Kind) (key : Key)
  | refuse (call : String) (refusal : Refusal) (times : Nat)
  | before (call : String) (changes : List Change)
  | delayIdentity (delay : Span)

structure Scripted where
  memory : Memory := {}
  refusals : Dictionary (Refusal × Nat) := .empty
  pending : Dictionary (List Change) := .empty
  identityDelay : Span := .zero
  /-- The calls that have been made, the latest first. -/
  calls : List String := []

namespace Scripted

def change (cluster : Scripted) : Change → Scripted
  | .put object => { cluster with memory := cluster.memory.put object }
  | .remove kind key => { cluster with memory := cluster.memory.remove key kind }
  | .refuse call refusal times =>
      { cluster with refusals := cluster.refusals.insert call (refusal, times) }
  | .before call changes => { cluster with pending := cluster.pending.insert call changes }
  | .delayIdentity delay => { cluster with identityDelay := delay }

def changeAll (cluster : Scripted) (changes : List Change) : Scripted :=
  changes.foldl change cluster

def record (cluster : Scripted) (call : Call) : Scripted :=
  { cluster with calls := call.description :: cluster.calls }

def interrupt (cluster : Scripted) (call : Call) : Scripted :=
  match cluster.pending.get? call.name with
  | none => cluster
  | some changes =>
      { cluster with pending := cluster.pending.erase call.name }.changeAll changes

def refuse? (cluster : Scripted) (call : Call) : Option (Refusal × Scripted) :=
  match cluster.refusals.get? call.name with
  | some (refusal, times + 1) =>
      some (refusal,
        { cluster with refusals := cluster.refusals.insert call.name (refusal, times) })
  | _ => none

def answerNow (cluster : Scripted) (call : Call) : Answer call × Scripted :=
  let cluster := (cluster.record call).interrupt call
  match cluster.refuse? call with
  | some (refusal, cluster) => (.error (.cluster (.refused refusal)), cluster)
  | none =>
      let (answer, memory) := cluster.memory.answer call
      (answer, { cluster with memory })

/-- An identity that comes too late is not waited for, and the call is not made. -/
def answer (cluster : Scripted) : (call : Call) → Answer call × Scripted
  | .clusterIdentity =>
      if identityPatience < cluster.identityDelay then (.error .identityTimeout, cluster)
      else cluster.answerNow .clusterIdentity
  | call => cluster.answerNow call

end Scripted

end ShootKubeconfig.Cluster
