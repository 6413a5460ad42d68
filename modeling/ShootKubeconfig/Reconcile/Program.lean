import ShootKubeconfig.Failure
import ShootKubeconfig.Key
import ShootKubeconfig.Resource.ResourceQuota
import ShootKubeconfig.Text.Blank

/-!
What a reconcile asks of the cluster, and how it goes on with the answers.

A program fixes every question beforehand but no answer, so that it can be run against a cluster
that others change, that refuses, or that answers late.
-/

namespace ShootKubeconfig.Reconcile

inductive Call where
  | shoot (key : Key)
  | shootState (key : Key)
  | configMap (key : Key)
  | resourceQuotas (namespaceName : String)
  | clusterIdentity
  | create (configMap : ConfigMap)
  | replace (configMap : ConfigMap)
  | delete (key : Key)

namespace Call

/-- The answer to a question that does not fail. A deletion tells whether there was anything to
delete. -/
abbrev Reply : Call → Type
  | .shoot _ => Option Shoot
  | .shootState _ => Option ShootState
  | .configMap _ => Option ConfigMap
  | .resourceQuotas _ => List ResourceQuota
  | .clusterIdentity => Option ConfigMap
  | .create _ => Unit
  | .replace _ => Unit
  | .delete _ => Bool

def isWrite : Call → Bool
  | .create _ | .replace _ | .delete _ => true
  | _ => false

def name : Call → String
  | .shoot _ => "shoot"
  | .shootState _ => "shoot_state"
  | .configMap _ => "config_map"
  | .resourceQuotas _ => "resource_quotas"
  | .clusterIdentity => "cluster_identity"
  | .create _ => "create"
  | .replace _ => "replace"
  | .delete _ => "delete"

def subject : Call → String
  | .shoot key | .shootState key | .configMap key | .delete key => key.path
  | .resourceQuotas namespaceName => namespaceName
  | .clusterIdentity => ""
  | .create object | .replace object => object.metadata.key.path

def description (call : Call) : String :=
  .ofList (Text.trimBlankEnd (call.name ++ " " ++ call.subject).toList)

end Call

abbrev Answer (call : Call) : Type :=
  Except Failure call.Reply

/-- A failed question ends the program with its failure. -/
inductive Program (α : Type) where
  | done (result : α)
  | fail (failure : Failure)
  | ask (call : Call) (next : call.Reply → Program α)

namespace Program

def bind : Program α → (α → Program β) → Program β
  | .done result, f => f result
  | .fail failure, _ => .fail failure
  | .ask call next, f => .ask call fun reply => (next reply).bind f

instance : Monad Program where
  pure := .done
  bind := bind

def ofExcept : Except Failure α → Program α
  | .ok result => .done result
  | .error failure => .fail failure

@[simp] theorem pure_eq (result : α) : (pure result : Program α) = .done result := rfl

@[simp] theorem bind_eq (program : Program α) (f : α → Program β) :
    program >>= f = program.bind f := rfl

@[simp] theorem done_bind (result : α) (f : α → Program β) :
    (Program.done result).bind f = f result := rfl

@[simp] theorem fail_bind (failure : Failure) (f : α → Program β) :
    (Program.fail failure).bind f = .fail failure := rfl

@[simp] theorem ask_bind (call : Call) (next : call.Reply → Program α) (f : α → Program β) :
    (Program.ask call next).bind f = .ask call fun reply => (next reply).bind f := rfl

def resume {call : Call} (next : call.Reply → Program α) : Answer call → Program α
  | .ok reply => next reply
  | .error failure => .fail failure

/-- Runs a program to its end, where each answer may change the state of what answers. -/
def run (answer : σ → (call : Call) → Answer call × σ) : Program α → σ → Except Failure α × σ
  | .done result, state => (.ok result, state)
  | .fail failure, state => (.error failure, state)
  | .ask call next, state =>
      match answer state call with
      | (.ok reply, state) => run answer (next reply) state
      | (.error failure, state) => (.error failure, state)

end Program

end ShootKubeconfig.Reconcile
