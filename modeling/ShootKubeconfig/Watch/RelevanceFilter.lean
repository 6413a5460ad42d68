import ShootKubeconfig.ObjectKey
import ShootKubeconfig.Watch.Relevance

/-!
Watch events with the irrelevant updates left out.

An update is judged against the last version of its object that was seen. Objects that a relist
does not name again are forgotten when it is done.
-/

namespace ShootKubeconfig

class Watched (α : Type) where
  metadata : α → Metadata
  updateMatters : α → α → Bool

instance : Watched Shoot := ⟨Shoot.metadata, Shoot.updateMatters⟩

instance : Watched ShootState := ⟨ShootState.metadata, ShootState.updateMatters⟩

instance : Watched ConfigMap := ⟨ConfigMap.metadata, ConfigMap.updateMatters⟩

instance : Watched ResourceQuota := ⟨ResourceQuota.metadata, ResourceQuota.updateMatters⟩

namespace Watch

inductive Event (α : Type) where
  | apply (object : α)
  | initApply (object : α)
  | delete (object : α)
  | init
  | initDone
  deriving DecidableEq

/-- While a relist is going on, `relisted` holds what it has named so far. -/
structure RelevanceFilter (α : Type) where
  /-- The last version of each object that was seen. -/
  lastSeen : Table ObjectKey α := .empty
  relisted : Option (List ObjectKey) := none

namespace RelevanceFilter

variable {α : Type} [Watched α]

def record (filter : RelevanceFilter α) (key : ObjectKey) (object : α) : RelevanceFilter α where
  lastSeen := filter.lastSeen.insert key object
  relisted := filter.relisted.map (key :: ·)

/-- A new object passes, and a known one whose update matters. -/
def passes (filter : RelevanceFilter α) (key : ObjectKey) (object : α) : Bool :=
  match filter.lastSeen.get? key with
  | some old => Watched.updateMatters old object
  | none => true

def finishRelist (filter : RelevanceFilter α) : RelevanceFilter α :=
  match filter.relisted with
  | some keys => { lastSeen := filter.lastSeen.restrict (· ∈ keys), relisted := none }
  | none => filter

/-- The filter after an event, and whether the event passes. An object without a name can not be
told apart from others. -/
def register? (filter : RelevanceFilter α) : Event α → Option (RelevanceFilter α × Bool)
  | .apply object | .initApply object => do
      let key ← (Watched.metadata object).objectKey?
      return (filter.record key object, filter.passes key object)
  | .delete object => do
      let key ← (Watched.metadata object).objectKey?
      return ({ filter with lastSeen := filter.lastSeen.erase key }, true)
  | .init => some ({ filter with relisted := some [] }, true)
  | .initDone => some (filter.finishRelist, true)

/-- What becomes of each item of a stream. Errors among them pass. -/
def run? (filter : RelevanceFilter α) : List (Except ε (Event α)) →
    Option (List (Option (Except ε (Event α))))
  | [] => some []
  | .error failure :: rest => do
      return some (.error failure) :: (← filter.run? rest)
  | .ok event :: rest => do
      let (filter, passed) ← filter.register? event
      return (if passed then some (.ok event) else none) :: (← filter.run? rest)

end RelevanceFilter

end Watch

end ShootKubeconfig
