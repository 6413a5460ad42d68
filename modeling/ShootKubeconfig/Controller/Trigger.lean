import ShootKubeconfig.Quota
import ShootKubeconfig.Watch.Sighting

namespace ShootKubeconfig

namespace Watch

abbrev Cache (α : Type) : Type := Table ObjectKey α

def Cache.put [Watched α] (cache : Cache α) (object : α) : Cache α :=
  cache.insert (Watched.metadata object).reference object

/-- A cache that follows a watch. What a relist names takes the place of the cache when it is
done. -/
structure Reflector (α : Type) where
  cache : Cache α := .empty
  relisted : Cache α := .empty

def Reflector.follow [Watched α] (reflector : Reflector α) : Event α → Reflector α
  | .apply object => { reflector with cache := reflector.cache.put object }
  | .delete object =>
      { reflector with cache := reflector.cache.erase (Watched.metadata object).reference }
  | .init => { reflector with relisted := .empty }
  | .initApply object => { reflector with relisted := reflector.relisted.put object }
  | .initDone => { cache := reflector.relisted }

end Watch

namespace Controller

open Watch

def isShoot (owner : OwnerReference) : Bool :=
  owner.apiVersion == Shoot.apiVersion && owner.kind == Shoot.kind

def owningShoots (metadata : Metadata) : List ObjectKey :=
  (metadata.owners.filter isShoot).map fun owner => ⟨owner.name, metadata.inNamespace?⟩

/-- A shoot shares its key with its state. -/
def shootOfState (state : ShootState) : List ObjectKey :=
  if state.metadata.inNamespace?.isSome then [state.metadata.reference] else []

def hasKubeconfig (configMaps : Cache ConfigMap) (namespaceName : String) (shoot : Shoot) :
    Bool :=
  configMaps.contains ⟨Artifact.nameFor shoot.metadata.anyName, some namespaceName⟩

/-- The shoots in the namespace of a quota whose kubeconfigs are not known to exist. -/
def shootsWaitingForQuota (quota : ResourceQuota) (shoots : Cache Shoot)
    (configMaps : Cache ConfigMap) : List ObjectKey :=
  match quota.metadata.inNamespace? with
  | none => []
  | some namespaceName =>
      (shoots.values.filter fun shoot =>
        shoot.metadata.inNamespace? == some namespaceName &&
          !hasKubeconfig configMaps namespaceName shoot).map (·.metadata.reference)

structure Watches where
  shootFilter : RelevanceFilter Shoot := {}
  shoots : Reflector Shoot := {}
  configMapFilter : RelevanceFilter ConfigMap := {}
  configMaps : Reflector ConfigMap := {}
  stateFilter : RelevanceFilter ShootState := {}
  quotaFilter : RelevanceFilter ResourceQuota := {}

def touched? (passes : Bool) : Event α → Option α
  | .apply object | .initApply object | .delete object => if passes then some object else none
  | .init | .initDone => none

namespace Watches

/-- The watches after an event, and the shoots that are reconciled because of it. -/
def see? (watches : Watches) : Sighting → Option (Watches × List ObjectKey)
  | .shoot event => do
      let (shootFilter, passes) ← watches.shootFilter.register? event
      let watches := { watches with shootFilter, shoots := watches.shoots.follow event }
      return (watches, (touched? passes event).toList.map (·.metadata.reference))
  | .configMap event => do
      let (configMapFilter, passes) ← watches.configMapFilter.register? event
      let watches :=
        { watches with configMapFilter, configMaps := watches.configMaps.follow event }
      return (watches, (touched? passes event).toList.flatMap (owningShoots ·.metadata))
  | .shootState event => do
      let (stateFilter, passes) ← watches.stateFilter.register? event
      return ({ watches with stateFilter }, (touched? passes event).toList.flatMap shootOfState)
  | .resourceQuota event => do
      let (quotaFilter, passes) ← watches.quotaFilter.register? event
      let watches := { watches with quotaFilter }
      return (watches, (touched? passes event).toList.flatMap fun quota =>
        shootsWaitingForQuota quota watches.shoots.cache watches.configMaps.cache)

end Watches

end Controller

end ShootKubeconfig
