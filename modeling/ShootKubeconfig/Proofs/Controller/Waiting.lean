import ShootKubeconfig.Controller.Trigger
import ShootKubeconfig.Proofs.Cluster.Blocked
import ShootKubeconfig.Proofs.Quota

/-!
Whom a quota wakes.

The quotas let nobody pass for whom there is no ConfigMap in the cluster, whatever its labels are.
The watches only know the ConfigMaps that are labelled, and among the shoots for which they know
none are all that have none.
-/

namespace ShootKubeconfig

theorem Metadata.key_eq_of_reference_eq {first second : Metadata}
    (same : first.reference = second.reference) : first.key = second.key := by
  obtain ⟨name, inNamespace⟩ := ObjectKey.mk.inj same
  simp only [key, name, inNamespace]

namespace Watch

variable {α : Type} [Watched α]

/-- A cache holds some objects and no others, each under its reference. -/
def Cache.Mirrors (cache : Cache α) (objects : List α) : Prop :=
  ∀ reference object, cache.get? reference = some object ↔
    object ∈ objects ∧ (Watched.metadata object).reference = reference

/-- No two objects are referred to in the same way. -/
def Distinct (objects : List α) : Prop :=
  ∀ first ∈ objects, ∀ second ∈ objects,
    (Watched.metadata first).reference = (Watched.metadata second).reference → first = second

section Mirrors

variable {cache : Cache α} {objects : List α}

theorem Cache.mirrors_empty : Cache.Mirrors (.empty : Cache α) [] := by
  intro reference object
  simp

theorem Cache.Mirrors.put (mirrors : cache.Mirrors objects) {object : α}
    (distinct : Distinct (objects ++ [object])) :
    (cache.put object).Mirrors (objects ++ [object]) := by
  intro reference other
  rw [Cache.put, Table.get?_insert]
  split
  next same =>
      constructor
      · rintro ⟨⟩
        exact ⟨by simp, same.symm⟩
      · rintro ⟨member, referred⟩
        rw [distinct other member object (by simp) (referred.trans same)]
  next different =>
      rw [mirrors reference other]
      constructor
      · rintro ⟨member, referred⟩
        exact ⟨List.mem_append_left _ member, referred⟩
      · rintro ⟨member, referred⟩
        rcases List.mem_append.mp member with member | isObject
        · exact ⟨member, referred⟩
        · cases List.mem_singleton.mp isObject
          exact absurd referred.symm different

private theorem Reflector.mirrors_relisted {reflector : Reflector α}
    (mirrors : reflector.relisted.Mirrors objects) {further : List α}
    (distinct : Distinct (objects ++ further)) :
    ((further.map Event.initApply).foldl Reflector.follow reflector).relisted.Mirrors
      (objects ++ further) := by
  induction further generalizing reflector objects with
  | nil => simpa using mirrors
  | cons object rest ih =>
      rw [List.append_cons] at distinct ⊢
      have distinctFirst : Distinct (objects ++ [object]) := fun first member second member' =>
        distinct first (List.mem_append_left _ member) second (List.mem_append_left _ member')
      exact @ih (objects ++ [object]) (reflector.follow (.initApply object))
        (mirrors.put distinctFirst) distinct

/-- After a list of all objects they are mirrored, whatever was cached before. -/
theorem Reflector.mirrors_ofList (reflector : Reflector α) (distinct : Distinct objects) :
    ((Event.ofList objects).foldl Reflector.follow reflector).cache.Mirrors objects := by
  have mirrors := @Reflector.mirrors_relisted _ _ [] (reflector.follow .init)
    Cache.mirrors_empty _ (show Distinct ([] ++ objects) from distinct)
  rw [Event.ofList, List.foldl_append]
  exact mirrors

theorem Cache.Mirrors.mem_values_iff (mirrors : cache.Mirrors objects) {object : α} :
    object ∈ cache.values ↔ object ∈ objects := by
  rw [Table.mem_values_iff]
  constructor
  · rintro ⟨reference, cached⟩
    exact ((mirrors reference object).mp cached).1
  · intro member
    exact ⟨_, (mirrors _ object).mpr ⟨member, rfl⟩⟩

theorem Cache.Mirrors.nodup_references (mirrors : cache.Mirrors objects) :
    (cache.values.map fun object => (Watched.metadata object).reference).Nodup := by
  have sameKeys : (cache.values.map fun object => (Watched.metadata object).reference) =
      cache.keys := by
    rw [Table.values, Table.keys, List.map_map]
    refine List.map_congr_left fun entry member => ?_
    have cached : cache.get? entry.1 = some entry.2 :=
      (Table.lookup_eq_some_iff cache.ordered).mpr member
    exact ((mirrors _ _).mp cached).2
  rw [sameKeys]
  exact cache.nodup_keys

end Mirrors

/-- Objects that are kept under their keys are distinct. -/
theorem distinct_of_kept {table : Table Key α}
    (kept : ∀ key object, table.get? key = some object → (Watched.metadata object).key = key) :
    Distinct table.values := by
  intro first firstMember second secondMember same
  obtain ⟨firstKey, firstFound⟩ := Table.mem_values_iff.mp firstMember
  obtain ⟨secondKey, secondFound⟩ := Table.mem_values_iff.mp secondMember
  have sameKey : firstKey = secondKey := by
    rw [← kept _ _ firstFound, ← kept _ _ secondFound]
    exact Metadata.key_eq_of_reference_eq same
  subst sameKey
  exact Option.some.inj (firstFound.symm.trans secondFound)

end Watch

namespace Controller

open Cluster Memory Reconcile Watch

section Waiting

variable {quota : ResourceQuota} {shoots : Cache Shoot} {configMaps : Cache ConfigMap}
  {objects : List Shoot} {namespaceName : String} {memory : Memory}

private theorem hasKubeconfig_eq_false_iff {shoot : Shoot} :
    hasKubeconfig configMaps namespaceName shoot = false ↔
      configMaps.get? ⟨Artifact.nameFor shoot.metadata.anyName, some namespaceName⟩ = none := by
  simp [hasKubeconfig, Table.contains]

theorem mem_shootsWaitingForQuota_iff (mirrored : shoots.Mirrors objects)
    (inNamespace : quota.metadata.inNamespace? = some namespaceName) {reference : ObjectKey} :
    reference ∈ shootsWaitingForQuota quota shoots configMaps ↔
      ∃ shoot ∈ objects, shoot.metadata.reference = reference ∧
        shoot.metadata.inNamespace? = some namespaceName ∧
        configMaps.get? ⟨Artifact.nameFor shoot.metadata.anyName, some namespaceName⟩ = none := by
  simp only [shootsWaitingForQuota, inNamespace, List.mem_map, List.mem_filter,
    mirrored.mem_values_iff, Bool.and_eq_true, beq_iff_eq, Bool.not_eq_true',
    hasKubeconfig_eq_false_iff]
  constructor
  · rintro ⟨shoot, ⟨member, there, uncached⟩, referred⟩
    exact ⟨shoot, member, referred, there, uncached⟩
  · rintro ⟨shoot, member, referred, there, uncached⟩
    exact ⟨shoot, ⟨member, there, uncached⟩, referred⟩

theorem nodup_shootsWaitingForQuota (mirrored : shoots.Mirrors objects) :
    (shootsWaitingForQuota quota shoots configMaps).Nodup := by
  unfold shootsWaitingForQuota
  split
  · exact .nil
  · exact mirrored.nodup_references.sublist (List.filter_sublist.map _)

/-- Nothing is cached that is not there, labelled or not. -/
theorem uncached_of_absent (kept : memory.Kept)
    (mirrored : configMaps.Mirrors (memory.configMaps.values.filter Artifact.hasRole))
    {name : String} (absent : memory.configMaps.get? ⟨namespaceName, name⟩ = none) :
    configMaps.get? ⟨name, some namespaceName⟩ = none := by
  rw [Option.eq_none_iff_forall_ne_some]
  intro configMap cached
  obtain ⟨labelled, referred⟩ := (mirrored _ configMap).mp cached
  obtain ⟨key, found⟩ := Table.mem_values_iff.mp (List.mem_filter.mp labelled).1
  have here : configMap.metadata.key = ⟨namespaceName, name⟩ :=
    @Metadata.key_eq_of_reference_eq _
      { name := some name, inNamespace? := some namespaceName } referred
  rw [← kept.configMaps key configMap found, here, absent] at found
  cases found

end Waiting

/-- In a cluster that the watches mirror, a quota wakes every shoot of its namespace whose reconcile
would end with the quotas if nobody disturbed it. It wakes none of another namespace, none whose
kubeconfig is known to be there, and none twice. -/
theorem blocked_shoots_wait {memory : Memory} (kept : memory.Kept) {shoots : Cache Shoot}
    {configMaps : Cache ConfigMap} (shootsMirrored : shoots.Mirrors memory.shoots.values)
    (configMapsMirrored :
      configMaps.Mirrors (memory.configMaps.values.filter Artifact.hasRole))
    (quota : ResourceQuota) :
    (quota.metadata.inNamespace? = none → shootsWaitingForQuota quota shoots configMaps = []) ∧
    ∀ namespaceName, quota.metadata.inNamespace? = some namespaceName →
      (∀ shoot ∈ memory.shoots.values, shoot.metadata.inNamespace? = some namespaceName →
        ∀ admission limit,
          Blocked ((attempt admission limit shoot.metadata.key).run answer memory).1 →
            shoot.metadata.reference ∈ shootsWaitingForQuota quota shoots configMaps) ∧
      (∀ reference ∈ shootsWaitingForQuota quota shoots configMaps,
        ∃ shoot ∈ memory.shoots.values, shoot.metadata.reference = reference ∧
          shoot.metadata.inNamespace? = some namespaceName ∧
          configMaps.get? ⟨Artifact.nameFor shoot.metadata.anyName, some namespaceName⟩ =
            none) ∧
      (shootsWaitingForQuota quota shoots configMaps).Nodup := by
  constructor
  · intro clusterWide
    simp only [shootsWaitingForQuota, clusterWide]
  · intro namespaceName inNamespace
    refine ⟨?_, fun reference => (mem_shootsWaitingForQuota_iff shootsMirrored inNamespace).mp,
      nodup_shootsWaitingForQuota shootsMirrored⟩
    intro shoot member there admission limit blocked
    obtain ⟨_, _, crowded⟩ := blocked_attempt_iff.mp blocked
    have absent : memory.configMaps.get?
        ⟨namespaceName, Artifact.nameFor shoot.metadata.anyName⟩ = none := by
      simpa [Metadata.key, Key.artifact, there] using crowded.absent
    exact (mem_shootsWaitingForQuota_iff shootsMirrored inNamespace).mpr
      ⟨shoot, member, rfl, there, uncached_of_absent kept configMapsMirrored absent⟩

namespace Sample

def shootNamed (name namespaceName : String) : Shoot where
  metadata := { name := some name, inNamespace? := some namespaceName }
  kubernetesVersion := "1.27.3"

def published : ConfigMap where
  metadata := {
    name := some "bar.kubeconfig"
    inNamespace? := some "garden-dev"
    labels := some (.singleton Artifact.roleLabel Artifact.role) }

def exhausted : ResourceQuota :=
  Quota.Sample.limits "limits" "1" "1"

def fullGarden : Memory :=
  ((((({} : Memory).put (.shoot (shootNamed "foo" "garden-dev"))).put
    (.shoot (shootNamed "bar" "garden-dev"))).put (.shoot (shootNamed "foo" "garden-prod"))).put
    (.configMap published)).put (.resourceQuota exhausted)

private theorem kept_fullGarden : fullGarden.Kept :=
  ((((kept_empty.put _).put _).put _).put _).put _

def shoots : Cache Shoot :=
  ((Event.ofList fullGarden.shoots.values).foldl Reflector.follow {}).cache

def configMaps : Cache ConfigMap :=
  ((Event.ofList (fullGarden.configMaps.values.filter Artifact.hasRole)).foldl
    Reflector.follow {}).cache

private theorem mirrors_shoots : shoots.Mirrors fullGarden.shoots.values :=
  Reflector.mirrors_ofList {} (distinct_of_kept kept_fullGarden.shoots)

private theorem mirrors_configMaps :
    configMaps.Mirrors (fullGarden.configMaps.values.filter Artifact.hasRole) := by
  apply Reflector.mirrors_ofList
  intro first firstMember second secondMember
  exact distinct_of_kept kept_fullGarden.configMaps first (List.mem_filter.mp firstMember).1
    second (List.mem_filter.mp secondMember).1

private theorem run_fullGarden :
    ((attempt { limit := 1 } 4096 ⟨"garden-dev", "foo"⟩).run answer fullGarden).1 =
      .ok .quotaExceeded := by
  rfl

end Sample

theorem blocked_shoots_wait_sample :
    let waiting := shootsWaitingForQuota Sample.exhausted Sample.shoots Sample.configMaps
    Blocked ((attempt { limit := 1 } 4096 ⟨"garden-dev", "foo"⟩).run answer
        Sample.fullGarden).1 ∧
      ⟨"foo", some "garden-dev"⟩ ∈ waiting ∧ ⟨"foo", some "garden-prod"⟩ ∉ waiting ∧
      ⟨"bar", some "garden-dev"⟩ ∉ waiting := by
  obtain ⟨_, wakes⟩ := blocked_shoots_wait Sample.kept_fullGarden Sample.mirrors_shoots
    Sample.mirrors_configMaps Sample.exhausted
  obtain ⟨all, only, _⟩ := wakes "garden-dev" rfl
  have blocked : Blocked ((attempt { limit := 1 } 4096 ⟨"garden-dev", "foo"⟩).run answer
      Sample.fullGarden).1 := by
    rw [Sample.run_fullGarden]
    exact .exceeded
  refine ⟨blocked, ?_, ?_, ?_⟩
  · exact all (Sample.shootNamed "foo" "garden-dev")
      (Table.mem_values_iff.mpr ⟨⟨"garden-dev", "foo"⟩, rfl⟩) rfl { limit := 1 } 4096 blocked
  · intro listed
    obtain ⟨shoot, _, referred, there, _⟩ := only _ listed
    have elsewhere := there.symm.trans (congrArg ObjectKey.inNamespace? referred)
    exact absurd elsewhere (by decide)
  · intro listed
    obtain ⟨shoot, _, referred, _, unknown⟩ := only _ listed
    have named : shoot.metadata.anyName = "bar" := congrArg ObjectKey.name referred
    rw [named] at unknown
    cases unknown

end Controller

end ShootKubeconfig
