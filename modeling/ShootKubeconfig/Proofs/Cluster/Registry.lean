import ShootKubeconfig.Proofs.Cluster.Undisturbed
import ShootKubeconfig.Proofs.Reconcile.Backing

/-!
The ConfigMaps of a cluster that gives each change a resource version of its own.

A ConfigMap that has ever been stored is recalled by its version: whatever is stored under that
version later on is the same ConfigMap. This is what makes a conditional replacement safe.
-/

namespace ShootKubeconfig.Cluster

open Reconcile

/-- The ConfigMaps of a cluster, with all the resource versions that have ever been given out. -/
structure Registry where
  configMaps : Table Key ConfigMap
  issued : String → Prop

namespace Registry

def put (registry : Registry) (object : ConfigMap) (version : String) : Registry where
  configMaps := registry.configMaps.insert object.metadata.key (object.withVersion version)
  issued other := other = version ∨ registry.issued other

def remove (registry : Registry) (key : Key) : Registry :=
  { registry with configMaps := registry.configMaps.erase key }

inductive Puts (registry : Registry) (object : ConfigMap) : Registry → Prop
  | intro {version : String} (fresh : ¬registry.issued version) :
      Puts registry object (registry.put object version)

/-- A call comes too late that would create what is there, or replace what is not there or has
another resource version. -/
def Loses (registry : Registry) : Call → Prop
  | .create object => registry.configMaps.get? object.metadata.key ≠ none
  | .replace object =>
      ∀ existing, registry.configMaps.get? object.metadata.key = some existing →
        existing.metadata.resourceVersion ≠ object.metadata.resourceVersion
  | _ => False

/-- How a cluster may answer a call, and what becomes of its ConfigMaps. Of all other objects it
may tell anything, and any call may fail. -/
inductive Answers (registry : Registry) : (call : Call) → Answer call → Registry → Prop
  | read (key : Key) :
      Answers registry (.configMap key) (.ok (registry.configMaps.get? key)) registry
  | told {call : Call} (reads : call.isWrite = false) (other : ∀ key, call ≠ .configMap key)
      (answer : Answer call) (filed : Exchange.Filed ⟨call, answer⟩) :
      Answers registry call answer registry
  | failed {call : Call} (inTime : ¬registry.Loses call) (failure : Failure) :
      Answers registry call (.error failure) registry
  | refused {call : Call} (late : registry.Loses call) {refusal : Refusal}
      (code : refusal.code = 404 ∨ refusal.code = 409) :
      Answers registry call (.error (.cluster (.refused refusal))) registry
  | created {object : ConfigMap} {after : Registry}
      (inTime : ¬registry.Loses (.create object)) (puts : registry.Puts object after) :
      Answers registry (.create object) (.ok ()) after
  | replaced {object : ConfigMap} {after : Registry}
      (inTime : ¬registry.Loses (.replace object)) (puts : registry.Puts object after) :
      Answers registry (.replace object) (.ok ()) after
  | deleted (key : Key) (existed : Bool) :
      Answers registry (.delete key) (.ok existed) (registry.remove key)

/-- A ConfigMap has been stored under a key, and is all that may be stored under its version. -/
structure Recalls (registry : Registry) (key : Key) (configMap : ConfigMap) : Prop where
  key : configMap.metadata.key = key
  issued : ∃ version, configMap.metadata.resourceVersion = some version ∧ registry.issued version
  unique : ∀ other stored, registry.configMaps.get? other = some stored →
    stored.metadata.resourceVersion = configMap.metadata.resourceVersion → stored = configMap

def Sound (registry : Registry) : Prop :=
  ∀ key stored, registry.configMaps.get? key = some stored → registry.Recalls key stored

section Sound

variable {registry after : Registry} {key : Key} {configMap object : ConfigMap}

theorem get?_put (registry : Registry) (object : ConfigMap) (version : String) (key : Key) :
    (registry.put object version).configMaps.get? key =
      if key = object.metadata.key then some (object.withVersion version)
      else registry.configMaps.get? key :=
  Table.get?_insert _ _ _ _

theorem Recalls.put (recalls : registry.Recalls key configMap) {version : String}
    (fresh : ¬registry.issued version) : (registry.put object version).Recalls key configMap where
  key := recalls.key
  issued := by
    obtain ⟨own, hasOwn, issued⟩ := recalls.issued
    exact ⟨own, hasOwn, .inr issued⟩
  unique := by
    intro other stored found sameVersion
    rw [get?_put] at found
    split at found
    · -- the new version would have been given out before
      cases found
      obtain ⟨own, hasOwn, issued⟩ := recalls.issued
      have isFresh : version = own := Option.some.inj (sameVersion.trans hasOwn)
      rw [← isFresh] at issued
      exact absurd issued fresh
    · exact recalls.unique other stored found sameVersion

theorem Recalls.remove (recalls : registry.Recalls key configMap) (removed : Key) :
    (registry.remove removed).Recalls key configMap where
  key := recalls.key
  issued := recalls.issued
  unique := by
    intro other stored found sameVersion
    exact recalls.unique other stored (Table.get?_of_get?_erase found) sameVersion

theorem Sound.put (sound : registry.Sound) {version : String} (fresh : ¬registry.issued version) :
    (registry.put object version).Sound := by
  intro key stored found
  rw [get?_put] at found
  split at found
  next same =>
      cases found
      refine ⟨same.symm, ⟨version, rfl, .inl rfl⟩, ?_⟩
      intro other otherStored otherFound sameVersion
      rw [get?_put] at otherFound
      split at otherFound
      · exact (Option.some.inj otherFound).symm
      · obtain ⟨own, hasOwn, issued⟩ := (sound other otherStored otherFound).issued
        have isFresh : own = version := Option.some.inj (hasOwn.symm.trans sameVersion)
        rw [isFresh] at issued
        exact absurd issued fresh
  next => exact (sound key stored found).put fresh

theorem Sound.remove (sound : registry.Sound) (removed : Key) :
    (registry.remove removed).Sound := by
  intro key stored found
  exact (sound key stored (Table.get?_of_get?_erase found)).remove removed

theorem Sound.puts (sound : registry.Sound) (puts : registry.Puts object after) : after.Sound := by
  cases puts with
  | intro fresh => exact sound.put fresh

theorem Recalls.puts (recalls : registry.Recalls key configMap)
    (puts : registry.Puts object after) : after.Recalls key configMap := by
  cases puts with
  | intro fresh => exact recalls.put fresh

theorem Sound.answers (sound : registry.Sound) {call : Call} {answer : Answer call}
    (answers : registry.Answers call answer after) : after.Sound := by
  cases answers with
  | created _ puts => exact sound.puts puts
  | replaced _ puts => exact sound.puts puts
  | deleted key _ => exact sound.remove key
  | _ => exact sound

theorem Recalls.answers (recalls : registry.Recalls key configMap) {call : Call}
    {answer : Answer call} (answers : registry.Answers call answer after) :
    after.Recalls key configMap := by
  cases answers with
  | created _ puts => exact recalls.puts puts
  | replaced _ puts => exact recalls.puts puts
  | deleted key _ => exact recalls.remove key
  | _ => exact recalls

theorem Sound.filed (sound : registry.Sound) {call : Call} {answer : Answer call}
    (answers : registry.Answers call answer after) : Exchange.Filed ⟨call, answer⟩ := by
  cases answers with
  | read key =>
      cases found : registry.configMaps.get? key with
      | none => trivial
      | some stored => exact (sound key stored found).key
  | told _ _ _ filed => exact filed
  | failed _ failure => cases call <;> trivial
  | refused _ _ => cases call <;> trivial
  | _ => trivial

theorem Sound.recalls_read (sound : registry.Sound) {call : Call} {answer : Answer call}
    (answers : registry.Answers call answer after)
    (read : (⟨call, answer⟩ : Exchange) = ⟨.configMap key, .ok (some configMap)⟩) :
    after.Recalls key configMap := by
  cases answers with
  | read asked =>
      obtain ⟨sameKey, sameAnswer⟩ := Exchange.mk.inj read
      cases sameKey
      exact sound key configMap (Except.ok.inj (eq_of_heq sameAnswer))
  | told _ other _ _ => exact absurd (congrArg Exchange.call read) (other key)
  | _ => cases read

theorem Loses.isWrite {call : Call} (late : registry.Loses call) : call.isWrite = true := by
  cases call with
  | create object => rfl
  | replace object => rfl
  | _ => cases late

theorem answers_of_loses {call : Call} {answer : Answer call} (late : registry.Loses call)
    (answers : registry.Answers call answer after) :
    after = registry ∧ ∃ failure, answer = .error failure ∧ failure.failureClass = .transient := by
  cases answers with
  | refused _ code =>
      refine ⟨rfl, _, rfl, ?_⟩
      rcases code with notFound | conflict
      · simp [Failure.failureClass, notFound]
      · simp [Failure.failureClass, conflict]
  | told reads _ _ _ =>
      rw [late.isWrite] at reads
      cases reads
  | failed inTime _ => exact absurd late inTime
  | created inTime _ => exact absurd late inTime
  | replaced inTime _ => exact absurd late inTime
  | read _ => cases late
  | deleted _ _ => cases late

theorem puts_of_isOk {call : Call} (writes : call = .create object ∨ call = .replace object)
    {answer : Answer call} (answers : registry.Answers call answer after)
    (succeeded : answer.isOk = true) : ¬registry.Loses call ∧ registry.Puts object after := by
  cases answers with
  | created inTime puts =>
      obtain same | other := writes
      · cases same
        exact ⟨inTime, puts⟩
      · cases other
  | replaced inTime puts =>
      obtain other | same := writes
      · cases other
      · cases same
        exact ⟨inTime, puts⟩
  | told reads _ _ _ => rcases writes with rfl | rfl <;> cases reads
  | failed _ _ => cases succeeded
  | refused _ _ => cases succeeded
  | read _ => rcases writes with other | other <;> cases other
  | deleted _ _ => rcases writes with other | other <;> cases other

theorem Recalls.loses_replace_iff (recalls : registry.Recalls key configMap)
    (sameKey : object.metadata.key = key)
    (sameVersion : object.metadata.resourceVersion = configMap.metadata.resourceVersion) :
    registry.Loses (.replace object) ↔ registry.configMaps.get? key ≠ some configMap := by
  subst sameKey
  constructor
  · intro late found
    exact late configMap found sameVersion.symm
  · intro changed stored found stillSame
    have same : stored = configMap := recalls.unique _ stored found (stillSame.trans sameVersion)
    exact changed (same ▸ found)

end Sound

end Registry

namespace Memory

private theorem toString_injective {first second : Nat} (same : toString first = toString second) :
    first = second := by
  have digits : Nat.toDigits 10 first = Nat.toDigits 10 second := by
    simpa using congrArg String.toList same
  simpa using congrArg (Nat.ofDigitChars 10 · 0) digits

def registry (memory : Memory) : Registry where
  configMaps := memory.configMaps
  issued version := ∃ number ≤ memory.version, version = toString number

variable {memory : Memory}

theorem registry_puts (memory : Memory) (object : ConfigMap) :
    memory.registry.Puts object (memory.putConfigMap object).registry := by
  have fresh : ¬memory.registry.issued (toString (memory.version + 1)) := by
    rintro ⟨number, atMost, same⟩
    have next := toString_injective same
    omega
  have sameIssued : (memory.putConfigMap object).registry.issued =
      (memory.registry.put object (toString (memory.version + 1))).issued := by
    funext version
    apply propext
    constructor
    · rintro ⟨number, atMost, rfl⟩
      by_cases last : number = memory.version + 1
      · exact .inl (by rw [last])
      · have earlier : number ≤ memory.version := by
          have atMostNext : number ≤ memory.version + 1 := atMost
          omega
        exact .inr ⟨number, earlier, rfl⟩
    · rintro (rfl | ⟨number, atMost, rfl⟩)
      · exact ⟨memory.version + 1, Nat.le_refl _, rfl⟩
      · exact ⟨number, Nat.le_succ_of_le atMost, rfl⟩
  have same : (memory.putConfigMap object).registry =
      memory.registry.put object (toString (memory.version + 1)) := by
    unfold registry Registry.put
    exact congrArg _ sameIssued
  rw [same]
  exact .intro fresh

/-- A cluster in memory is one that gives each change a version of its own. -/
theorem registry_answers (kept : memory.Kept) (call : Call) :
    memory.registry.Answers call (memory.answer call).1 (memory.answer call).2.registry := by
  cases call with
  | configMap key => exact .read key
  | create object =>
      cases found : memory.configMaps.get? object.metadata.key with
      | none =>
          simp only [answer, create_of_get?_none found]
          exact .created (by simp [Registry.Loses, registry, found]) (registry_puts memory object)
      | some existing =>
          simp only [answer, create, Table.contains, found]
          exact .refused (by simp [Registry.Loses, registry, found]) (.inr rfl)
  | replace object =>
      cases found : memory.configMaps.get? object.metadata.key with
      | none =>
          simp only [answer, replace, found]
          exact .refused (by simp [Registry.Loses, registry, found]) (.inr rfl)
      | some existing =>
          by_cases same : existing.metadata.resourceVersion = object.metadata.resourceVersion
          · simp only [answer, replace_of_get?_some found same.symm]
            exact .replaced (by simp [Registry.Loses, registry, found, same])
              (registry_puts memory object)
          · simp only [answer, replace, found, same]
            exact .refused (by simp [Registry.Loses, registry, found, same]) (.inr rfl)
  | delete key => exact .deleted key _
  | shoot key =>
      refine .told rfl (by simp) _ ?_
      cases found : memory.shoots.get? key with
      | none => simp [answer, found, Exchange.Filed]
      | some shoot => simpa [answer, found, Exchange.Filed] using kept.shoots key shoot found
  | _ => exact .told rfl (by simp) _ trivial

end Memory

end ShootKubeconfig.Cluster
