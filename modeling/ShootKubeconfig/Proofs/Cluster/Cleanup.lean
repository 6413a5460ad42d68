import ShootKubeconfig.Proofs.Cluster.EndState
import ShootKubeconfig.Proofs.Quota

/-!
What a reconcile removes from a cluster in memory, and what it leaves alone.

The kubeconfig goes with the shoot or with its state, whatever else the cluster holds. While both
are there to stay it is at most overwritten, and no other object is ever touched.
-/

namespace ShootKubeconfig.Cluster

open Reconcile

namespace Memory

/-- There is a shoot under a key, and it is not about to go. -/
def ShootStays (memory : Memory) (key : Key) : Prop :=
  ∃ shoot, memory.shoots.get? key = some shoot ∧ shoot.terminating = false

def StateStays (memory : Memory) (key : Key) : Prop :=
  ∃ state, memory.shootStates.get? key = some state ∧ state.terminating = false

/-- At most the ConfigMap under one key differs. -/
structure DiffersOnlyAt (before after : Memory) (key : Key) : Prop where
  shoots : after.shoots = before.shoots
  shootStates : after.shootStates = before.shootStates
  resourceQuotas : after.resourceQuotas = before.resourceQuotas
  identity : after.identity = before.identity
  configMaps : ∀ other, other ≠ key → after.configMaps.get? other = before.configMaps.get? other

section Frame

variable {memory : Memory} (limit : Nat) {key : Key} {object : ConfigMap}

variable (memory key) in
theorem differsOnlyAt_refl : memory.DiffersOnlyAt memory key :=
  ⟨rfl, rfl, rfl, rfl, fun _ _ => rfl⟩

variable (memory key) in
theorem differsOnlyAt_cleared : memory.DiffersOnlyAt (memory.cleared key) key.artifact where
  shoots := rfl
  shootStates := rfl
  resourceQuotas := rfl
  identity := rfl
  configMaps := by
    intro other different
    simp [cleared, different]

theorem differsOnlyAt_putConfigMap {put : ConfigMap} (putKey : put.metadata.key = key) :
    memory.DiffersOnlyAt (memory.putConfigMap put) key where
  shoots := rfl
  shootStates := rfl
  resourceQuotas := rfl
  identity := rfl
  configMaps := by
    intro other different
    rw [get?_putConfigMap, putKey, if_neg different]

/-- Nothing is written, or one ConfigMap under the key of the kubeconfig, over the one that is
there. -/
theorem written_effect (kept : memory.Kept) (asks : memory.Asks key object) :
    (memory.written limit key object).2 = memory ∨
      ∃ put, put.metadata.key = key.artifact ∧
        (memory.written limit key object).2 = memory.putConfigMap put ∧
        ∀ existing, memory.configMaps.get? key.artifact = some existing →
          ∃ owner, ∀ version, Artifact.Overwrites existing (put.withVersion version) owner := by
  cases found : memory.configMaps.get? key.artifact with
  | none =>
      rw [written_absent kept asks found]
      cases Artifact.ensureSize object limit with
      | error failure => exact .inl rfl
      | ok sized => exact .inr ⟨object, key_of_asks asks kept, rfl, by simp⟩
  | some existing =>
      rw [written_present kept found]
      cases merge : Artifact.merge existing object with
      | error failure => exact .inl rfl
      | ok outcome =>
          cases outcome with
          | none => exact .inl rfl
          | some merged =>
              dsimp only
              cases Artifact.ensureSize merged limit with
              | error failure => exact .inl rfl
              | ok sized =>
                  refine .inr ⟨merged, ?_, rfl, ?_⟩
                  · rw [Artifact.key_merge merge, kept.configMaps _ existing found]
                  · rintro _ ⟨⟩
                    obtain ⟨_, _, _, _, _, _, _, _, desired⟩ := asks
                    obtain ⟨owner, _, rfl⟩ := Artifact.merged_of_merge_desired desired merge
                    exact ⟨owner, Artifact.overwrites_merged existing object owner⟩

private theorem differsOnlyAt_written (kept : memory.Kept) (asks : memory.Asks key object) :
    memory.DiffersOnlyAt (memory.written limit key object).2 key.artifact := by
  rcases written_effect limit kept asks with same | ⟨put, putKey, same, _⟩
  · rw [same]
    exact differsOnlyAt_refl memory key.artifact
  · rw [same]
    exact differsOnlyAt_putConfigMap putKey

private theorem written_over {existing : ConfigMap} (kept : memory.Kept) (asks : memory.Asks key object)
    (present : memory.configMaps.get? key.artifact = some existing) :
    ∃ stored, (memory.written limit key object).2.configMaps.get? key.artifact = some stored ∧
      (stored = existing ∨ ∃ owner, Artifact.Overwrites existing stored owner) := by
  rcases written_effect limit kept asks with same | ⟨put, putKey, same, effect⟩
  · rw [same]
    exact ⟨existing, present, .inl rfl⟩
  · obtain ⟨owner, overwrites⟩ := effect existing present
    rw [same, get?_putConfigMap, if_pos putKey.symm]
    exact ⟨_, rfl, .inr ⟨owner, overwrites _⟩⟩

theorem differsOnlyAt_run_reconcile (kept : memory.Kept) :
    memory.DiffersOnlyAt ((reconcile limit key).run answer memory).2 key.artifact := by
  cases ran : (reconcile limit key).run answer memory with
  | mk result final =>
      cases reconciled_of_run ran with
      | idle _ => exact differsOnlyAt_refl memory key.artifact
      | cleared => exact differsOnlyAt_cleared memory key
      | published asks _ same =>
          have differs := differsOnlyAt_written limit kept asks
          rw [same] at differs
          exact differs

end Frame

section Gone

variable {memory : Memory} {limit : Nat} {key : Key}

theorem get?_cleared : (memory.cleared key).configMaps.get? key.artifact = none := by
  simp [cleared]

theorem run_reconcile_of_shootGone (gone : ¬memory.ShootStays key) :
    (reconcile limit key).run answer memory = (.ok .cleanup, memory.cleared key) := by
  rw [run_reconcile]
  cases found : memory.shoots.get? key with
  | none => rfl
  | some shoot =>
      have leaving : shoot.terminating = true :=
        Bool.of_not_eq_false fun stays => gone ⟨shoot, found, stays⟩
      exact if_pos leaving

private theorem run_reconcileState_of_stateGone {shoot : Shoot} {existing : Option ConfigMap}
    (gone : ¬memory.StateStays key) :
    (reconcileState limit key shoot existing).run answer memory =
      (.ok .cleanup, memory.cleared key) := by
  rw [run_reconcileState]
  cases found : memory.shootStates.get? key with
  | none => rfl
  | some state =>
      have leaving : state.terminating = true :=
        Bool.of_not_eq_false fun stays => gone ⟨state, found, stays⟩
      exact if_pos leaving

private theorem room_of_present {existing : ConfigMap}
    (present : memory.configMaps.get? key.artifact = some existing) :
    memory.room key = .ok true := by
  simp [room, present]

/-- Without its state a shoot loses its kubeconfig, and does not get one. -/
theorem run_reconcile_of_stateGone (stays : memory.ShootStays key)
    (gone : ¬memory.StateStays key) :
    (memory.configMaps.get? key.artifact ≠ none →
      ((reconcile limit key).run answer memory).1 = .ok .cleanup) ∧
      ((reconcile limit key).run answer memory).2.configMaps.get? key.artifact = none := by
  obtain ⟨shoot, found, shootStays⟩ := stays
  rw [run_reconcile_of_shootStays found shootStays, run_reconcileShoot]
  cases stored : memory.configMaps.get? key.artifact with
  | some existing =>
      rw [room_of_present stored]
      dsimp only
      rw [run_reconcileState_of_stateGone gone]
      exact ⟨fun _ => rfl, get?_cleared⟩
  | none =>
      refine ⟨fun present => absurd rfl present, ?_⟩
      cases memory.room key with
      | error failure => exact stored
      | ok room =>
          cases room with
          | false => exact stored
          | true =>
              dsimp only
              rw [run_reconcileState_of_stateGone gone]
              exact get?_cleared

/-- As long as a shoot and its state stay, what is there is kept as it is or overwritten. -/
theorem run_reconcile_of_bothStay (kept : memory.Kept) (shootStays : memory.ShootStays key)
    (stateStays : memory.StateStays key) {existing : ConfigMap}
    (present : memory.configMaps.get? key.artifact = some existing) :
    ∃ stored,
      ((reconcile limit key).run answer memory).2.configMaps.get? key.artifact = some stored ∧
        (stored = existing ∨ ∃ owner, Artifact.Overwrites existing stored owner) := by
  obtain ⟨shoot, shootFound, shootStays⟩ := shootStays
  obtain ⟨state, stateFound, stateStays⟩ := stateStays
  rw [run_reconcile_of_room shootFound shootStays (room_of_present present) stateFound stateStays]
  rcases run_publish_cases (memory.configMaps.get? key.artifact) with
    ⟨result, same, _⟩ | ⟨text, object, wanted, desired⟩
  · rw [same]
    exact ⟨existing, present, .inl rfl⟩
  · rw [run_publish_of_wanted wanted desired]
    exact written_over limit kept
      ⟨shoot, state, text, shootFound, shootStays, stateFound, stateStays, wanted, desired⟩ present

end Gone

/-- The kubeconfig of a shoot is removed once the shoot or its state is gone or about to go,
whatever else there is, and not before. No other object is added, removed or changed. -/
theorem cleanup_complete (admission : Admission) (limit : Nat) (key : Key)
    (admitted : (admission.enter? key.namespaceName).isSome = true) {memory : Memory}
    (kept : memory.Kept) :
    let ran := (attempt admission limit key).run answer memory
    (¬memory.ShootStays key →
        ran.1 = .ok .cleanup ∧ ran.2.configMaps.get? key.artifact = none) ∧
      (memory.ShootStays key → ¬memory.StateStays key →
        (memory.configMaps.get? key.artifact ≠ none → ran.1 = .ok .cleanup) ∧
          ran.2.configMaps.get? key.artifact = none) ∧
      (memory.ShootStays key → memory.StateStays key →
        ∀ existing, memory.configMaps.get? key.artifact = some existing →
          ∃ stored, ran.2.configMaps.get? key.artifact = some stored ∧
            (stored = existing ∨ ∃ owner, Artifact.Overwrites existing stored owner)) ∧
      memory.DiffersOnlyAt ran.2 key.artifact := by
  intro ran
  have reconciled : ran = (reconcile limit key).run answer memory :=
    (run_attempt admission).trans (if_pos admitted)
  rw [reconciled]
  refine ⟨?_, run_reconcile_of_stateGone, ?_, differsOnlyAt_run_reconcile limit kept⟩
  · intro gone
    rw [run_reconcile_of_shootGone gone]
    exact ⟨rfl, get?_cleared⟩
  · intro shootStays stateStays existing present
    exact run_reconcile_of_bothStay kept shootStays stateStays present

namespace Sample

def leftover : ConfigMap where
  metadata := { name := some "foo.kubeconfig", inNamespace? := some "garden-dev" }

/-- Not even the amounts of the quota make sense. -/
def deserted : Memory :=
  (({} : Memory).put (.configMap leftover)).put
    (.resourceQuota (Quota.Sample.limits "limits" "many" "more"))

private theorem kept_deserted : deserted.Kept :=
  (kept_empty.put (.configMap leftover)).put _

def inhabited : Memory :=
  garden.put (.configMap leftover)

private theorem kept_inhabited : inhabited.Kept :=
  kept_garden.put (.configMap leftover)

def abandoned : Memory :=
  inhabited.put (.shootState leavingState)

private theorem kept_abandoned : abandoned.Kept :=
  kept_inhabited.put (.shootState leavingState)

end Sample

/-- Without a shoot, with a state that is about to go, and with both there to stay. -/
theorem cleanup_complete_sample :
    (Sample.deserted.configMaps.get? Sample.key.artifact = some (Sample.leftover.withVersion "1") ∧
      ((attempt { limit := 1 } 0 Sample.key).run answer Sample.deserted).1 = .ok .cleanup ∧
      ((attempt { limit := 1 } 0 Sample.key).run answer
        Sample.deserted).2.configMaps.get? Sample.key.artifact = none) ∧
    (((attempt { limit := 1 } 0 Sample.key).run answer Sample.abandoned).1 = .ok .cleanup ∧
      ((attempt { limit := 1 } 0 Sample.key).run answer
        Sample.abandoned).2.configMaps.get? Sample.key.artifact = none) ∧
    ∃ stored,
      ((attempt { limit := 1 } 102400 Sample.key).run answer
        Sample.inhabited).2.configMaps.get? Sample.key.artifact = some stored ∧
      (stored = Sample.leftover.withVersion "1" ∨
        ∃ owner, Artifact.Overwrites (Sample.leftover.withVersion "1") stored owner) := by
  obtain ⟨shootless, _, _, _⟩ :=
    cleanup_complete { limit := 1 } 0 Sample.key rfl Sample.kept_deserted
  obtain ⟨_, stateless, _, _⟩ :=
    cleanup_complete { limit := 1 } 0 Sample.key rfl Sample.kept_abandoned
  obtain ⟨_, _, lasting, _⟩ :=
    cleanup_complete { limit := 1 } 102400 Sample.key rfl Sample.kept_inhabited
  refine ⟨⟨rfl, shootless ?_⟩, ?_, lasting ?_ ?_ _ rfl⟩
  · rintro ⟨shoot, found, _⟩
    cases found
  · obtain ⟨removed, absent⟩ := stateless ⟨Sample.shoot, rfl, rfl⟩ (by
      rintro ⟨state, found, stays⟩
      cases found
      cases stays)
    exact ⟨removed (Option.some_ne_none (Sample.leftover.withVersion "1")), absent⟩
  · exact ⟨Sample.shoot, rfl, rfl⟩
  · exact ⟨Sample.state, rfl, rfl⟩

end Memory

end ShootKubeconfig.Cluster
