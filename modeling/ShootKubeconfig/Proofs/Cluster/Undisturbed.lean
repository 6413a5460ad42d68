import ShootKubeconfig.Cluster.Change
import ShootKubeconfig.Proofs.Artifact.Merge
import ShootKubeconfig.Proofs.Reconcile.Course
import ShootKubeconfig.Proofs.Reconcile.Wanted

/-!
Reconciles of a cluster in memory in which no call fails and nobody else changes anything.

Such a reconcile does one of three things: nothing, a removal, or the write of the ConfigMap that
the objects in the cluster ask for.
-/

namespace ShootKubeconfig.Cluster

open Reconcile

namespace Memory

/-- Shoots and ConfigMaps are kept under their own keys. -/
structure Kept (memory : Memory) : Prop where
  shoots : ∀ key shoot, memory.shoots.get? key = some shoot → shoot.metadata.key = key
  configMaps : ∀ key configMap, memory.configMaps.get? key = some configMap →
    configMap.metadata.key = key

section Kept

variable {memory : Memory}

theorem kept_empty : Kept {} where
  shoots := by simp
  configMaps := by simp

theorem get?_putConfigMap (memory : Memory) (configMap : ConfigMap) (key : Key) :
    (memory.putConfigMap configMap).configMaps.get? key =
      if key = configMap.metadata.key then
        some (configMap.withVersion (toString (memory.version + 1)))
      else memory.configMaps.get? key :=
  Table.get?_insert _ _ _ _

theorem Kept.putConfigMap (kept : memory.Kept) (configMap : ConfigMap) :
    (memory.putConfigMap configMap).Kept where
  shoots := kept.shoots
  configMaps := by
    intro key stored found
    rw [get?_putConfigMap] at found
    split at found
    next same =>
        cases found
        exact same.symm
    next => exact kept.configMaps key stored found

theorem Kept.put (kept : memory.Kept) (object : Stored) : (memory.put object).Kept := by
  cases object with
  | configMap object => exact kept.putConfigMap object
  | shoot object =>
      refine ⟨?_, kept.configMaps⟩
      intro key shoot found
      rw [Memory.put, Table.get?_insert] at found
      split at found
      next same =>
          cases found
          exact same.symm
      next => exact kept.shoots key shoot found
  | shootState object => exact ⟨kept.shoots, kept.configMaps⟩
  | resourceQuota object => exact ⟨kept.shoots, kept.configMaps⟩
  | identity object => exact ⟨kept.shoots, kept.configMaps⟩

theorem Kept.remove (kept : memory.Kept) (key : Key) (kind : Kind) :
    (memory.remove key kind).Kept := by
  cases kind with
  | shoot =>
      exact ⟨fun _ _ found => kept.shoots _ _ (Table.get?_of_get?_erase found), kept.configMaps⟩
  | configMap =>
      exact ⟨kept.shoots, fun _ _ found => kept.configMaps _ _ (Table.get?_of_get?_erase found)⟩
  | shootState => exact ⟨kept.shoots, kept.configMaps⟩
  | resourceQuota => exact ⟨kept.shoots, kept.configMaps⟩
  | identity => exact ⟨kept.shoots, kept.configMaps⟩

theorem Kept.answer (kept : memory.Kept) (call : Call) : (memory.answer call).2.Kept := by
  cases call with
  | create object =>
      simp only [Memory.answer, create]
      split
      · exact kept
      · exact kept.putConfigMap object
  | replace object =>
      simp only [Memory.answer, replace]
      split
      · exact kept
      · split
        · exact kept.putConfigMap object
        · exact kept
  | delete key => exact kept.remove key .configMap
  | _ => exact kept

theorem create_of_get?_none {object : ConfigMap}
    (absent : memory.configMaps.get? object.metadata.key = none) :
    memory.create object = (.ok (), memory.putConfigMap object) := by
  simp [create, Table.contains, absent]

theorem replace_of_get?_some {existing object : ConfigMap}
    (found : memory.configMaps.get? object.metadata.key = some existing)
    (sameVersion : object.metadata.resourceVersion = existing.metadata.resourceVersion) :
    memory.replace object = (.ok (), memory.putConfigMap object) := by
  simp [replace, found, sameVersion]

end Kept

/-- The shoot under a key and its state are there to stay, and with the identity of the garden they
ask for an object. -/
def Asks (memory : Memory) (key : Key) (object : ConfigMap) : Prop :=
  ∃ shoot state text,
    memory.shoots.get? key = some shoot ∧ shoot.terminating = false ∧
      memory.shootStates.get? key = some state ∧ state.terminating = false ∧
      Wanted key shoot state memory.identity text ∧ Artifact.desired shoot text = .ok object

/-- A ConfigMap that is not there yet needs room in its namespace. -/
def HasRoom (memory : Memory) (key : Key) : Prop :=
  memory.configMaps.get? key.artifact = none →
    Quota.hasCapacity Quota.configMapCount (memory.quotasOf key.namespaceName) = .ok true

def room (memory : Memory) (key : Key) : Except Failure Bool :=
  match memory.configMaps.get? key.artifact with
  | some _ => .ok true
  | none =>
      (Quota.hasCapacity Quota.configMapCount (memory.quotasOf key.namespaceName)).mapError .quota

theorem room_eq_ok_true_iff {memory : Memory} {key : Key} :
    memory.room key = .ok true ↔ memory.HasRoom key := by
  unfold room HasRoom
  cases memory.configMaps.get? key.artifact <;> simp

def cleared (memory : Memory) (key : Key) : Memory :=
  { memory with configMaps := memory.configMaps.erase key.artifact }

def written (memory : Memory) (limit : Nat) (key : Key) (object : ConfigMap) : Result × Memory :=
  (write limit (memory.configMaps.get? key.artifact) object).run answer memory

/-- Under the key of the kubeconfig lies a ConfigMap to which nothing has to be written. -/
structure Settled (memory : Memory) (key : Key) (object stored : ConfigMap) : Prop where
  kept : memory.Kept
  asks : memory.Asks key object
  found : memory.configMaps.get? key.artifact = some stored
  unchanged : Artifact.merge stored object = .ok none

inductive Reconciled (memory : Memory) (limit : Nat) (key : Key) : Result × Memory → Prop
  | idle {result : Result}
      (deferred : ∀ outcome, result = .ok outcome → outcome.deferral?.isSome = true) :
      Reconciled memory limit key (result, memory)
  | cleared : Reconciled memory limit key (.ok .cleanup, memory.cleared key)
  | published {object : ConfigMap} {run : Result × Memory} (asks : memory.Asks key object)
      (room : memory.HasRoom key) (same : memory.written limit key object = run) :
      Reconciled memory limit key run

section Run

variable {memory : Memory} {limit : Nat} {key : Key} {object : ConfigMap}

theorem run_cleanup : (cleanup key).run answer memory = (.ok .cleanup, memory.cleared key) := rfl

theorem run_gardenIdentity :
    gardenIdentity.run answer memory = (identityIn memory.identity, memory) := by
  unfold gardenIdentity
  rw [Program.run_ask]
  exact Program.run_ofExcept _ _ _

private theorem run_hasRoom :
    (hasRoom key (memory.configMaps.get? key.artifact)).run answer memory =
      (memory.room key, memory) := by
  unfold hasRoom room
  cases memory.configMaps.get? key.artifact with
  | some existing => rfl
  | none =>
      dsimp only
      rw [Program.run_ask]
      exact Program.run_ofExcept _ _ _

theorem run_publish_of_wanted {shoot : Shoot} {state : ShootState} {text : String}
    (wanted : Wanted key shoot state memory.identity text)
    (desired : Artifact.desired shoot text = .ok object) (existing : Option ConfigMap) :
    (publish limit key shoot existing state).run answer memory =
      (write limit existing object).run answer memory := by
  obtain ⟨authority, endpoints, identity, ready, identified, made⟩ :=
    wanted_iff_computed.mp ⟨text, wanted, desired⟩
  unfold publish
  simp only [Program.bind_eq, Program.run_bind, Program.run_ofExcept, ready, run_gardenIdentity,
    identified, made, Program.andThen]

theorem run_reconcileState {shoot : Shoot} (existing : Option ConfigMap) :
    (reconcileState limit key shoot existing).run answer memory =
      match memory.shootStates.get? key with
      | none => (.ok .cleanup, memory.cleared key)
      | some state =>
          if state.terminating then (.ok .cleanup, memory.cleared key)
          else (publish limit key shoot existing state).run answer memory := by
  unfold reconcileState
  rw [Program.run_ask]
  simp only [answer, Program.resume]
  cases memory.shootStates.get? key with
  | none => exact run_cleanup
  | some state =>
      dsimp only
      split
      · exact run_cleanup
      · rfl

theorem run_reconcileShoot {shoot : Shoot} :
    (reconcileShoot limit key shoot).run answer memory =
      match memory.room key with
      | .error failure => (.error failure, memory)
      | .ok false => (.ok .quotaExceeded, memory)
      | .ok true =>
          (reconcileState limit key shoot (memory.configMaps.get? key.artifact)).run answer
            memory := by
  unfold reconcileShoot
  rw [Program.run_ask]
  simp only [answer, Program.resume, Program.bind_eq, Program.run_bind, run_hasRoom]
  cases memory.room key with
  | error failure => rfl
  | ok room => cases room <;> rfl

theorem run_reconcile :
    (reconcile limit key).run answer memory =
      match memory.shoots.get? key with
      | none => (.ok .cleanup, memory.cleared key)
      | some shoot =>
          if shoot.terminating then (.ok .cleanup, memory.cleared key)
          else (reconcileShoot limit key shoot).run answer memory := by
  unfold reconcile
  rw [Program.run_ask]
  simp only [answer, Program.resume]
  cases memory.shoots.get? key with
  | none => exact run_cleanup
  | some shoot =>
      dsimp only
      split
      · exact run_cleanup
      · rfl

theorem run_reconcile_of_shootStays {shoot : Shoot} (found : memory.shoots.get? key = some shoot)
    (stays : shoot.terminating = false) :
    (reconcile limit key).run answer memory =
      (reconcileShoot limit key shoot).run answer memory := by
  rw [run_reconcile, found]
  dsimp only
  rw [if_neg (by simp [stays])]

theorem run_reconcileState_of_stateStays {shoot : Shoot} {existing : Option ConfigMap}
    {state : ShootState} (found : memory.shootStates.get? key = some state)
    (stays : state.terminating = false) :
    (reconcileState limit key shoot existing).run answer memory =
      (publish limit key shoot existing state).run answer memory := by
  rw [run_reconcileState, found]
  dsimp only
  rw [if_neg (by simp [stays])]

/-- While a shoot and its state stay, and there is room, all depends on what they publish. -/
theorem run_reconcile_of_room {shoot : Shoot} {state : ShootState}
    (shootFound : memory.shoots.get? key = some shoot) (shootStays : shoot.terminating = false)
    (room : memory.room key = .ok true) (stateFound : memory.shootStates.get? key = some state)
    (stateStays : state.terminating = false) :
    (reconcile limit key).run answer memory =
      (publish limit key shoot (memory.configMaps.get? key.artifact) state).run answer memory := by
  rw [run_reconcile_of_shootStays shootFound shootStays, run_reconcileShoot, room]
  exact run_reconcileState_of_stateStays stateFound stateStays

/-- The run of a reconcile that passes every gate is that of its write. -/
theorem run_reconcile_of_asks (asks : memory.Asks key object) (room : memory.HasRoom key) :
    (reconcile limit key).run answer memory = memory.written limit key object := by
  obtain ⟨shoot, state, text, shootFound, shootStays, stateFound, stateStays, wanted, desired⟩ :=
    asks
  rw [run_reconcile_of_room shootFound shootStays (room_eq_ok_true_iff.mpr room) stateFound
    stateStays, run_publish_of_wanted wanted desired]
  rfl

theorem run_publish_cases {shoot : Shoot} {state : ShootState} (existing : Option ConfigMap) :
    (∃ result, (publish limit key shoot existing state).run answer memory = (result, memory) ∧
      ∀ outcome, result = .ok outcome → outcome.deferral?.isSome = true) ∨
    ∃ text object, Wanted key shoot state memory.identity text ∧
      Artifact.desired shoot text = .ok object := by
  cases computed : readiness shoot state with
  | error failure =>
      refine .inl ⟨.error failure, ?_, by simp⟩
      simp [publish, Program.run_bind, computed, Program.andThen]
  | ok readiness =>
      cases readiness with
      | postponed outcome =>
          refine .inl ⟨.ok outcome, ?_, ?_⟩
          · simp [publish, Program.run_bind, computed, Program.andThen]
          · rintro _ ⟨⟩
            rcases postponed_of_readiness computed with rfl | rfl <;> rfl
      | ready authority endpoints =>
          cases identified : identityIn memory.identity with
          | error failure =>
              refine .inl ⟨.error failure, ?_, by simp⟩
              simp [publish, Program.run_bind, computed, run_gardenIdentity, identified,
                Program.andThen]
          | ok identity =>
              cases made : desired shoot (request key authority endpoints identity) with
              | error failure =>
                  refine .inl ⟨.error failure, ?_, by simp⟩
                  simp [publish, Program.run_bind, computed, run_gardenIdentity, identified, made,
                    Program.andThen]
              | ok object =>
                  obtain ⟨text, wanted, desired⟩ := wanted_iff_computed.mpr
                    ⟨authority, endpoints, identity, computed, identified, made⟩
                  exact .inr ⟨text, object, wanted, desired⟩

theorem run_reconcile_cases :
    Reconciled memory limit key ((reconcile limit key).run answer memory) := by
  -- one case for each gate, in their order
  rw [run_reconcile]
  cases shootFound : memory.shoots.get? key with
  | none => exact .cleared
  | some shoot =>
      dsimp only
      split
      next => exact .cleared
      next shootStays =>
          rw [run_reconcileShoot]
          cases roomFound : memory.room key with
          | error failure => exact .idle (by simp)
          | ok room =>
              cases room with
              | false => exact .idle (by rintro _ ⟨⟩; rfl)
              | true =>
                  dsimp only
                  rw [run_reconcileState]
                  cases stateFound : memory.shootStates.get? key with
                  | none => exact .cleared
                  | some state =>
                      dsimp only
                      split
                      next => exact .cleared
                      next stateStays =>
                          rcases run_publish_cases (memory.configMaps.get? key.artifact) with
                            ⟨result, same, deferred⟩ | ⟨text, object, wanted, desired⟩
                          · rw [same]
                            exact .idle deferred
                          · rw [run_publish_of_wanted wanted desired]
                            refine .published ?_ (room_eq_ok_true_iff.mp roomFound) rfl
                            exact ⟨shoot, state, text, shootFound, eq_false_of_ne_true shootStays,
                              stateFound, eq_false_of_ne_true stateStays, wanted, desired⟩

theorem reconciled_of_run {run : Result × Memory}
    (ran : (reconcile limit key).run answer memory = run) : Reconciled memory limit key run := by
  rw [← ran]
  exact run_reconcile_cases

theorem key_of_asks (asks : memory.Asks key object) (kept : memory.Kept) :
    object.metadata.key = key.artifact := by
  obtain ⟨shoot, _, _, shootFound, _, _, _, _, desired⟩ := asks
  rw [Artifact.key_desired desired, kept.shoots key shoot shootFound]

theorem written_absent (kept : memory.Kept) (asks : memory.Asks key object)
    (absent : memory.configMaps.get? key.artifact = none) :
    memory.written limit key object =
      match Artifact.ensureSize object limit with
      | .error failure => (.error failure, memory)
      | .ok () => (.ok .created, memory.putConfigMap object) := by
  unfold written write
  rw [absent]
  simp only [Program.bind_eq, Program.run_bind, Program.run_ofExcept]
  cases Artifact.ensureSize object limit with
  | error failure => rfl
  | ok sized =>
      simp only [Program.andThen, Program.run_ask, answer]
      rw [create_of_get?_none (by rw [key_of_asks asks kept, absent])]
      rfl

theorem written_present {existing : ConfigMap} (kept : memory.Kept)
    (present : memory.configMaps.get? key.artifact = some existing) :
    memory.written limit key object =
      match Artifact.merge existing object with
      | .error failure => (.error failure, memory)
      | .ok none => (.ok .unchanged, memory)
      | .ok (some merged) =>
          match Artifact.ensureSize merged limit with
          | .error failure => (.error failure, memory)
          | .ok () => (.ok .updated, memory.putConfigMap merged) := by
  unfold written write
  rw [present]
  simp only [Program.bind_eq, Program.run_bind, Program.run_ofExcept]
  cases written : Artifact.merge existing object with
  | error failure => rfl
  | ok merge =>
      cases merge with
      | none => rfl
      | some merged =>
          simp only [Program.andThen, Program.run_bind, Program.run_ofExcept]
          cases Artifact.ensureSize merged limit with
          | error failure => rfl
          | ok sized =>
              have mergedKey : merged.metadata.key = key.artifact := by
                rw [Artifact.key_merge written, kept.configMaps _ existing present]
              simp only [Program.run_ask, answer]
              rw [replace_of_get?_some (by rw [mergedKey, present])
                (Artifact.resourceVersion_merge written)]
              rfl

private theorem settled_putConfigMap {put : ConfigMap} (kept : memory.Kept)
    (asks : memory.Asks key object) (putKey : put.metadata.key = key.artifact)
    (unchanged : ∀ version, Artifact.merge (put.withVersion version) object = .ok none) :
    (memory.putConfigMap put).Settled key object
      (put.withVersion (toString (memory.version + 1))) where
  kept := kept.putConfigMap put
  asks := asks
  found := by rw [get?_putConfigMap, if_pos putKey.symm]
  unchanged := unchanged _

variable (limit) in
theorem written_cases (kept : memory.Kept) (asks : memory.Asks key object) :
    (∃ failure, memory.written limit key object = (.error failure, memory)) ∨
      ∃ outcome final stored, memory.written limit key object = (.ok outcome, final) ∧
        (outcome = .created ∨ outcome = .updated ∨ outcome = .unchanged ∧ final = memory) ∧
        final.Settled key object stored := by
  cases found : memory.configMaps.get? key.artifact with
  | none =>
      rw [written_absent kept asks found]
      cases Artifact.ensureSize object limit with
      | error failure => exact .inl ⟨failure, rfl⟩
      | ok sized =>
          have settled : ∀ version,
              Artifact.merge (object.withVersion version) object = .ok none := by
            obtain ⟨_, _, _, _, _, _, _, _, desired⟩ := asks
            exact Artifact.merge_desired desired
          exact .inr ⟨.created, _, _, rfl, .inl rfl,
            settled_putConfigMap kept asks (key_of_asks asks kept) settled⟩
  | some existing =>
      rw [written_present kept found]
      cases written : Artifact.merge existing object with
      | error failure => exact .inl ⟨failure, rfl⟩
      | ok merge =>
          cases merge with
          | none =>
              exact .inr ⟨.unchanged, memory, existing, rfl, .inr (.inr ⟨rfl, rfl⟩),
                ⟨kept, asks, found, written⟩⟩
          | some merged =>
              have mergedKey : merged.metadata.key = key.artifact := by
                rw [Artifact.key_merge written, kept.configMaps _ existing found]
              dsimp only
              cases Artifact.ensureSize merged limit with
              | error failure => exact .inl ⟨failure, rfl⟩
              | ok sized =>
                  exact .inr ⟨.updated, _, _, rfl, .inr (.inl rfl),
                    settled_putConfigMap kept asks mergedKey (Artifact.merge_merged written)⟩

theorem run_attempt (admission : Admission) :
    (attempt admission limit key).run answer memory =
      if (admission.enter? key.namespaceName).isSome then (reconcile limit key).run answer memory
      else (.ok .admissionDenied, memory) := by
  unfold attempt
  cases admission.enter? key.namespaceName <;> rfl

/-- After a run that tells of a kubeconfig there is one, and it is settled. -/
theorem settled_of_published {admission : Admission} {outcome : Outcome} {final : Memory}
    (kept : memory.Kept)
    (ran : (attempt admission limit key).run answer memory = (.ok outcome, final))
    (published : outcome ∈ [.created, .updated, .unchanged]) :
    ∃ object stored, memory.Asks key object ∧ final.Settled key object stored := by
  rw [run_attempt] at ran
  split at ran
  next =>
      cases reconciled_of_run ran with
      | idle deferred =>
          have isDeferred := deferred outcome rfl
          simp only [List.mem_cons, List.not_mem_nil, or_false] at published
          rcases published with rfl | rfl | rfl <;> cases isDeferred
      | cleared => simp at published
      | published asks _ same =>
          rcases written_cases limit kept asks with
            ⟨failure, failed⟩ | ⟨_, _, stored, succeeded, _, settled⟩
          · cases same.symm.trans failed
          · cases same.symm.trans succeeded
            exact ⟨_, stored, asks, settled⟩
  next =>
      cases ran
      simp at published

end Run

end Memory

end ShootKubeconfig.Cluster
