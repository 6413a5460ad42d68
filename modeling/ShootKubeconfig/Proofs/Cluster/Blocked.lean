import ShootKubeconfig.Proofs.Cluster.Undisturbed

/-!
When the quotas of a namespace are what a reconcile ends with.

Nothing behind the gate of the quotas fails because of a quota, so that such an end tells that there
was no ConfigMap to bring up to date.
-/

namespace ShootKubeconfig.Cluster

open Reconcile

/-- There is no room for a kubeconfig, or nobody knows whether there is. -/
inductive Blocked : Result → Prop
  | exceeded : Blocked (.ok .quotaExceeded)
  | unknown (cause : Quota.Failure) : Blocked (.error (.quota cause))

section Blocked

variable {key : Key} {shoot : Shoot} {state : ShootState} {object : ConfigMap} {text : String}
  {failure : Failure}

@[simp] theorem blocked_ok_iff {outcome : Outcome} :
    Blocked (.ok outcome) ↔ outcome = .quotaExceeded := by
  constructor
  · rintro ⟨⟩
    rfl
  · rintro rfl
    exact .exceeded

@[simp] theorem blocked_error_iff :
    Blocked (.error failure) ↔ ∃ cause, failure = .quota cause := by
  constructor
  · intro blocked
    cases blocked with
    | unknown cause => exact ⟨cause, rfl⟩
  · rintro ⟨cause, rfl⟩
    exact .unknown cause

private theorem not_blocked_of_mapError {ε α : Type} {computed : Except ε α} {wrap : ε → Failure}
    (wraps : ∀ cause, ¬Blocked (.error (wrap cause)))
    (failed : computed.mapError wrap = .error failure) : ¬Blocked (.error failure) := by
  cases computed with
  | error cause =>
      cases failed
      exact wraps cause
  | ok value => cases failed

private theorem not_blocked_readiness (failed : readiness shoot state = .error failure) :
    ¬Blocked (.error failure) := by
  unfold readiness at failed
  split at failed
  · cases failed
  · cases provisioned : TrustAnchor.ofShootState state with
    | error cause =>
        rw [provisioned] at failed
        cases cause <;> cases failed <;> simp
    | ok authority =>
        simp only [provisioned, bind_eq_error_iff, pure_ne_error, and_false, exists_false,
          or_false] at failed
        rcases failed with untrusted | ⟨_, _, malformed⟩
        · exact not_blocked_of_mapError (by simp) untrusted
        · obtain ⟨_, _, _, _, _, _, _, rfl⟩ := endpoints_eq_error_iff.mp malformed
          simp

private theorem not_blocked_identityIn {found : Option ConfigMap}
    (failed : identityIn found = .error failure) : ¬Blocked (.error failure) := by
  unfold identityIn at failed
  split at failed
  · cases failed
    simp
  · split at failed
    · cases failed
      simp
    · split at failed <;> cases failed
      simp

private theorem not_blocked_ownerReference (failed : Artifact.ownerReference shoot = .error failure) :
    ¬Blocked (.error failure) := by
  unfold Artifact.ownerReference at failed
  split at failed <;> cases failed
  simp

private theorem not_blocked_desired {request : Kubeconfig.Request}
    (failed : desired shoot request = .error failure) : ¬Blocked (.error failure) := by
  simp only [desired, Artifact.desired, bind_eq_error_iff, pure_ne_error, and_false, exists_false,
    or_false] at failed
  rcases failed with versionless | ⟨_, _, defective | ⟨_, _, unnamed⟩⟩
  · exact not_blocked_of_mapError (by simp) versionless
  · exact not_blocked_of_mapError (by simp) defective
  · exact not_blocked_ownerReference unnamed

private theorem not_blocked_merge {existing : ConfigMap}
    (failed : Artifact.merge existing object = .error failure) : ¬Blocked (.error failure) := by
  unfold Artifact.merge at failed
  split at failed
  · cases failed
    simp
  · split at failed <;> cases failed
    simp

private theorem not_blocked_ensureSize {limit : Nat}
    (failed : Artifact.ensureSize object limit = .error failure) : ¬Blocked (.error failure) := by
  unfold Artifact.ensureSize at failed
  split at failed <;> cases failed
  simp

end Blocked

namespace Memory

/-- The shoot under a key is there to stay and has no ConfigMap, and the quotas of its namespace do
not tell of room for one. -/
structure Crowded (memory : Memory) (key : Key) (shoot : Shoot) : Prop where
  found : memory.shoots.get? key = some shoot
  stays : shoot.terminating = false
  absent : memory.configMaps.get? key.artifact = none
  noRoom :
    Quota.hasCapacity Quota.configMapCount (memory.quotasOf key.namespaceName) ≠ .ok true

section Run

variable {memory : Memory} {limit : Nat} {key : Key} {shoot : Shoot} {state : ShootState}

private theorem not_blocked_ofExcept_bind {α : Type} {computed : Except Failure α}
    {next : α → Program Outcome}
    (failed : ∀ failure, computed = .error failure → ¬Blocked (.error failure))
    (succeeded : ∀ value, computed = .ok value → ¬Blocked ((next value).run answer memory).1) :
    ¬Blocked (((Program.ofExcept computed).bind next).run answer memory).1 := by
  cases computed with
  | error failure => exact failed failure rfl
  | ok value => exact succeeded value rfl

private theorem not_blocked_write (limit : Nat) (existing : Option ConfigMap) (object : ConfigMap) :
    ¬Blocked ((write limit existing object).run answer memory).1 := by
  cases existing with
  | none =>
      refine not_blocked_ofExcept_bind (fun _ => not_blocked_ensureSize) fun _ _ => ?_
      rw [Program.run_ask]
      simp only [answer, create]
      split <;> simp [Program.resume]
  | some existing =>
      refine not_blocked_ofExcept_bind (fun _ => not_blocked_merge) fun merge _ => ?_
      cases merge with
      | none => simp
      | some merged =>
          refine not_blocked_ofExcept_bind (fun _ => not_blocked_ensureSize) fun _ _ => ?_
          rw [Program.run_ask]
          simp only [answer, replace]
          split
          · simp [Program.resume]
          · split <;> simp [Program.resume]

private theorem not_blocked_publish (existing : Option ConfigMap) :
    ¬Blocked ((publish limit key shoot existing state).run answer memory).1 := by
  refine not_blocked_ofExcept_bind (fun _ => not_blocked_readiness) fun readiness computed => ?_
  cases readiness with
  | postponed outcome =>
      rcases postponed_of_readiness computed with rfl | rfl <;> simp
  | ready authority endpoints =>
      simp only [Program.bind_eq, Program.run_bind, run_gardenIdentity]
      cases identified : identityIn memory.identity with
      | error failure => exact not_blocked_identityIn identified
      | ok identity =>
          rw [Program.andThen, ← Program.run_bind]
          exact not_blocked_ofExcept_bind (fun _ => not_blocked_desired)
            fun object _ => not_blocked_write limit existing object

private theorem not_blocked_reconcileState (existing : Option ConfigMap) :
    ¬Blocked ((reconcileState limit key shoot existing).run answer memory).1 := by
  rw [run_reconcileState]
  cases memory.shootStates.get? key with
  | none => simp
  | some state =>
      dsimp only
      split
      · simp
      · exact not_blocked_publish existing

private theorem room_ne_ok_true_iff :
    memory.room key ≠ .ok true ↔
      memory.configMaps.get? key.artifact = none ∧
        Quota.hasCapacity Quota.configMapCount (memory.quotasOf key.namespaceName) ≠ .ok true := by
  rw [ne_eq, room_eq_ok_true_iff, HasRoom]
  push Not
  rfl

private theorem blocked_of_room {failure : Failure} (failed : memory.room key = .error failure) :
    Blocked (.error failure) := by
  unfold room at failed
  split at failed
  · cases failed
  · cases judged : Quota.hasCapacity Quota.configMapCount
      (memory.quotasOf key.namespaceName) with
    | error cause =>
        rw [judged] at failed
        cases failed
        exact .unknown cause
    | ok room =>
        rw [judged] at failed
        cases failed

theorem blocked_reconcileShoot_iff :
    Blocked ((reconcileShoot limit key shoot).run answer memory).1 ↔
      memory.room key ≠ .ok true := by
  rw [run_reconcileShoot]
  cases judged : memory.room key with
  | error failure => simpa using blocked_of_room judged
  | ok room =>
      cases room with
      | false => simp
      | true => simpa using not_blocked_reconcileState _

theorem blocked_reconcile_iff :
    Blocked ((reconcile limit key).run answer memory).1 ↔ ∃ shoot, memory.Crowded key shoot := by
  rw [run_reconcile]
  cases found : memory.shoots.get? key with
  | none =>
      have noShoot : ¬∃ shoot, memory.Crowded key shoot := by
        rintro ⟨shoot, crowded⟩
        cases found.symm.trans crowded.found
      simpa using noShoot
  | some shoot =>
      dsimp only
      split
      next terminating =>
          have leaves : ¬∃ shoot, memory.Crowded key shoot := by
            rintro ⟨other, crowded⟩
            cases found.symm.trans crowded.found
            cases terminating.symm.trans crowded.stays
          simpa using leaves
      next stays =>
          rw [blocked_reconcileShoot_iff, room_ne_ok_true_iff]
          constructor
          · rintro ⟨absent, noRoom⟩
            exact ⟨shoot, found, eq_false_of_ne_true stays, absent, noRoom⟩
          · rintro ⟨_, _, _, absent, noRoom⟩
            exact ⟨absent, noRoom⟩

/-- Quotas are the end of a reconcile of exactly the shoots that they leave no room for. -/
theorem blocked_attempt_iff {admission : Admission} :
    Blocked ((attempt admission limit key).run answer memory).1 ↔
      (admission.enter? key.namespaceName).isSome = true ∧ ∃ shoot, memory.Crowded key shoot := by
  rw [run_attempt]
  split
  next admitted => simp [admitted, blocked_reconcile_iff]
  next denied => simp [denied]

end Run

end Memory

end ShootKubeconfig.Cluster
