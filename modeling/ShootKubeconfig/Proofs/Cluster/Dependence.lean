import ShootKubeconfig.Proofs.Cluster.EndState
import ShootKubeconfig.Proofs.TrustAnchor

/-!
On what a reconcile of a cluster in memory depends.

Two clusters that agree on a few parts of the objects under a key see the same calls, with the same
objects, and the same result. What carries the argument is that shoots and states that are alike
make the same program.
-/

namespace ShootKubeconfig

/-- Shoots that differ at most in what no reconcile looks at. -/
structure Shoot.Alike (first second : Shoot) : Prop where
  name : first.metadata.name = second.metadata.name
  inNamespace? : first.metadata.inNamespace? = second.metadata.inNamespace?
  uid : first.metadata.uid = second.metadata.uid
  terminating : first.terminating = second.terminating
  advertisedAddresses : first.advertisedAddresses = second.advertisedAddresses
  kubernetesVersion : first.kubernetesVersion = second.kubernetesVersion

/-- States from which the same certificate authority is read, or which fail to yield one alike. -/
structure ShootState.Alike (first second : ShootState) : Prop where
  terminating : first.terminating = second.terminating
  authority : TrustAnchor.ofShootState first = TrustAnchor.ofShootState second

namespace Reconcile

section Congruence

variable {shoot other : Shoot} {state otherState : ShootState}

private theorem readiness_congr (shoots : shoot.Alike other) (states : state.Alike otherState) :
    readiness shoot state = readiness other otherState := by
  unfold readiness Shoot.endpoints
  rw [shoots.advertisedAddresses, states.authority]

private theorem artifact_desired_congr (shoots : shoot.Alike other) (text : String) :
    Artifact.desired shoot text = Artifact.desired other text := by
  unfold Artifact.desired Artifact.ownerReference Metadata.anyName
  rw [shoots.name, shoots.inNamespace?, shoots.uid]
  -- the stem of a name counts only where there is no name, and then there is no owner either
  cases other.metadata.name <;> rfl

private theorem desired_congr (shoots : shoot.Alike other) (request : Kubeconfig.Request) :
    desired shoot request = desired other request := by
  unfold desired
  simp only [shoots.kubernetesVersion, artifact_desired_congr shoots]

private theorem publish_congr (shoots : shoot.Alike other) (states : state.Alike otherState) (limit : Nat)
    (key : Key) (existing : Option ConfigMap) :
    publish limit key shoot existing state = publish limit key other existing otherState := by
  unfold publish
  simp only [readiness_congr shoots states, desired_congr shoots]

end Congruence

private theorem cases_of_rel {α : Type} {related : α → α → Prop} {first second : Option α}
    (rel : Option.Rel related first second) :
    (first = none ∧ second = none) ∨
      ∃ one other, first = some one ∧ second = some other ∧ related one other := by
  cases rel with
  | none => exact .inl ⟨rfl, rfl⟩
  | some same => exact .inr ⟨_, _, rfl, rfl, same⟩

namespace Program

variable {α σ : Type}

def calls (answer : σ → (call : Call) → Answer call × σ) (program : Program α) (state : σ) :
    List Call :=
  (program.exchanges answer state).map (·.call)

theorem calls_ask (answer : σ → (call : Call) → Answer call × σ) (call : Call)
    (next : call.Reply → Program α) (state : σ) :
    (Program.ask call next).calls answer state =
      call :: (resume next (answer state call).1).calls answer (answer state call).2 := by
  unfold calls
  rw [exchanges]
  cases answer state call with
  | mk reply state => cases reply <;> rfl

end Program

end Reconcile

namespace Cluster

open Reconcile

namespace Memory

/-- Two clusters agree on all that a reconcile of a key looks at. -/
structure Agrees (first second : Memory) (key : Key) : Prop where
  shoot : Option.Rel Shoot.Alike (first.shoots.get? key) (second.shoots.get? key)
  state : Option.Rel ShootState.Alike (first.shootStates.get? key) (second.shootStates.get? key)
  configMap : first.configMaps.get? key.artifact = second.configMaps.get? key.artifact
  quotas : first.quotasOf key.namespaceName = second.quotasOf key.namespaceName
  identity : first.identity = second.identity

/-- Two programs make the same calls and end with the same result. If they also count the same
versions, they leave the same kubeconfig. -/
structure SameCourse (key : Key) (first second : Memory) (program other : Program Outcome) :
    Prop where
  calls : program.calls answer first = other.calls answer second
  result : (program.run answer first).1 = (other.run answer second).1
  left : first.version = second.version →
    (program.run answer first).2.configMaps.get? key.artifact =
      (other.run answer second).2.configMaps.get? key.artifact

section Course

variable {first second : Memory} (limit : Nat) {key : Key} {object : ConfigMap}

theorem SameCourse.ask {call : Call} {next otherNext : call.Reply → Program Outcome}
    (versions : first.version = second.version →
      (first.answer call).2.version = (second.answer call).2.version)
    (same : SameCourse key (first.answer call).2 (second.answer call).2
      (Program.resume next (first.answer call).1)
      (Program.resume otherNext (second.answer call).1)) :
    SameCourse key first second (.ask call next) (.ask call otherNext) where
  calls := by rw [Program.calls_ask, Program.calls_ask, same.calls]
  result := by rw [Program.run_ask, Program.run_ask, same.result]
  left := by
    intro version
    rw [Program.run_ask, Program.run_ask, same.left (versions version)]

private theorem sameCourse_done (agrees : first.Agrees second key) (outcome : Outcome) :
    SameCourse key first second (.done outcome) (.done outcome) :=
  ⟨rfl, rfl, fun _ => agrees.configMap⟩

private theorem sameCourse_fail (agrees : first.Agrees second key) (failure : Failure) :
    SameCourse key first second (.fail failure) (.fail failure) :=
  ⟨rfl, rfl, fun _ => agrees.configMap⟩

private theorem sameCourse_cleanup :
    SameCourse key first second (cleanup key) (cleanup key) where
  calls := rfl
  result := rfl
  left := by
    intro _
    simp [run_cleanup, cleared]

private theorem sameCourse_put {call : Call} {outcome : Outcome}
    (firstAnswers : ∃ reply, first.answer call = (.ok reply, first.putConfigMap object))
    (secondAnswers : ∃ reply, second.answer call = (.ok reply, second.putConfigMap object))
    (objectKey : object.metadata.key = key.artifact) :
    SameCourse key first second (.ask call fun _ => .done outcome)
      (.ask call fun _ => .done outcome) := by
  obtain ⟨firstReply, firstAnswers⟩ := firstAnswers
  obtain ⟨secondReply, secondAnswers⟩ := secondAnswers
  constructor
  · rw [Program.calls_ask, Program.calls_ask, firstAnswers, secondAnswers]
    rfl
  · rw [Program.run_ask, Program.run_ask, firstAnswers, secondAnswers]
    rfl
  · intro version
    rw [Program.run_ask, Program.run_ask, firstAnswers, secondAnswers]
    simp only [Program.resume, Program.run_done, get?_putConfigMap, objectKey, version, if_true]

private theorem sameCourse_write (agrees : first.Agrees second key) (kept : first.Kept)
    (objectKey : object.metadata.key = key.artifact) :
    SameCourse key first second (write limit (first.configMaps.get? key.artifact) object)
      (write limit (first.configMaps.get? key.artifact) object) := by
  unfold write
  simp only [Program.bind_eq]
  cases found : first.configMaps.get? key.artifact with
  | none =>
      dsimp only
      cases Artifact.ensureSize object limit with
      | error failure => exact sameCourse_fail agrees failure
      | ok sized =>
          refine sameCourse_put ⟨(), ?_⟩ ⟨(), ?_⟩ objectKey
          · exact create_of_get?_none (by rw [objectKey, found])
          · exact create_of_get?_none (by rw [objectKey, ← agrees.configMap, found])
  | some existing =>
      dsimp only
      cases merge : Artifact.merge existing object with
      | error failure => exact sameCourse_fail agrees failure
      | ok outcome =>
          cases outcome with
          | none => exact sameCourse_done agrees .unchanged
          | some merged =>
              have mergedKey : merged.metadata.key = key.artifact := by
                rw [Artifact.key_merge merge, kept.configMaps _ existing found]
              have sameVersion := Artifact.resourceVersion_merge merge
              simp only [Program.ofExcept, Program.done_bind]
              cases Artifact.ensureSize merged limit with
              | error failure => exact sameCourse_fail agrees failure
              | ok sized =>
                  refine sameCourse_put ⟨(), ?_⟩ ⟨(), ?_⟩ mergedKey
                  · exact replace_of_get?_some (by rw [mergedKey, found]) sameVersion
                  · exact replace_of_get?_some (by rw [mergedKey, ← agrees.configMap, found])
                      sameVersion

private theorem sameCourse_publish (agrees : first.Agrees second key) (kept : first.Kept) {shoot : Shoot}
    (shootKey : shoot.metadata.key = key) (state : ShootState) :
    SameCourse key first second
      (publish limit key shoot (first.configMaps.get? key.artifact) state)
      (publish limit key shoot (first.configMaps.get? key.artifact) state) := by
  unfold publish
  simp only [Program.bind_eq]
  cases readiness shoot state with
  | error failure => exact sameCourse_fail agrees failure
  | ok readiness =>
      cases readiness with
      | postponed outcome => exact sameCourse_done agrees outcome
      | ready authority endpoints =>
          refine SameCourse.ask id ?_
          simp only [answer, Program.resume, ← agrees.identity]
          cases identityIn first.identity with
          | error failure => exact sameCourse_fail agrees failure
          | ok identity =>
              simp only [Program.ofExcept, Program.done_bind]
              cases made : desired shoot (request key authority endpoints identity) with
              | error failure => exact sameCourse_fail agrees failure
              | ok object =>
                  obtain ⟨_, _, _, _, desired⟩ := desired_eq_ok_iff.mp made
                  refine sameCourse_write limit agrees kept ?_
                  rw [Artifact.key_desired desired, shootKey]

private theorem sameCourse_reconcileState (agrees : first.Agrees second key) (kept : first.Kept)
    {shoot other : Shoot} (shoots : shoot.Alike other) (shootKey : shoot.metadata.key = key) :
    SameCourse key first second
      (reconcileState limit key shoot (first.configMaps.get? key.artifact))
      (reconcileState limit key other (first.configMaps.get? key.artifact)) := by
  refine SameCourse.ask id ?_
  simp only [answer, Program.resume]
  rcases cases_of_rel agrees.state with
    ⟨found, otherFound⟩ | ⟨state, otherState, found, otherFound, states⟩
  · rw [found, otherFound]
    exact sameCourse_cleanup
  · rw [found, otherFound]
    dsimp only
    rw [← states.terminating, ← publish_congr shoots states]
    split
    · exact sameCourse_cleanup
    · exact sameCourse_publish limit agrees kept shootKey state

private theorem sameCourse_reconcileShoot (agrees : first.Agrees second key) (kept : first.Kept)
    {shoot other : Shoot} (shoots : shoot.Alike other) (shootKey : shoot.metadata.key = key) :
    SameCourse key first second (reconcileShoot limit key shoot)
      (reconcileShoot limit key other) := by
  have onward := sameCourse_reconcileState limit agrees kept shoots shootKey
  refine SameCourse.ask id ?_
  simp only [answer, Program.resume, ← agrees.configMap, Program.bind_eq]
  cases found : first.configMaps.get? key.artifact with
  | some existing =>
      rw [found] at onward
      exact onward
  | none =>
      rw [found] at onward
      refine SameCourse.ask id ?_
      simp only [answer, Program.resume, ← agrees.quotas]
      cases (Quota.hasCapacity Quota.configMapCount
          (first.quotasOf key.namespaceName)).mapError Failure.quota with
      | error failure => exact sameCourse_fail agrees failure
      | ok room =>
          cases room with
          | false => exact sameCourse_done agrees .quotaExceeded
          | true => exact onward

private theorem sameCourse_reconcile (agrees : first.Agrees second key) (kept : first.Kept) :
    SameCourse key first second (reconcile limit key) (reconcile limit key) := by
  refine SameCourse.ask id ?_
  simp only [answer, Program.resume]
  rcases cases_of_rel agrees.shoot with
    ⟨found, otherFound⟩ | ⟨shoot, other, found, otherFound, shoots⟩
  · rw [found, otherFound]
    exact sameCourse_cleanup
  · rw [found, otherFound]
    dsimp only
    rw [← shoots.terminating]
    split
    · exact sameCourse_cleanup
    · exact sameCourse_reconcileShoot limit agrees kept shoots (kept.shoots key shoot found)

theorem sameCourse_attempt (admission : Admission) (limit : Nat) {key : Key}
    (agrees : first.Agrees second key) (kept : first.Kept) :
    SameCourse key first second (attempt admission limit key) (attempt admission limit key) := by
  unfold attempt
  cases admission.enter? key.namespaceName with
  | none => exact sameCourse_done agrees .admissionDenied
  | some entered => exact sameCourse_reconcile limit agrees kept

end Course

def withObjects (memory : Memory) (key : Key) (shoot : Shoot) (state : ShootState) : Memory :=
  { memory with
    shoots := memory.shoots.insert key shoot
    shootStates := memory.shootStates.insert key state }

theorem agrees_withObjects {memory : Memory} {key : Key} {shoot other : Shoot}
    {state otherState : ShootState} (shootFound : memory.shoots.get? key = some shoot)
    (stateFound : memory.shootStates.get? key = some state) (shoots : shoot.Alike other)
    (states : state.Alike otherState) :
    memory.Agrees (memory.withObjects key other otherState) key where
  shoot := by simpa [shootFound, withObjects] using shoots
  state := by simpa [stateFound, withObjects] using states
  configMap := rfl
  quotas := rfl
  identity := rfl

/-- Clusters that agree on a few parts of the objects under a key see the same calls, with the same
objects, and the same result. In particular nothing that is generated for a shoot beside its
certificate shows in a call. -/
theorem calls_depend_on_declared_parts (admission : Admission) (limit : Nat) (key : Key)
    {memory : Memory} (kept : memory.Kept) :
    (∀ other : Memory, memory.Agrees other key →
      (attempt admission limit key).calls answer memory =
          (attempt admission limit key).calls answer other ∧
        ((attempt admission limit key).run answer memory).1 =
          ((attempt admission limit key).run answer other).1) ∧
      ∀ shoot state authority, memory.shoots.get? key = some shoot →
        memory.shootStates.get? key = some state →
        TrustAnchor.ofShootState state = .ok authority →
        ∀ otherShoot otherState, shoot.Alike otherShoot →
          TrustAnchor.Redaction state otherState →
          (attempt admission limit key).calls answer memory =
              (attempt admission limit key).calls answer
                (memory.withObjects key otherShoot otherState) ∧
            ((attempt admission limit key).run answer memory).1 =
              ((attempt admission limit key).run answer
                (memory.withObjects key otherShoot otherState)).1 := by
  constructor
  · intro other agrees
    have same := sameCourse_attempt admission limit agrees kept
    exact ⟨same.calls, same.result⟩
  · intro shoot state authority shootFound stateFound provisioned otherShoot otherState shoots
      redaction
    have states : state.Alike otherState :=
      ⟨redaction.terminating, provisioned.trans (redaction.ofShootState provisioned).symm⟩
    have same := sameCourse_attempt admission limit
      (agrees_withObjects shootFound stateFound shoots states) kept
    exact ⟨same.calls, same.result⟩

namespace Sample

/-- Generated data with a private key beside the certificate. -/
def confidential (privateKey : String) : ShootState where
  metadata := { name := some "foo", inNamespace? := some "garden-dev" }
  generated := [
    ⟨"ssh-keypair", "secret", .null⟩,
    ⟨"ca", "certificate",
      .object [("ca.crt", .text encodedCertificate), ("ca.key", .text privateKey)]⟩]

def labelledShoot : Shoot :=
  { shoot with metadata := { shoot.metadata with labels := some (.singleton "team" "blue") } }

set_option maxRecDepth 100000 in
theorem provisioned_confidential :
    (TrustAnchor.ofShootState (confidential "cHJpdmF0ZQ==")).toOption.isSome = true := by
  decide +kernel

theorem redaction_confidential (privateKey replacement : String) :
    TrustAnchor.Redaction (confidential privateKey) (confidential replacement) := by
  let first : GeneratedData := ⟨"ssh-keypair", "secret", .null⟩
  have unnamed : ∀ generated ∈ [first], generated.name ≠ TrustAnchor.dataName := by decide
  have redacted := TrustAnchor.Redacted.kept ("ca.crt", .text encodedCertificate)
    (.replaced (show "ca.key" ≠ _ by decide) privateKey replacement .nil)
  exact @TrustAnchor.Redaction.intro _ _ [first] [first] [] [] _ _ _ _ rfl unnamed unnamed redacted

end Sample

theorem calls_depend_on_declared_parts_sample :
    let memory := Sample.garden.put (.shootState (Sample.confidential "cHJpdmF0ZQ=="))
    let other := memory.withObjects Sample.key Sample.labelledShoot (Sample.confidential "b3RoZXI=")
    (attempt { limit := 1 } 4096 Sample.key).calls answer memory =
        (attempt { limit := 1 } 4096 Sample.key).calls answer other ∧
      ((attempt { limit := 1 } 4096 Sample.key).run answer memory).1 =
        ((attempt { limit := 1 } 4096 Sample.key).run answer other).1 := by
  intro memory other
  have kept : memory.Kept := Sample.kept_garden.put _
  obtain ⟨_, hidden⟩ := calls_depend_on_declared_parts { limit := 1 } 4096 Sample.key kept
  obtain ⟨authority, provisioned⟩ := Option.isSome_iff_exists.mp Sample.provisioned_confidential
  exact hidden Sample.shoot (Sample.confidential "cHJpdmF0ZQ==") authority rfl rfl
    (toOption_eq_some_iff.mp provisioned) Sample.labelledShoot (Sample.confidential "b3RoZXI=")
    ⟨rfl, rfl, rfl, rfl, rfl, rfl⟩ (Sample.redaction_confidential _ _)

end Memory

end Cluster

end ShootKubeconfig
