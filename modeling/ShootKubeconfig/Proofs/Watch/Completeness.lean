import ShootKubeconfig.Proofs.Cluster.Cleanup
import ShootKubeconfig.Proofs.Cluster.Dependence
import ShootKubeconfig.Watch.Relevance

/-!
Which updates change what a reconcile leaves behind.

Updates are judged by the addresses of a shoot and by the certificate authority of a state. An
update that is thought not to matter leads to the same kubeconfig, unless it changes one of the few
other things on which a reconcile depends.
-/

namespace ShootKubeconfig

/-- Changes of a shoot on which a kubeconfig depends, but by which updates are not judged. -/
inductive Shoot.Overlooked (old new : Shoot) : Prop
  | uid (changed : old.metadata.uid ≠ new.metadata.uid)
  | kubernetesVersion (changed : old.kubernetesVersion ≠ new.kubernetesVersion)
  | terminating (changed : old.terminating ≠ new.terminating)

/-- Changes of a state on which a kubeconfig depends, but that are not taken for updates of its
certificate authority. -/
inductive ShootState.Overlooked (old new : ShootState) : Prop
  | terminating (changed : old.terminating ≠ new.terminating)
  | lost {authority : Octets} {failure : TrustAnchor.Failure}
      (before : TrustAnchor.ofShootState old = .ok authority)
      (after : TrustAnchor.ofShootState new = .error failure)
  | repaired {authority : Octets} {failure : TrustAnchor.Failure}
      (before : TrustAnchor.ofShootState old = .error failure)
      (provisioned : failure ≠ .notProvisioned)
      (after : TrustAnchor.ofShootState new = .ok authority)

section Judgement

theorem Shoot.alike_refl (shoot : Shoot) : shoot.Alike shoot :=
  ⟨rfl, rfl, rfl, rfl, rfl, rfl⟩

theorem ShootState.alike_refl (state : ShootState) : state.Alike state :=
  ⟨rfl, rfl⟩

theorem Shoot.alike_of_not_updateMatters {old new : Shoot}
    (name : new.metadata.name = old.metadata.name)
    (inNamespace? : new.metadata.inNamespace? = old.metadata.inNamespace?)
    (irrelevant : old.updateMatters new = false) (noticed : ¬old.Overlooked new) :
    old.Alike new where
  name := name.symm
  inNamespace? := inNamespace?.symm
  uid := Decidable.of_not_not fun changed => noticed (.uid changed)
  terminating := Decidable.of_not_not fun changed => noticed (.terminating changed)
  advertisedAddresses := by simpa [updateMatters] using irrelevant
  kubernetesVersion := Decidable.of_not_not fun changed => noticed (.kubernetesVersion changed)

/-- Of an update that does not matter, both versions have the same certificate authority, or
neither has one that can be read. -/
theorem ShootState.authority_of_not_updateMatters {old new : ShootState}
    (irrelevant : old.updateMatters new = false) (noticed : ¬old.Overlooked new) :
    TrustAnchor.ofShootState old = TrustAnchor.ofShootState new ∨
      ∃ failure later, TrustAnchor.ofShootState old = .error failure ∧
        TrustAnchor.ofShootState new = .error later := by
  unfold updateMatters at irrelevant
  cases after : TrustAnchor.ofShootState new with
  | error later =>
      cases before : TrustAnchor.ofShootState old with
      | error failure => exact .inr ⟨failure, later, rfl, rfl⟩
      | ok authority => exact absurd (.lost before after) noticed
  | ok authority =>
      cases before : TrustAnchor.ofShootState old with
      | error failure =>
          by_cases pending : failure = .notProvisioned
          · simp [before, after, pending] at irrelevant
          · exact absurd (.repaired before pending after) noticed
      | ok held =>
          rw [before, after] at irrelevant
          exact .inl (congrArg _ (by simpa using irrelevant))

theorem ShootState.not_updateMatters_of_same {old new : ShootState}
    (same : TrustAnchor.ofShootState old = TrustAnchor.ofShootState new) :
    old.updateMatters new = false := by
  unfold updateMatters
  rw [same]
  cases TrustAnchor.ofShootState new <;> simp

theorem ShootState.not_updateMatters_of_malformed {old new : ShootState} {detail : String}
    (malformed : TrustAnchor.ofShootState old = .error (.malformed detail)) :
    old.updateMatters new = false := by
  unfold updateMatters
  rw [malformed]
  cases TrustAnchor.ofShootState new <;> rfl

end Judgement

namespace Cluster

open Reconcile

namespace Memory

/-- The kubeconfig that is there after a reconcile. -/
def leaves (memory : Memory) (admission : Admission) (limit : Nat) (key : Key) :
    Option ConfigMap :=
  ((attempt admission limit key).run answer memory).2.configMaps.get? key.artifact

section Leaves

variable {memory other : Memory} {admission : Admission} {limit : Nat} {key : Key}

theorem leaves_of_agrees (agrees : memory.Agrees other key) (kept : memory.Kept)
    (version : memory.version = other.version) :
    memory.leaves admission limit key = other.leaves admission limit key :=
  (sameCourse_attempt admission limit agrees kept).left version

private theorem leaves_of_denied (denied : ¬(admission.enter? key.namespaceName).isSome = true) :
    memory.leaves admission limit key = memory.configMaps.get? key.artifact := by
  unfold leaves
  rw [run_attempt, if_neg denied]

private theorem leaves_of_admitted (admitted : (admission.enter? key.namespaceName).isSome = true) :
    memory.leaves admission limit key =
      ((reconcile limit key).run answer memory).2.configMaps.get? key.artifact := by
  unfold leaves
  rw [run_attempt, if_pos admitted]

theorem leaves_of_gone (admitted : (admission.enter? key.namespaceName).isSome = true)
    (gone : ¬(memory.ShootStays key ∧ memory.StateStays key)) :
    memory.leaves admission limit key = none := by
  rw [leaves_of_admitted admitted]
  by_cases shootStays : memory.ShootStays key
  · exact (run_reconcile_of_stateGone shootStays fun stateStays =>
      gone ⟨shootStays, stateStays⟩).2
  · rw [run_reconcile_of_shootGone shootStays]
    exact get?_cleared

theorem leaves_of_unasked (admitted : (admission.enter? key.namespaceName).isSome = true)
    (absent : memory.configMaps.get? key.artifact = none)
    (unasked : ∀ object, ¬memory.Asks key object) : memory.leaves admission limit key = none := by
  rw [leaves_of_admitted admitted]
  cases ran : (reconcile limit key).run answer memory with
  | mk result final =>
      cases reconciled_of_run ran with
      | idle _ => exact absent
      | cleared => exact get?_cleared
      | published asks _ _ => exact absurd asks (unasked _)

/-- A state from which no certificate authority can be read keeps the kubeconfig as it is. -/
theorem leaves_of_unreadable (admitted : (admission.enter? key.namespaceName).isSome = true)
    {state : ShootState} {failure : TrustAnchor.Failure} (shootStays : memory.ShootStays key)
    (stateFound : memory.shootStates.get? key = some state) (stateStays : state.terminating = false)
    (unreadable : TrustAnchor.ofShootState state = .error failure) :
    memory.leaves admission limit key = memory.configMaps.get? key.artifact := by
  obtain ⟨shoot, shootFound, shootStays⟩ := shootStays
  rw [leaves_of_admitted admitted, run_reconcile_of_shootStays shootFound shootStays,
    run_reconcileShoot]
  cases memory.room key with
  | error _ => rfl
  | ok room =>
      cases room with
      | false => rfl
      | true =>
          dsimp only
          rw [run_reconcileState_of_stateStays stateFound stateStays]
          rcases run_publish_cases (memory.configMaps.get? key.artifact) with
            ⟨_, same, _⟩ | ⟨_, _, ⟨_, provisioned, _⟩, _⟩
          · rw [same]
          · cases provisioned.symm.trans unreadable

end Leaves

section Update

variable {memory : Memory} {admission : Admission} {limit : Nat} {key : Key}

private theorem rel_refl {α : Type} {related : α → α → Prop} (refl : ∀ value, related value value)
    (held : Option α) : Option.Rel related held held := by
  cases held with
  | none => exact .none
  | some value => exact .some (refl value)

theorem agrees_putShoot {old new : Shoot} (found : memory.shoots.get? key = some old)
    (newKey : new.metadata.key = key) (shoots : old.Alike new) :
    memory.Agrees (memory.put (.shoot new)) key where
  shoot := by simpa [put, newKey, found] using shoots
  state := rel_refl ShootState.alike_refl _
  configMap := rfl
  quotas := rfl
  identity := rfl

theorem agrees_putShootState {old new : ShootState}
    (found : memory.shootStates.get? key = some old) (newKey : new.metadata.key = key)
    (states : old.Alike new) : memory.Agrees (memory.put (.shootState new)) key where
  shoot := rel_refl Shoot.alike_refl _
  state := by simpa [put, newKey, found] using states
  configMap := rfl
  quotas := rfl
  identity := rfl

theorem leaves_putShootState_of_unreadable {old new : ShootState}
    {failure later : TrustAnchor.Failure} (found : memory.shootStates.get? key = some old)
    (newKey : new.metadata.key = key) (terminating : old.terminating = new.terminating)
    (before : TrustAnchor.ofShootState old = .error failure)
    (after : TrustAnchor.ofShootState new = .error later) :
    memory.leaves admission limit key =
      (memory.put (.shootState new)).leaves admission limit key := by
  have newFound : (memory.put (.shootState new)).shootStates.get? key = some new := by
    simp [put, newKey]
  by_cases admitted : (admission.enter? key.namespaceName).isSome = true
  · -- the old and the new state stay, or neither does
    by_cases stay : memory.ShootStays key ∧ old.terminating = false
    · obtain ⟨shootStays, stays⟩ := stay
      have stillStays : (memory.put (.shootState new)).ShootStays key := shootStays
      rw [leaves_of_unreadable admitted shootStays found stays before,
        leaves_of_unreadable admitted stillStays newFound (terminating.symm.trans stays) after]
      rfl
    · rw [leaves_of_gone admitted, leaves_of_gone admitted]
      · rintro ⟨shootStays, state, stateFound, stays⟩
        cases newFound.symm.trans stateFound
        exact stay ⟨shootStays, terminating.trans stays⟩
      · rintro ⟨shootStays, state, stateFound, stays⟩
        cases found.symm.trans stateFound
        exact stay ⟨shootStays, stays⟩
  · rw [leaves_of_denied admitted, leaves_of_denied admitted]
    rfl

end Update

/-- An update of a shoot or of its state after which a reconcile leaves another kubeconfig matters,
or changes what updates are not judged by. -/
theorem update_matters_of_leaves_ne (admission : Admission) (limit : Nat) (key : Key)
    {memory : Memory} (kept : memory.Kept) :
    (∀ old new : Shoot, memory.shoots.get? key = some old →
      new.metadata.name = old.metadata.name →
      new.metadata.inNamespace? = old.metadata.inNamespace? → new.metadata.key = key →
      memory.leaves admission limit key ≠
        (memory.put (.shoot new)).leaves admission limit key →
      old.updateMatters new = true ∨ old.Overlooked new) ∧
    ∀ old new : ShootState, memory.shootStates.get? key = some old → new.metadata.key = key →
      memory.leaves admission limit key ≠
        (memory.put (.shootState new)).leaves admission limit key →
      old.updateMatters new = true ∨ old.Overlooked new := by
  constructor
  · intro old new found name inNamespace? newKey differ
    refine Classical.or_iff_not_imp_right.mpr fun noticed => ?_
    refine Bool.of_not_eq_false fun irrelevant => ?_
    have shoots := Shoot.alike_of_not_updateMatters name inNamespace? irrelevant noticed
    exact differ (leaves_of_agrees (agrees_putShoot found newKey shoots) kept rfl)
  · intro old new found newKey differ
    refine Classical.or_iff_not_imp_right.mpr fun noticed => ?_
    refine Bool.of_not_eq_false fun irrelevant => ?_
    have terminating : old.terminating = new.terminating :=
      Decidable.of_not_not fun changed => noticed (.terminating changed)
    rcases ShootState.authority_of_not_updateMatters irrelevant noticed with
      authority | ⟨failure, later, before, after⟩
    · exact differ (leaves_of_agrees
        (agrees_putShootState found newKey ⟨terminating, authority⟩) kept rfl)
    · exact differ (leaves_putShootState_of_unreadable found newKey terminating before after)

namespace Sample

def silentShoot : Shoot :=
  { shoot with status := none }

def leavingShoot : Shoot :=
  { shoot with metadata := { shoot.metadata with deletionTimestamp := some ⟨0, false⟩ } }

def anonymousShoot : Shoot :=
  { shoot with metadata := { shoot.metadata with uid := none } }

def unversionedShoot : Shoot :=
  { shoot with kubernetesVersion := "latest" }

def pendingState : ShootState :=
  { state with generated := [] }

def garbledState : ShootState :=
  { state with generated := [⟨"ca", "certificate", .null⟩] }

private theorem leaves_garden : ∃ limit, garden.leaves { limit := 1 } limit key ≠ none := by
  obtain ⟨limit, ready⟩ := ready_garden
  have created := created_of_ready kept_garden ready rfl
  refine ⟨limit, ?_⟩
  unfold leaves
  cases ran : (attempt { limit := 1 } limit key).run answer garden with
  | mk result final =>
      rw [ran] at created
      cases created
      obtain ⟨_, _, _, settled⟩ := settled_of_published kept_garden ran (by simp)
      simp [settled.found]

private theorem leaves_ne_of_unasked {memory : Memory} {limit : Nat}
    (present : garden.leaves { limit := 1 } limit key ≠ none)
    (absent : memory.configMaps.get? key.artifact = none)
    (unasked : ∀ object, ¬memory.Asks key object) :
    garden.leaves { limit := 1 } limit key ≠ memory.leaves { limit := 1 } limit key := by
  rw [leaves_of_unasked rfl absent unasked]
  exact present

private theorem put_shoot_put (before : Shoot) (sameKey : before.metadata.key = key) :
    (garden.put (.shoot before)).put (.shoot shoot) = garden := by
  have shootKey : shoot.metadata.key = key := rfl
  simp only [garden, put, sameKey, shootKey, Table.insert_insert]

private theorem put_state_put (before : ShootState) (sameKey : before.metadata.key = key) :
    (garden.put (.shootState before)).put (.shootState state) = garden := by
  have stateKey : state.metadata.key = key := rfl
  simp only [garden, put, sameKey, stateKey, Table.insert_insert]

private theorem unasked_of_unwanted {changed : Shoot}
    (held : (garden.put (.shoot changed)).shoots.get? key = some changed)
    (unwanted : ∀ state text object, Wanted key changed state (some identity) text →
      Artifact.desired changed text ≠ .ok object) (object : ConfigMap) :
    ¬(garden.put (.shoot changed)).Asks key object := by
  rintro ⟨shoot, state, text, found, _, _, _, wanted, desired⟩
  cases held.symm.trans found
  exact unwanted state text object wanted desired

private theorem unasked_of_unreadable {changed : ShootState} {failure : TrustAnchor.Failure}
    (held : (garden.put (.shootState changed)).shootStates.get? key = some changed)
    (unreadable : TrustAnchor.ofShootState changed = .error failure) (object : ConfigMap) :
    ¬(garden.put (.shootState changed)).Asks key object := by
  rintro ⟨_, _, _, _, _, found, _, ⟨_, provisioned, _⟩, _⟩
  cases held.symm.trans found
  cases provisioned.symm.trans unreadable

private theorem unasked_of_silent (object : ConfigMap) :
    ¬(garden.put (.shoot silentShoot)).Asks key object := by
  refine unasked_of_unwanted rfl ?_ object
  rintro _ _ _ ⟨advertised, _⟩
  exact absurd rfl advertised

private theorem unasked_of_anonymous (object : ConfigMap) :
    ¬(garden.put (.shoot anonymousShoot)).Asks key object := by
  refine unasked_of_unwanted rfl ?_ object
  intro _ _ _ _ desired
  obtain ⟨_, referred, _⟩ := Artifact.desired_eq_ok_iff.mp desired
  cases (Artifact.ownerReference_eq_ok_iff.mp referred).2.1

private theorem unasked_of_unversioned (object : ConfigMap) :
    ¬(garden.put (.shoot unversionedShoot)).Asks key object := by
  refine unasked_of_unwanted rfl ?_ object
  intro _ _ _ wanted
  obtain ⟨_, read⟩ := (exists_wanted_iff.mp ⟨_, wanted⟩).versioned
  cases read

private theorem shoot_goes : ¬(garden.put (.shoot leavingShoot)).ShootStays key := by
  rintro ⟨shoot, found, stays⟩
  have held : (garden.put (.shoot leavingShoot)).shoots.get? key = some leavingShoot := rfl
  cases held.symm.trans found
  cases stays

private theorem state_goes : ¬(garden.put (.shootState leavingState)).StateStays key := by
  rintro ⟨state, found, stays⟩
  have held : (garden.put (.shootState leavingState)).shootStates.get? key = some leavingState :=
    rfl
  cases held.symm.trans found
  cases stays

private theorem noticed_silent : ¬silentShoot.Overlooked shoot := by
  intro overlooked
  cases overlooked with
  | uid changed => exact changed rfl
  | kubernetesVersion changed => exact changed rfl
  | terminating changed => exact changed rfl

private theorem noticed_pending : ¬pendingState.Overlooked state := by
  intro overlooked
  cases overlooked with
  | terminating changed => exact changed rfl
  | lost before after => cases before
  | repaired before provisioned after =>
      cases before
      exact provisioned rfl

end Sample

/-- Updates that are thought not to matter, although a kubeconfig comes or goes with them. -/
theorem leaves_ne_of_overlooked :
    ∃ limit,
      (∀ new ∈ [Sample.leavingShoot, Sample.anonymousShoot, Sample.unversionedShoot],
        Sample.shoot.updateMatters new = false ∧
          Sample.garden.leaves { limit := 1 } limit Sample.key ≠
            (Sample.garden.put (.shoot new)).leaves { limit := 1 } limit Sample.key) ∧
      (∀ new ∈ [Sample.leavingState, Sample.pendingState, Sample.garbledState],
        Sample.state.updateMatters new = false ∧
          Sample.garden.leaves { limit := 1 } limit Sample.key ≠
            (Sample.garden.put (.shootState new)).leaves { limit := 1 } limit Sample.key) ∧
      Sample.garbledState.updateMatters Sample.state = false ∧
        (Sample.garden.put (.shootState Sample.garbledState)).leaves { limit := 1 } limit
            Sample.key ≠
          ((Sample.garden.put (.shootState Sample.garbledState)).put
            (.shootState Sample.state)).leaves { limit := 1 } limit Sample.key := by
  obtain ⟨limit, present⟩ := Sample.leaves_garden
  have garbledLeft := Sample.leaves_ne_of_unasked present rfl
    (@Sample.unasked_of_unreadable Sample.garbledState _ rfl rfl)
  refine ⟨limit, ?_, ?_, ?_, ?_⟩
  · simp only [List.forall_mem_cons]
    refine ⟨⟨rfl, ?_⟩, ⟨rfl, ?_⟩, ⟨rfl, ?_⟩, by simp⟩
    · rw [leaves_of_gone rfl fun stay => Sample.shoot_goes stay.1]
      exact present
    · exact Sample.leaves_ne_of_unasked present rfl Sample.unasked_of_anonymous
    · exact Sample.leaves_ne_of_unasked present rfl Sample.unasked_of_unversioned
  · simp only [List.forall_mem_cons]
    refine ⟨⟨?_, ?_⟩, ⟨rfl, ?_⟩, ⟨rfl, garbledLeft⟩, by simp⟩
    · exact ShootState.not_updateMatters_of_same rfl
    · rw [leaves_of_gone rfl fun stay => Sample.state_goes stay.2]
      exact present
    · exact Sample.leaves_ne_of_unasked present rfl (Sample.unasked_of_unreadable rfl rfl)
  · exact ShootState.not_updateMatters_of_malformed rfl
  · rw [Sample.put_state_put Sample.garbledState rfl]
    exact garbledLeft.symm

theorem update_matters_of_leaves_ne_sample :
    Sample.silentShoot.updateMatters Sample.shoot = true ∧
      Sample.pendingState.updateMatters Sample.state = true := by
  obtain ⟨limit, present⟩ := Sample.leaves_garden
  constructor
  · have kept : (Sample.garden.put (.shoot Sample.silentShoot)).Kept := Sample.kept_garden.put _
    obtain ⟨ofShoot, _⟩ := update_matters_of_leaves_ne { limit := 1 } limit Sample.key kept
    refine (ofShoot _ Sample.shoot rfl rfl rfl rfl ?_).resolve_right Sample.noticed_silent
    rw [Sample.put_shoot_put Sample.silentShoot rfl]
    exact (Sample.leaves_ne_of_unasked present rfl Sample.unasked_of_silent).symm
  · have kept : (Sample.garden.put (.shootState Sample.pendingState)).Kept :=
      Sample.kept_garden.put _
    obtain ⟨_, ofState⟩ := update_matters_of_leaves_ne { limit := 1 } limit Sample.key kept
    refine (ofState _ Sample.state rfl rfl ?_).resolve_right Sample.noticed_pending
    rw [Sample.put_state_put Sample.pendingState rfl]
    exact (Sample.leaves_ne_of_unasked present rfl (Sample.unasked_of_unreadable rfl rfl)).symm

end Memory

end Cluster

end ShootKubeconfig
