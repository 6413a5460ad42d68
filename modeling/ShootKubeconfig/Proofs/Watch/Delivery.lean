import ShootKubeconfig.Proofs.Except
import ShootKubeconfig.Proofs.Watch.Replay

/-!
What comes through the filter keeps up with what is seen.

An update is judged against the version that was seen last, not against the one that was let
through last. Updates that are left out do not add up for all that: each kind of object has a
relation between what was let through and what was seen that an irrelevant update keeps.
-/

namespace ShootKubeconfig

/-- Either neither is a kubeconfig, or both are, and the same. -/
def ConfigMap.SameKubeconfig (first second : ConfigMap) : Prop :=
  (Artifact.hasRole first = false ∧ Artifact.hasRole second = false) ∨
    (Artifact.hasRole first = true ∧ Artifact.hasRole second = true ∧
      Artifact.kubeconfig? first = Artifact.kubeconfig? second)

namespace ShootState

/-- The certificate authority can be read, or there is none yet. -/
def Sane (state : ShootState) : Prop :=
  (∃ authority, TrustAnchor.ofShootState state = .ok authority) ∨
    TrustAnchor.ofShootState state = .error .notProvisioned

/-- The certificate authority that can be read now could be read before. -/
def Covers (first second : ShootState) : Prop :=
  ∀ authority, TrustAnchor.ofShootState second = .ok authority →
    TrustAnchor.ofShootState first = .ok authority

end ShootState

namespace Watch

section Carries

variable {α ε : Type} [Watched α] {occurs : α → Prop} {agree : α → α → Prop}
  {seen items sent : List (Except ε (Event α))} {item : Except ε (Event α)}
  {outputs : List (Option (Except ε (Event α)))}

/-- Irrelevant updates keep a relation between the version that was let through last and the one
that was seen last. -/
structure Carries (occurs : α → Prop) (agree : α → α → Prop) : Prop where
  refl : ∀ version, agree version version
  update : ∀ received old new, occurs old → occurs new → agree received old →
    Watched.updateMatters old new = false → agree received new

def delivered (outputs : List (Option (Except ε (Event α)))) : List (Except ε (Event α)) :=
  outputs.filterMap id

/-- Of each object that is held, a version has been sent that agrees with the one that is held. -/
def UpToDate (agree : α → α → Prop) (seen sent : List (Except ε (Event α))) : Prop :=
  ∀ key version, Holds key version seen →
    ∃ received, Latest key received sent ∧ agree received version

theorem UpToDate.passed (upToDate : UpToDate agree seen sent) (carries : Carries occurs agree) :
    UpToDate agree (seen ++ [item]) (sent ++ [item]) := by
  intro key version holds
  rcases holds_append.mp holds with brings | ⟨heldBefore, quiet, _⟩
  · exact ⟨version, latest_append.mpr (.inl brings), carries.refl version⟩
  · obtain ⟨received, latest, agrees⟩ := upToDate key version heldBefore
    exact ⟨received, latest_append.mpr (.inr ⟨latest, quiet⟩), agrees⟩

theorem UpToDate.dropped (upToDate : UpToDate agree seen sent) (carries : Carries occurs agree)
    (occur : ∀ each ∈ seen ++ [item], ∀ key version, Brings key version each → occurs version)
    (irrelevant : Dropped seen item) : UpToDate agree (seen ++ [item]) sent := by
  obtain ⟨dropped, old, new, brings, oldHeld, irrelevant⟩ := irrelevant
  intro key version holds
  rcases holds_append.mp holds with alsoBrings | ⟨heldBefore, _⟩
  · obtain ⟨rfl, rfl⟩ := brings.unique alsoBrings
    obtain ⟨received, latest, agrees⟩ := upToDate key old oldHeld
    obtain ⟨oldItem, member, oldBrought⟩ := oldHeld.latest.brought
    have oldOccurs : occurs old := occur oldItem (List.mem_append_left _ member) key old oldBrought
    have newOccurs : occurs version := occur item (by simp) key version brings
    exact ⟨received, latest,
      carries.update received old version oldOccurs newOccurs agrees irrelevant⟩
  · exact upToDate key version heldBefore

/-- What is sent of a stream stays up to date with it. -/
theorem Replays.upToDate (replays : Replays seen items outputs) (carries : Carries occurs agree)
    (occur : ∀ item ∈ seen ++ items, ∀ key version, Brings key version item → occurs version)
    (start : UpToDate agree seen sent) :
    UpToDate agree (seen ++ items) (sent ++ delivered outputs) := by
  induction replays generalizing sent with
  | nil => simpa [delivered] using start
  | @dropped seen rest item outputs irrelevant further ih =>
      rw [List.append_cons] at occur ⊢
      exact ih occur (start.dropped carries
        (fun each member => occur each (List.mem_append_left _ member)) irrelevant)
  | @passed seen rest item outputs relevant further ih =>
      rw [List.append_cons] at occur ⊢
      have onward : UpToDate agree (seen ++ [item] ++ rest) (sent ++ [item] ++ delivered outputs) :=
        ih occur (start.passed carries)
      simpa [delivered] using onward

/-- At the end of a stream each object that the filter knows has been let through, in a version
that agrees with the last one that was seen. -/
def KeepsUp (agree : α → α → Prop) (items : List (Except ε (Event α))) : Prop :=
  ∃ (filter : RelevanceFilter α) (outputs : List (Option (Except ε (Event α)))),
    RelevanceFilter.follow? {} items = some filter ∧
    RelevanceFilter.run? {} items = some outputs ∧
    ∀ key version, filter.lastSeen.get? key = some version →
      Latest key version items ∧
        ∃ received, Latest key received (delivered outputs) ∧ agree received version

theorem Carries.keepsUp (carries : Carries occurs agree) (named : ∀ item ∈ items, Named item)
    (occur : ∀ item ∈ items, ∀ key version, Brings key version item → occurs version) :
    KeepsUp agree items := by
  obtain ⟨filter, outputs, followed, ran, mirrors, replays⟩ :=
    RelevanceFilter.mirrors_empty.run named
  have nothingHeld : UpToDate agree ([] : List (Except ε (Event α))) [] :=
    fun _ _ holds => absurd holds.live not_splits_nil
  have upToDate := replays.upToDate carries occur nothingHeld
  refine ⟨filter, outputs, followed, ran, ?_⟩
  intro key version found
  have holds := (mirrors.lastSeen key version).mp found
  exact ⟨holds.latest, upToDate key version holds⟩

end Carries

section Kinds

theorem carries_shoot : Carries (fun _ : Shoot => True)
    (fun received seen => received.advertisedAddresses = seen.advertisedAddresses) where
  refl := fun _ => rfl
  update := by
    intro received old new _ _ agrees irrelevant
    have same : old.advertisedAddresses = new.advertisedAddresses := by
      simpa [Watched.updateMatters, Shoot.updateMatters] using irrelevant
    exact agrees.trans same

theorem sameKubeconfig_of_not_updateMatters {old new : ConfigMap}
    (irrelevant : old.updateMatters new = false) : old.SameKubeconfig new := by
  have sameRole (same : old.roleLabel? = new.roleLabel?) :
      Artifact.hasRole old = Artifact.hasRole new :=
    congrArg (· == some Artifact.role) same
  simp only [ConfigMap.updateMatters, Bool.and_eq_false_iff, Bool.or_eq_false_iff,
    bne_eq_false_iff_eq] at irrelevant
  rcases irrelevant with unlabelled | ⟨same, sameText⟩
  · exact .inl unlabelled
  · cases labelled : Artifact.hasRole old with
    | false => exact .inl ⟨labelled, (sameRole same).symm.trans labelled⟩
    | true => exact .inr ⟨labelled, (sameRole same).symm.trans labelled, sameText⟩

private theorem sameKubeconfig_trans {first second third : ConfigMap}
    (before : first.SameKubeconfig second) (after : second.SameKubeconfig third) :
    first.SameKubeconfig third := by
  rcases before with ⟨firstOther, secondOther⟩ | ⟨firstLabelled, secondLabelled, same⟩
  · rcases after with ⟨_, thirdOther⟩ | ⟨secondLabelled, _, _⟩
    · exact .inl ⟨firstOther, thirdOther⟩
    · cases secondOther.symm.trans secondLabelled
  · rcases after with ⟨secondOther, _⟩ | ⟨_, thirdLabelled, sameAgain⟩
    · cases secondOther.symm.trans secondLabelled
    · exact .inr ⟨firstLabelled, thirdLabelled, same.trans sameAgain⟩

theorem carries_configMap : Carries (fun _ : ConfigMap => True) ConfigMap.SameKubeconfig where
  refl := by
    intro version
    cases labelled : Artifact.hasRole version with
    | false => exact .inl ⟨labelled, labelled⟩
    | true => exact .inr ⟨labelled, labelled, rfl⟩
  update := by
    intro received old new _ _ agrees irrelevant
    exact sameKubeconfig_trans agrees (sameKubeconfig_of_not_updateMatters irrelevant)

/-- Where no certificate authority is malformed, one that can be read again after it could not be
read is relevant. -/
private theorem covers_of_not_updateMatters {old new : ShootState} (sane : old.Sane)
    (irrelevant : old.updateMatters new = false) : old.Covers new := by
  intro authority after
  unfold ShootState.updateMatters at irrelevant
  rw [after] at irrelevant
  rcases sane with ⟨held, before⟩ | pending
  · rw [before] at irrelevant ⊢
    exact congrArg _ (by simpa using irrelevant)
  · rw [pending] at irrelevant
    cases irrelevant

theorem carries_shootState : Carries ShootState.Sane ShootState.Covers where
  refl := fun _ _ read => read
  update := by
    intro received old new oldSane _ agrees irrelevant authority after
    exact agrees authority (covers_of_not_updateMatters oldSane irrelevant authority after)

end Kinds

variable {ε : Type}

/-- Updates that are left out never add up to a change that is lost. Of a shoot the addresses have
been let through, of a ConfigMap whether it is a kubeconfig and which one, and of a state, as long
as none is malformed, the certificate authority that can be read. -/
theorem deliveries_keep_up :
    (∀ items : List (Except ε (Event Shoot)), (∀ item ∈ items, Named item) →
      KeepsUp (fun received seen => received.advertisedAddresses = seen.advertisedAddresses)
        items) ∧
    (∀ items : List (Except ε (Event ConfigMap)), (∀ item ∈ items, Named item) →
      KeepsUp ConfigMap.SameKubeconfig items) ∧
    ∀ items : List (Except ε (Event ShootState)), (∀ item ∈ items, Named item) →
      (∀ item ∈ items, ∀ key state, Brings key state item → state.Sane) →
      KeepsUp ShootState.Covers items := by
  refine ⟨?_, ?_, ?_⟩
  · intro items named
    exact carries_shoot.keepsUp named fun _ _ _ _ _ => trivial
  · intro items named
    exact carries_configMap.keepsUp named fun _ _ _ _ _ => trivial
  · intro items named sane
    exact carries_shootState.keepsUp named sane

namespace Sample

def shootStateWith (generated : List GeneratedData) : ShootState where
  metadata := { name := some "foo", inNamespace? := some "garden-dev" }
  generated

def provisioned : ShootState :=
  shootStateWith [⟨"ca", "certificate", .object [("ca.crt", .text "QUJD")]⟩]

def configMapWith (role text : String) : ConfigMap where
  metadata := {
    name := some "foo.kubeconfig"
    inNamespace? := some "garden-dev"
    labels := some (.singleton Artifact.roleLabel role) }
  data := some (.singleton Artifact.dataKey text)

/-- The certificate authority is taken back, which is left out, and provided again. -/
def reprovisioned : List (Except Unit (Event ShootState)) :=
  [.ok (.apply provisioned), .ok (.apply (shootStateWith [])), .error (), .ok (.apply provisioned)]

/-- A kubeconfig that is none for a while, in which a change is left out. -/
def relabelled : List (Except Unit (Event ConfigMap)) :=
  [.ok (.apply (configMapWith "kubeconfig" "a")), .ok (.apply (configMapWith "other" "a")),
    .ok (.apply (configMapWith "another" "b")), .ok .init,
    .ok (.initApply (configMapWith "kubeconfig" "a")), .ok .initDone]

private theorem sane_provisioned : provisioned.Sane := by
  have read : (TrustAnchor.ofShootState provisioned).toOption.isSome = true := by
    decide +kernel
  obtain ⟨authority, read⟩ := Option.isSome_iff_exists.mp read
  exact .inl ⟨authority, toOption_eq_some_iff.mp read⟩

private theorem sane_reprovisioned :
    ∀ item ∈ reprovisioned, ∀ key state, Brings key state item → state.Sane := by
  intro item member key state brings
  simp only [reprovisioned, List.mem_cons, List.not_mem_nil, or_false] at member
  rcases member with rfl | rfl | rfl | rfl
  · obtain ⟨rfl, _⟩ : state = provisioned ∧ _ := by simpa [Brings, eq_comm] using brings
    exact sane_provisioned
  · obtain ⟨rfl, _⟩ : state = shootStateWith [] ∧ _ := by simpa [Brings, eq_comm] using brings
    exact .inr rfl
  · simp [Brings] at brings
  · obtain ⟨rfl, _⟩ : state = provisioned ∧ _ := by simpa [Brings, eq_comm] using brings
    exact sane_provisioned

end Sample

theorem deliveries_keep_up_sample :
    KeepsUp (fun received seen : Shoot => received.advertisedAddresses = seen.advertisedAddresses)
        RelevanceFilter.Sample.relisted ∧
      KeepsUp ConfigMap.SameKubeconfig Sample.relabelled ∧
      KeepsUp ShootState.Covers Sample.reprovisioned := by
  obtain ⟨ofShoots, ofConfigMaps, ofStates⟩ := @deliveries_keep_up Unit
  refine ⟨ofShoots _ RelevanceFilter.Sample.named_relisted, ofConfigMaps _ ?_, ofStates _ ?_ ?_⟩
  · simp [Sample.relabelled, Named, Watched.metadata, Sample.configMapWith]
  · simp [Sample.reprovisioned, Named, Watched.metadata, Sample.provisioned, Sample.shootStateWith]
  · exact Sample.sane_reprovisioned

end Watch

end ShootKubeconfig
