import ShootKubeconfig.Key
import ShootKubeconfig.Proofs.Except

/-!
What folding a desired ConfigMap into an existing one keeps and what it changes.

A ConfigMap to which nothing has to be written is settled. Whatever a merge or a creation writes is
settled, also under a new resource version.
-/

namespace ShootKubeconfig.Artifact

/-- The first reference to the owner is replaced, or the owner is added where there is none. -/
theorem putOwner_cases (owner : OwnerReference) (owners : List OwnerReference) :
    (∃ front old back, owners = front ++ old :: back ∧
        (∀ earlier ∈ front, earlier.uid ≠ owner.uid) ∧ old.uid = owner.uid ∧
        putOwner owner owners = front ++ owner :: back) ∨
      ((∀ other ∈ owners, other.uid ≠ owner.uid) ∧ putOwner owner owners = owners ++ [owner]) := by
  induction owners with
  | nil => exact .inr ⟨by simp, rfl⟩
  | cons first rest ih =>
      by_cases same : first.uid = owner.uid
      · exact .inl ⟨[], first, rest, rfl, by simp, same, by simp [putOwner, same]⟩
      · rcases ih with ⟨front, old, back, rfl, earlier, found, put⟩ | ⟨absent, put⟩
        · exact .inl ⟨first :: front, old, back, rfl, List.forall_mem_cons.mpr ⟨same, earlier⟩,
            found, by simp [putOwner, same, put]⟩
        · exact .inr ⟨List.forall_mem_cons.mpr ⟨same, absent⟩, by simp [putOwner, same, put]⟩

private theorem mem_of_mem_putOwner {owner other : OwnerReference} {owners : List OwnerReference}
    (member : other ∈ putOwner owner owners) : other = owner ∨ other ∈ owners := by
  rcases putOwner_cases owner owners with ⟨front, old, back, rfl, _, _, put⟩ | ⟨_, put⟩
  · rw [put, List.mem_append, List.mem_cons] at member
    rcases member with inFront | rfl | inBack
    · exact .inr (List.mem_append_left _ inFront)
    · exact .inl rfl
    · exact .inr (List.mem_append_right _ (List.mem_cons_of_mem old inBack))
  · rw [put, List.mem_append, List.mem_singleton] at member
    exact member.symm

theorem putOwner_putOwner (owner : OwnerReference) (owners : List OwnerReference) :
    putOwner owner (putOwner owner owners) = putOwner owner owners := by
  induction owners with
  | nil => simp [putOwner]
  | cons other rest ih =>
      by_cases same : other.uid = owner.uid
      · simp [putOwner, same]
      · simp [putOwner, same, ih]

/-- A reference is put in the place of at most one other, which has its identifier. -/
theorem putOwner_split (owner : OwnerReference) (owners : List OwnerReference) :
    ∃ front replaced back,
      owners = front ++ replaced ++ back ∧
        putOwner owner owners = front ++ owner :: back ∧
        (∀ old ∈ replaced, old.uid = owner.uid) ∧ replaced.length ≤ 1 := by
  rcases putOwner_cases owner owners with ⟨front, old, back, split, _, same, put⟩ | ⟨_, put⟩
  · exact ⟨front, [old], back, by simp [split], put, by simpa using same, Nat.le_refl 1⟩
  · exact ⟨owners, [], [], by simp, by simpa using put, by simp, by simp⟩

theorem foreignController?_eq_none_iff {uid : String} {owners : List OwnerReference} :
    foreignController? uid owners = none ↔
      ∀ other ∈ owners, other.isController = true → other.uid = uid := by
  simp [foreignController?, List.find?_eq_none]

private theorem foreignController?_putOwner {owner : OwnerReference} {owners : List OwnerReference}
    (noForeign : foreignController? owner.uid owners = none) :
    foreignController? owner.uid (putOwner owner owners) = none := by
  rw [foreignController?_eq_none_iff] at noForeign ⊢
  intro other member controls
  rcases mem_of_mem_putOwner member with rfl | existed
  · rfl
  · exact noForeign other existed controls

section Merged

variable (existing desired : ConfigMap) (owner : OwnerReference)

@[simp] theorem data_merged : (merged existing desired owner).data = desired.data := rfl

@[simp] theorem owners_merged :
    (merged existing desired owner).metadata.owners = putOwner owner existing.metadata.owners := rfl

@[simp] theorem resourceVersion_merged :
    (merged existing desired owner).metadata.resourceVersion =
      existing.metadata.resourceVersion := rfl

@[simp] theorem key_merged : (merged existing desired owner).metadata.key = existing.metadata.key :=
  rfl

theorem label?_merged (name : String) :
    (merged existing desired owner).metadata.label? name =
      if name = roleLabel then some role else existing.metadata.label? name := by
  cases labelled : existing.metadata.labels <;>
    simp [merged, Metadata.label?, labelled]

theorem merged_merged :
    merged (merged existing desired owner) desired owner = merged existing desired owner := by
  simp [merged, Metadata.owners, putOwner_putOwner, Table.insert_insert]

private theorem merged_withVersion (version : String) :
    merged (existing.withVersion version) desired owner =
      (merged existing desired owner).withVersion version := rfl

end Merged

section Merge

variable {existing desired result : ConfigMap}

/-- A merge succeeds only for a desired owner beside which nobody else controls the object. -/
theorem merge_eq_ok_iff {outcome : Option ConfigMap} :
    merge existing desired = .ok outcome ↔
      ∃ owner, desired.metadata.owners.head? = some owner ∧
        foreignController? owner.uid existing.metadata.owners = none ∧
        outcome = if merged existing desired owner = existing then none
          else some (merged existing desired owner) := by
  unfold merge
  cases head : desired.metadata.owners.head? with
  | none => simp
  | some owner =>
      cases foreign : foreignController? owner.uid existing.metadata.owners with
      | some other => simp [foreign]
      | none => simp [foreign, eq_comm]

theorem merge_eq_none_iff :
    merge existing desired = .ok none ↔
      ∃ owner, desired.metadata.owners.head? = some owner ∧
        foreignController? owner.uid existing.metadata.owners = none ∧
        merged existing desired owner = existing := by
  rw [merge_eq_ok_iff]
  simp

theorem merge_eq_some_iff :
    merge existing desired = .ok (some result) ↔
      ∃ owner, desired.metadata.owners.head? = some owner ∧
        foreignController? owner.uid existing.metadata.owners = none ∧
        result = merged existing desired owner ∧ result ≠ existing := by
  rw [merge_eq_ok_iff]
  refine exists_congr fun owner => and_congr_right fun _ => and_congr_right fun _ => ?_
  by_cases same : merged existing desired owner = existing
  · rw [if_pos same]
    constructor
    · intro impossible
      cases impossible
    · rintro ⟨rfl, changed⟩
      exact absurd same changed
  · rw [if_neg same, Option.some.injEq]
    constructor
    · rintro rfl
      exact ⟨rfl, same⟩
    · exact fun written => written.1

theorem resourceVersion_merge (written : merge existing desired = .ok (some result)) :
    result.metadata.resourceVersion = existing.metadata.resourceVersion := by
  obtain ⟨owner, _, _, rfl, _⟩ := merge_eq_some_iff.mp written
  exact resourceVersion_merged existing desired owner

theorem key_merge (written : merge existing desired = .ok (some result)) :
    result.metadata.key = existing.metadata.key := by
  obtain ⟨owner, _, _, rfl, _⟩ := merge_eq_some_iff.mp written
  exact key_merged existing desired owner

/-- A resource version of its own does not make an object differ from what is desired. -/
theorem merge_withVersion_eq_none (settled : merge existing desired = .ok none)
    (version : String) : merge (existing.withVersion version) desired = .ok none := by
  obtain ⟨owner, head, noForeign, same⟩ := merge_eq_none_iff.mp settled
  exact merge_eq_none_iff.mpr ⟨owner, head, noForeign, by rw [merged_withVersion, same]⟩

theorem merge_result (written : merge existing desired = .ok (some result)) :
    merge result desired = .ok none := by
  obtain ⟨owner, head, noForeign, rfl, _⟩ := merge_eq_some_iff.mp written
  exact merge_eq_none_iff.mpr
    ⟨owner, head, foreignController?_putOwner noForeign, merged_merged existing desired owner⟩

theorem merge_merged (written : merge existing desired = .ok (some result)) (version : String) :
    merge (result.withVersion version) desired = .ok none :=
  merge_withVersion_eq_none (merge_result written) version

end Merge

/-- One ConfigMap is written over another so that only the role, one owner, the data and the
version differ. -/
structure Overwrites (before stored : ConfigMap) (owner : OwnerReference) : Prop where
  rest : stored = { before with
    metadata := { before.metadata with
      labels := stored.metadata.labels
      ownerReferences := stored.metadata.ownerReferences
      resourceVersion := stored.metadata.resourceVersion }
    data := stored.data }
  labels : ∀ name, name ≠ roleLabel → stored.metadata.label? name = before.metadata.label? name
  owners : ∃ front replaced back,
    before.metadata.owners = front ++ replaced ++ back ∧
      stored.metadata.owners = front ++ owner :: back ∧
      (∀ old ∈ replaced, old.uid = owner.uid) ∧ replaced.length ≤ 1

theorem overwrites_merged (existing desired : ConfigMap) (owner : OwnerReference)
    (version : String) :
    Overwrites existing ((merged existing desired owner).withVersion version) owner where
  rest := rfl
  labels := by
    intro name other
    have labelled := label?_merged existing desired owner name
    rw [if_neg other] at labelled
    exact labelled
  owners := putOwner_split owner existing.metadata.owners

section Desired

variable {shoot : Shoot} {kubeconfig : String} {object stored : ConfigMap}

theorem ownerReference_eq_ok_iff {owner : OwnerReference} :
    ownerReference shoot = .ok owner ↔
      shoot.metadata.name = some owner.name ∧ shoot.metadata.uid = some owner.uid ∧
        owner.controller = some true ∧ owner.blockOwnerDeletion = some false ∧
        owner.apiVersion = Shoot.apiVersion ∧ owner.kind = Shoot.kind := by
  unfold ownerReference
  cases named : shoot.metadata.name with
  | none => simp
  | some name =>
      cases identified : shoot.metadata.uid with
      | none => simp
      | some uid =>
          constructor
          · intro made
            cases made
            exact ⟨rfl, rfl, rfl, rfl, rfl, rfl⟩
          · rintro ⟨sameName, sameUid, controls, unblocked, version, kind⟩
            cases owner
            simp_all

theorem desired_eq_ok_iff :
    desired shoot kubeconfig = .ok object ↔
      ∃ owner, ownerReference shoot = .ok owner ∧
        object = {
          metadata := {
            name := some (nameFor shoot.metadata.anyName)
            inNamespace? := shoot.metadata.inNamespace?
            labels := some (.singleton roleLabel role)
            ownerReferences := some [owner] }
          data := some (.singleton dataKey kubeconfig) } := by
  simp [desired, eq_comm (a := object)]

theorem key_desired (made : desired shoot kubeconfig = .ok object) :
    object.metadata.key = shoot.metadata.key.artifact := by
  obtain ⟨owner, _, rfl⟩ := desired_eq_ok_iff.mp made
  rfl

theorem merge_desired (made : desired shoot kubeconfig = .ok object) (version : String) :
    merge (object.withVersion version) object = .ok none := by
  obtain ⟨owner, _, rfl⟩ := desired_eq_ok_iff.mp made
  refine merge_eq_none_iff.mpr ⟨owner, rfl, ?_, ?_⟩
  · rw [foreignController?_eq_none_iff]
    intro other member _
    rw [List.mem_singleton.mp member]
  · simp [merged, ConfigMap.withVersion, Metadata.owners, putOwner, Table.singleton,
      Table.insert_insert]

theorem merged_of_merge_desired (made : desired shoot kubeconfig = .ok object)
    {result : ConfigMap} (written : merge stored object = .ok (some result)) :
    ∃ owner, ownerReference shoot = .ok owner ∧ result = merged stored object owner := by
  obtain ⟨owner, referred, rfl⟩ := desired_eq_ok_iff.mp made
  obtain ⟨first, head, _, same, _⟩ := merge_eq_some_iff.mp written
  cases Option.some.inj head
  exact ⟨owner, referred, same⟩

end Desired

theorem ensureSize_eq_ok_iff {object : ConfigMap} {limit : Nat} :
    ensureSize object limit = .ok () ↔ size object ≤ limit := by
  unfold ensureSize
  split <;> simp <;> omega

end ShootKubeconfig.Artifact
