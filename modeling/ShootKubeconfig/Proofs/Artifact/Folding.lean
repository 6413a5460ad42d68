import ShootKubeconfig.Proofs.Artifact.Merge

namespace ShootKubeconfig.Artifact

section Owners

variable {owner other : OwnerReference} {owners : List OwnerReference}

/-- The reference makes somebody else than the owner the controller. -/
def Foreign (owner other : OwnerReference) : Prop :=
  other.controller = some true ∧ other.uid ≠ owner.uid

theorem foreign_iff :
    Foreign owner other ↔ (other.isController && other.uid != owner.uid) = true := by
  simp [Foreign, OwnerReference.isController]

theorem foreignController?_eq_some_iff :
    foreignController? owner.uid owners = some other ↔
      ∃ front back, owners = front ++ other :: back ∧
        (∀ earlier ∈ front, ¬Foreign owner earlier) ∧ Foreign owner other := by
  simp only [foreignController?, List.find?_eq_some_iff_append, foreign_iff, Bool.not_eq_true',
    Bool.not_eq_true]
  constructor
  · rintro ⟨foreign, front, back, split, earlier⟩
    exact ⟨front, back, split, earlier, foreign⟩
  · rintro ⟨front, back, split, earlier, foreign⟩
    exact ⟨foreign, front, back, split, earlier⟩

private theorem foreignController?_eq_none_iff_foreign :
    foreignController? owner.uid owners = none ↔ ∀ other ∈ owners, ¬Foreign owner other := by
  simp only [foreignController?, List.find?_eq_none, foreign_iff]

theorem putOwner_eq_self_iff :
    putOwner owner owners = owners ↔
      owners.find? (fun other => other.uid = owner.uid) = some owner := by
  induction owners with
  | nil => simp [putOwner]
  | cons first rest ih =>
      by_cases same : first.uid = owner.uid
      · simp [putOwner, same, eq_comm]
      · simp [putOwner, same, ih]

end Owners

section Settled

variable {existing desired : ConfigMap} {owner : OwnerReference}

theorem merged_eq_self_iff :
    merged existing desired owner = existing ↔
      existing.metadata.label? roleLabel = some role ∧
        existing.metadata.owners.find? (fun other => other.uid = owner.uid) = some owner ∧
        existing.data = desired.data := by
  constructor
  · intro same
    refine ⟨?_, ?_, ?_⟩
    · rw [← same, label?_merged, if_pos rfl]
    · rw [← putOwner_eq_self_iff, ← owners_merged existing desired, same]
    · rw [← same, data_merged]
  · rintro ⟨labelled, found, sameData⟩
    obtain ⟨labels, hasLabels, hasRole⟩ := Option.bind_eq_some_iff.mp labelled
    have sameLabels : some ((existing.metadata.labels.getD .empty).insert roleLabel role) =
        existing.metadata.labels := by
      rw [hasLabels, Option.getD_some, Table.insert_of_get? hasRole]
    -- Where references are missing altogether, the owner is not among them.
    have sameReferences : some (putOwner owner existing.metadata.owners) =
        existing.metadata.ownerReferences := by
      rw [putOwner_eq_self_iff.mpr found]
      cases references : existing.metadata.ownerReferences with
      | none => simp [Metadata.owners, references] at found
      | some owners => simp [Metadata.owners, references]
    rw [merged, sameLabels, sameReferences, ← sameData]

end Settled

/-- What is written over an existing ConfigMap: the role is added, one owner is put in its place,
the data is replaced, and nothing else is touched. -/
structure Folds (existing desired : ConfigMap) (owner : OwnerReference) (result : ConfigMap) :
    Prop where
  rest : result = { existing with
    metadata := { existing.metadata with
      labels := result.metadata.labels
      ownerReferences := result.metadata.ownerReferences }
    data := desired.data }
  labels : ∀ name, result.metadata.label? name =
    if name = roleLabel then some role else existing.metadata.label? name
  owners :
    (∃ front old back, existing.metadata.owners = front ++ old :: back ∧
        (∀ earlier ∈ front, earlier.uid ≠ owner.uid) ∧ old.uid = owner.uid ∧
        result.metadata.owners = front ++ owner :: back) ∨
      ((∀ other ∈ existing.metadata.owners, other.uid ≠ owner.uid) ∧
        result.metadata.owners = existing.metadata.owners ++ [owner])

theorem folds_merged (existing desired : ConfigMap) (owner : OwnerReference) :
    Folds existing desired owner (merged existing desired owner) where
  rest := rfl
  labels := label?_merged existing desired owner
  owners := putOwner_cases owner existing.metadata.owners

section Merge

variable {existing desired result : ConfigMap} {owner : OwnerReference} {failure : Failure}

theorem merge_eq_error_iff (head : desired.metadata.owners.head? = some owner) :
    merge existing desired = .error failure ↔
      ∃ other, foreignController? owner.uid existing.metadata.owners = some other ∧
        failure =
          .alreadyOwned existing.metadata.anyName (other.kind ++ "/" ++ other.name) := by
  simp only [merge, head]
  cases foreignController? owner.uid existing.metadata.owners with
  | none => simp
  | some other => simp [eq_comm]

private theorem exists_merge_error_iff (head : desired.metadata.owners.head? = some owner) :
    (∃ failure, merge existing desired = .error failure) ↔
      ∃ other ∈ existing.metadata.owners, Foreign owner other := by
  constructor
  · rintro ⟨failure, refused⟩
    obtain ⟨other, found, _⟩ := (merge_eq_error_iff head).mp refused
    obtain ⟨front, back, split, _, foreign⟩ := foreignController?_eq_some_iff.mp found
    exact ⟨other, by simp [split], foreign⟩
  · rintro ⟨other, member, foreign⟩
    cases found : foreignController? owner.uid existing.metadata.owners with
    | none => exact absurd foreign (foreignController?_eq_none_iff_foreign.mp found other member)
    | some first => exact ⟨_, (merge_eq_error_iff head).mpr ⟨first, found, rfl⟩⟩

private theorem merge_eq_none_iff_settled (head : desired.metadata.owners.head? = some owner) :
    merge existing desired = .ok none ↔
      (∀ other ∈ existing.metadata.owners, ¬Foreign owner other) ∧
        existing.metadata.label? roleLabel = some role ∧
        existing.metadata.owners.find? (fun other => other.uid = owner.uid) = some owner ∧
        existing.data = desired.data := by
  simp only [merge_eq_none_iff, head, Option.some.injEq, exists_eq_left',
    foreignController?_eq_none_iff_foreign, merged_eq_self_iff]

private theorem merge_of_unsettled (head : desired.metadata.owners.head? = some owner)
    (uncontested : ∀ other ∈ existing.metadata.owners, ¬Foreign owner other)
    (unsettled : merge existing desired ≠ .ok none) :
    merge existing desired = .ok (some (merged existing desired owner)) := by
  have merging := merge_eq_ok_iff.mpr
    ⟨owner, head, foreignController?_eq_none_iff_foreign.mpr uncontested, rfl⟩
  split at merging
  · exact absurd merging unsettled
  · exact merging

end Merge

section Desired

variable {shoot : Shoot} {kubeconfig : String} {object : ConfigMap}

private theorem owners_desired (made : desired shoot kubeconfig = .ok object) :
    ∃ owner, ownerReference shoot = .ok owner ∧ object.metadata.owners = [owner] := by
  obtain ⟨owner, referred, rfl⟩ := desired_eq_ok_iff.mp made
  exact ⟨owner, referred, rfl⟩

/-- A merge is refused where somebody else is the controller, who is named. Otherwise it writes
nothing if all is as desired, or else just what is desired, after which all is as desired. -/
theorem merge_exact (made : desired shoot kubeconfig = .ok object) (existing : ConfigMap) :
    ∃ owner, ownerReference shoot = .ok owner ∧ object.metadata.owners = [owner] ∧
      ((∃ failure, merge existing object = .error failure) ↔
        ∃ other ∈ existing.metadata.owners, Foreign owner other) ∧
      (∀ failure, merge existing object = .error failure ↔
        ∃ other, (∃ front back, existing.metadata.owners = front ++ other :: back ∧
            (∀ earlier ∈ front, ¬Foreign owner earlier) ∧ Foreign owner other) ∧
          failure =
            .alreadyOwned existing.metadata.anyName (other.kind ++ "/" ++ other.name)) ∧
      (merge existing object = .ok none ↔
        (∀ other ∈ existing.metadata.owners, ¬Foreign owner other) ∧
          existing.metadata.label? roleLabel = some role ∧
          existing.metadata.owners.find? (fun other => other.uid = owner.uid) = some owner ∧
          existing.data = object.data) ∧
      ((∀ other ∈ existing.metadata.owners, ¬Foreign owner other) →
        merge existing object ≠ .ok none →
          ∃ result, merge existing object = .ok (some result) ∧
            Folds existing object owner result ∧ merge result object = .ok none) := by
  obtain ⟨owner, referred, owners⟩ := owners_desired made
  have head : object.metadata.owners.head? = some owner := congrArg List.head? owners
  refine ⟨owner, referred, owners, exists_merge_error_iff head, fun failure => ?_,
    merge_eq_none_iff_settled head, ?_⟩
  · rw [merge_eq_error_iff head]
    simp only [foreignController?_eq_some_iff]
  · intro uncontested unsettled
    have written := merge_of_unsettled head uncontested unsettled
    exact ⟨_, written, folds_merged existing object owner, merge_result written⟩

end Desired

namespace Sample

def shoot : Shoot where
  metadata := { name := some "foo", inNamespace? := some "garden-dev", uid := some "uid-foo" }
  kubernetesVersion := "1.27.3"

def reference : OwnerReference where
  apiVersion := Shoot.apiVersion
  blockOwnerDeletion := some false
  controller := some true
  kind := Shoot.kind
  name := "foo"
  uid := "uid-foo"

def wanted : ConfigMap where
  metadata := {
    name := some "foo.kubeconfig"
    inNamespace? := some "garden-dev"
    labels := some (.singleton roleLabel role)
    ownerReferences := some [reference] }
  data := some (.singleton dataKey "clusters: []")

def untended : ConfigMap where
  metadata := {
    name := some "foo.kubeconfig"
    inNamespace? := some "garden-dev"
    labels := some (.singleton "team" "blue")
    ownerReferences := some [
      { apiVersion := "v1", kind := "Project", name := "dev", uid := "uid-dev" },
      { reference with controller := none }]
    resourceVersion := some "7" }
  data := some (.singleton "notes" "by hand")

end Sample

theorem merge_exact_sample :
    desired Sample.shoot "clusters: []" = .ok Sample.wanted ∧
      ∃ result, merge Sample.untended Sample.wanted = .ok (some result) ∧
        Folds Sample.untended Sample.wanted Sample.reference result ∧
        merge result Sample.wanted = .ok none := by
  have made : desired Sample.shoot "clusters: []" = .ok Sample.wanted := rfl
  obtain ⟨owner, referred, _, _, _, _, folding⟩ := merge_exact made Sample.untended
  obtain rfl : Sample.reference = owner := Except.ok.inj referred
  refine ⟨made, folding ?_ ?_⟩
  · simp [Sample.untended, Metadata.owners, Foreign, Sample.reference]
  · intro settled
    obtain ⟨_, labelled, _, _⟩ := (merge_eq_none_iff_settled rfl).mp settled
    have unlabelled : Sample.untended.metadata.label? roleLabel = none := by decide +kernel
    cases unlabelled.symm.trans labelled

section Controllers

variable {owner : OwnerReference} {owners front back : List OwnerReference}

/-- The controller, if there is one, is the first of all references to the owner. -/
def LeadsIn (owners : List OwnerReference) (owner : OwnerReference) : Prop :=
  ∀ other ∈ owners, other.isController = true →
    owners.find? (fun first => first.uid = owner.uid) = some other

private theorem controllers_eq_nil (uncontested : ∀ other ∈ owners, ¬Foreign owner other)
    (others : ∀ other ∈ owners, other.uid ≠ owner.uid) :
    owners.filter OwnerReference.isController = [] := by
  rw [List.filter_eq_nil_iff]
  intro other member controls
  exact uncontested other member ⟨by simpa [OwnerReference.isController] using controls,
    others other member⟩

private theorem find?_of_first {first : OwnerReference} (others : ∀ other ∈ front, other.uid ≠ owner.uid)
    (same : first.uid = owner.uid) :
    (front ++ first :: back).find? (fun other => other.uid = owner.uid) = some first := by
  rw [List.find?_eq_some_iff_append]
  exact ⟨by simpa using same, front, back, rfl, by simpa using others⟩

private theorem leadsIn_split_iff {old : OwnerReference}
    (uncontrolled : front.filter OwnerReference.isController = [])
    (others : ∀ other ∈ front, other.uid ≠ owner.uid) (same : old.uid = owner.uid) :
    LeadsIn (front ++ old :: back) owner ↔
      ∀ other ∈ back, other.isController = true → other = old := by
  unfold LeadsIn
  rw [find?_of_first others same]
  constructor
  · intro leads other member controlling
    exact (Option.some.inj (leads other (by simp [member]) controlling)).symm
  · intro leads other member controlling
    rcases List.mem_append.mp member with inFront | inRest
    · exact absurd controlling (List.filter_eq_nil_iff.mp uncontrolled other inFront)
    · rcases List.mem_cons.mp inRest with rfl | inBack
      · rfl
      · rw [leads other inBack controlling]

/-- Two equal references are two controllers. -/
theorem uncontrolled_iff {old : OwnerReference}
    (single : ((old :: back).filter OwnerReference.isController).length ≤ 1) :
    back.filter OwnerReference.isController = [] ↔
      ∀ other ∈ back, other.isController = true → other = old := by
  rw [List.filter_eq_nil_iff]
  constructor
  · intro uncontrolled other member controlling
    exact absurd controlling (uncontrolled other member)
  · intro leads other member controlling
    obtain rfl := leads other member controlling
    rw [List.filter_cons_of_pos controlling, List.length_cons] at single
    have none : back.filter OwnerReference.isController = [] :=
      List.length_eq_zero_iff.mp (by omega)
    exact List.filter_eq_nil_iff.mp none other member controlling

/-- If only one reference controls an object at most, then after the owner is put in its place the
owner is the only one, unless the one that did stands behind another reference to the owner. -/
theorem controllers_putOwner_iff (controls : owner.isController = true)
    (uncontested : ∀ other ∈ owners, ¬Foreign owner other)
    (single : (owners.filter OwnerReference.isController).length ≤ 1) :
    (putOwner owner owners).filter OwnerReference.isController = [owner] ↔
      LeadsIn owners owner := by
  rcases putOwner_cases owner owners with
    ⟨front, old, back, rfl, others, same, put⟩ | ⟨others, put⟩
  · have uncontrolled : front.filter OwnerReference.isController = [] :=
      controllers_eq_nil (fun other member => uncontested other (by simp [member])) others
    rw [List.filter_append, uncontrolled, List.nil_append] at single
    -- All that can stand beside the owner is a controller behind the reference that it replaces.
    rw [put, List.filter_append, uncontrolled, List.nil_append, List.filter_cons_of_pos controls,
      List.cons_eq_cons, leadsIn_split_iff uncontrolled others same, ← uncontrolled_iff single]
    exact and_iff_right rfl
  · have uncontrolled := controllers_eq_nil uncontested others
    rw [put, List.filter_append, uncontrolled]
    refine iff_of_true (by simp [controls]) fun other member controlling => ?_
    exact absurd controlling (List.filter_eq_nil_iff.mp uncontrolled other member)

private theorem leadsIn_of_find? {first : OwnerReference}
    (found : owners.find? (fun other => other.uid = owner.uid) = some first)
    (controls : first.isController = true)
    (single : (owners.filter OwnerReference.isController).length ≤ 1) : LeadsIn owners owner := by
  intro other member controlling
  have firstMember := List.mem_filter.mpr ⟨List.mem_of_find?_eq_some found, controls⟩
  have otherMember := List.mem_filter.mpr ⟨member, controlling⟩
  have same : first = other := by
    generalize owners.filter OwnerReference.isController = controllers at *
    rcases controllers with _ | ⟨only, _ | ⟨second, rest⟩⟩
    · cases firstMember
    · rw [List.mem_singleton.mp firstMember, List.mem_singleton.mp otherMember]
    · simp only [List.length_cons] at single
      omega
  rw [found, same]

end Controllers

section SoleController

variable {shoot : Shoot} {kubeconfig : String} {existing object : ConfigMap}

/-- A ConfigMap that nobody else controls has the shoot as its only controller after a merge, as
long as its controller was the first of the references to the shoot. Where nothing has to be
written, the shoot is the only controller already. -/
theorem sole_controller_iff (made : desired shoot kubeconfig = .ok object)
    (single : (existing.metadata.owners.filter OwnerReference.isController).length ≤ 1) :
    ∃ owner, ownerReference shoot = .ok owner ∧ object.metadata.owners = [owner] ∧
      (∀ result, merge existing object = .ok (some result) →
        (result.metadata.owners.filter OwnerReference.isController = [owner] ↔
          LeadsIn existing.metadata.owners owner)) ∧
      (merge existing object = .ok none →
        existing.metadata.owners.filter OwnerReference.isController = [owner]) := by
  obtain ⟨owner, referred, owners⟩ := owners_desired made
  have controls : owner.isController = true := by
    obtain ⟨_, _, controls, _⟩ := ownerReference_eq_ok_iff.mp referred
    simp [OwnerReference.isController, controls]
  have head : object.metadata.owners.head? = some owner := congrArg List.head? owners
  refine ⟨owner, referred, owners, ?_, ?_⟩
  · intro result written
    obtain ⟨first, headFirst, noForeign, rfl, _⟩ := merge_eq_some_iff.mp written
    obtain rfl : owner = first := Option.some.inj (head.symm.trans headFirst)
    exact controllers_putOwner_iff controls
      (foreignController?_eq_none_iff_foreign.mp noForeign) single
  · intro settled
    obtain ⟨uncontested, _, found, _⟩ := (merge_eq_none_iff_settled head).mp settled
    have sole := (controllers_putOwner_iff controls uncontested single).mpr
      (leadsIn_of_find? found controls single)
    rwa [putOwner_eq_self_iff.mpr found] at sole

end SoleController

namespace Sample

/-- The shoot is the controller already, by a reference that is not quite the desired one. -/
def blocking : ConfigMap :=
  { wanted with
    metadata := { wanted.metadata with
      ownerReferences := some [
        { apiVersion := "v1", kind := "Project", name := "dev", uid := "uid-dev" },
        { reference with blockOwnerDeletion := some true }] } }

/-- The shoot is referred to twice, and is the controller by the second reference. -/
def doubled : ConfigMap :=
  { wanted with
    metadata := { wanted.metadata with
      ownerReferences := some [
        { reference with controller := none },
        { reference with blockOwnerDeletion := some true }]
      resourceVersion := some "7" } }

end Sample

theorem sole_controller_sample :
    ∃ result, merge Sample.blocking Sample.wanted = .ok (some result) ∧
      result.metadata.owners.filter OwnerReference.isController = [Sample.reference] := by
  have made : desired Sample.shoot "clusters: []" = .ok Sample.wanted := rfl
  have single : (Sample.blocking.metadata.owners.filter OwnerReference.isController).length ≤ 1 := by
    decide +kernel
  obtain ⟨owner, referred, _, sole, _⟩ := sole_controller_iff made single
  obtain rfl : Sample.reference = owner := Except.ok.inj referred
  have written : merge Sample.blocking Sample.wanted =
      .ok (some (merged Sample.blocking Sample.wanted Sample.reference)) :=
    merge_eq_some_iff.mpr ⟨Sample.reference, rfl, by decide +kernel, rfl, by decide +kernel⟩
  have leads : LeadsIn Sample.blocking.metadata.owners Sample.reference :=
    leadsIn_of_find? rfl rfl single
  exact ⟨_, written, (sole _ written).mpr leads⟩

/-- A second reference to the shoot stays the controller that it was, beside the first. -/
theorem two_controllers_doubled :
    desired Sample.shoot "clusters: []" = .ok Sample.wanted ∧
      (Sample.doubled.metadata.owners.filter OwnerReference.isController).length = 1 ∧
      ∃ result, merge Sample.doubled Sample.wanted = .ok (some result) ∧
        (result.metadata.owners.filter OwnerReference.isController).length = 2 := by
  refine ⟨rfl, by decide +kernel, merged Sample.doubled Sample.wanted Sample.reference, ?_,
    by decide +kernel⟩
  exact merge_eq_some_iff.mpr ⟨Sample.reference, rfl, by decide +kernel, rfl, by decide +kernel⟩

end ShootKubeconfig.Artifact
