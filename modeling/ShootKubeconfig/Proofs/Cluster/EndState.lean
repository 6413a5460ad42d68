import ShootKubeconfig.Proofs.Cluster.Undisturbed

/-!
What a cluster in memory holds after a reconcile that nobody disturbs.

A reconcile that tells of a kubeconfig leaves exactly the one that the objects ask for, whether it
has written it or found it. It tells of one whenever nothing is missing.
-/

namespace ShootKubeconfig.Cluster

open Reconcile

namespace Memory

/-- Nothing holds back the kubeconfig of a shoot and its state. -/
structure Ready (memory : Memory) (admission : Admission) (limit : Nat) (key : Key) (shoot : Shoot)
    (state : ShootState) : Prop where
  admitted : (admission.enter? key.namespaceName).isSome = true
  shootFound : memory.shoots.get? key = some shoot
  shootStays : shoot.terminating = false
  named : shoot.metadata.name.isSome = true
  identified : shoot.metadata.uid.isSome = true
  room : memory.HasRoom key
  stateFound : memory.shootStates.get? key = some state
  stateStays : state.terminating = false
  provided : Provided key shoot state memory.identity
  uncontrolled : ∀ existing, memory.configMaps.get? key.artifact = some existing →
    ∀ owner ∈ existing.metadata.owners, owner.isController = true →
      shoot.metadata.uid = some owner.uid
  fits : ∀ text object, Wanted key shoot state memory.identity text →
    Artifact.desired shoot text = .ok object →
      match memory.configMaps.get? key.artifact with
      | none => Artifact.size object ≤ limit
      | some existing =>
          ∀ merged, Artifact.merge existing object = .ok (some merged) →
            Artifact.size merged ≤ limit

section Ready

variable {memory : Memory} {admission : Admission} {limit : Nat} {key : Key} {shoot : Shoot}
  {state : ShootState}

private theorem Ready.exists_desired (ready : memory.Ready admission limit key shoot state) :
    ∃ text object owner, Wanted key shoot state memory.identity text ∧
      Artifact.desired shoot text = .ok object ∧ Artifact.ownerReference shoot = .ok owner ∧
      object.metadata.owners.head? = some owner := by
  obtain ⟨text, wanted⟩ := exists_wanted_iff.mpr ready.provided
  obtain ⟨name, named⟩ := Option.isSome_iff_exists.mp ready.named
  obtain ⟨uid, identified⟩ := Option.isSome_iff_exists.mp ready.identified
  have referred : Artifact.ownerReference shoot = .ok {
      apiVersion := Shoot.apiVersion, blockOwnerDeletion := some false, controller := some true
      kind := Shoot.kind, name, uid } := by
    rw [Artifact.ownerReference_eq_ok_iff]
    exact ⟨named, identified, rfl, rfl, rfl, rfl⟩
  exact ⟨text, _, _, wanted, Artifact.desired_eq_ok_iff.mpr ⟨_, referred, rfl⟩, referred, rfl⟩

private theorem Ready.run_eq_written {object : ConfigMap} {text : String}
    (ready : memory.Ready admission limit key shoot state)
    (wanted : Wanted key shoot state memory.identity text)
    (desired : Artifact.desired shoot text = .ok object) :
    (attempt admission limit key).run answer memory = memory.written limit key object := by
  rw [run_attempt, if_pos ready.admitted]
  exact run_reconcile_of_asks ⟨shoot, state, text, ready.shootFound, ready.shootStays,
    ready.stateFound, ready.stateStays, wanted, desired⟩ ready.room

theorem created_of_ready (kept : memory.Kept)
    (ready : memory.Ready admission limit key shoot state)
    (absent : memory.configMaps.get? key.artifact = none) :
    ((attempt admission limit key).run answer memory).1 = .ok .created := by
  obtain ⟨text, object, owner, wanted, desired, _, _⟩ := ready.exists_desired
  have fits : Artifact.size object ≤ limit := by
    simpa [absent] using ready.fits text object wanted desired
  rw [ready.run_eq_written wanted desired, written_absent kept _ absent,
    Artifact.ensureSize_eq_ok_iff.mpr fits]
  exact ⟨shoot, state, text, ready.shootFound, ready.shootStays, ready.stateFound,
    ready.stateStays, wanted, desired⟩

end Ready

namespace Sample

def key : Key := ⟨"garden-dev", "foo"⟩

def shoot : Shoot where
  metadata := { name := some "foo", inNamespace? := some "garden-dev", uid := some "uid-foo" }
  kubernetesVersion := "1.27.3"
  status := some { advertisedAddresses := [⟨"external", "https://api.foo.example"⟩] }

/-- A certificate in PEM form, with as little in it as there has to be. -/
def encodedCertificate : String :=
  "LS0tLS1CRUdJTiBDRVJUSUZJQ0FURS0tLS0tTUVBd05nSUJBVEFEQmdFcU1BQXdIaGNOTWpRd01UQXhNREF3TURBd1" ++
    "doY05NalF3TVRBeE1EQXdNREF3V2pBQU1BZ3dBd1lCS2dNQkFEQURCZ0VxQXdFQS0tLS0tRU5EIENFUlRJRklDQVRF" ++
    "LS0tLS0="

def state : ShootState where
  metadata := { name := some "foo", inNamespace? := some "garden-dev" }
  generated := [⟨"ca", "certificate", .object [("ca.crt", .text encodedCertificate)]⟩]

def leavingState : ShootState :=
  { state with metadata := { state.metadata with deletionTimestamp := some ⟨0, false⟩ } }

def identity : ConfigMap where
  data := some (.singleton "cluster-identity" "landscape")

def garden : Memory :=
  (((({} : Memory).put (.shoot shoot)).put (.shootState state)).put (.identity identity))

theorem kept_garden : garden.Kept :=
  ((kept_empty.put (.shoot shoot)).put (.shootState state)).put (.identity identity)

set_option maxRecDepth 100000 in
theorem trusted_state :
    (TrustAnchor.ofShootState state >>= TrustAnchor.validate).toOption = some () := by
  decide +kernel

private theorem hostOf_authority :
    ((Uri.authority "https://api.foo.example").map Uri.hostOf).toOption =
      some "api.foo.example" := by
  decide +kernel

theorem version_read :
    (Version.read (Kubeconfig.Format.versionText "1.27.3")).toOption.isSome = true := by
  decide +kernel

theorem provided_garden : Provided key shoot state (some identity) where
  advertised := by decide
  reachable := by
    intro address member
    rw [List.mem_singleton.mp member]
    obtain ⟨authority, parsed, host⟩ := map_eq_ok_iff.mp (toOption_eq_some_iff.mp hostOf_authority)
    refine ⟨by decide, authority, parsed, ?_⟩
    rw [host]
    decide
  trusted := bind_eq_ok_iff.mp (toOption_eq_some_iff.mp trusted_state)
  identified := ⟨identity, "landscape", rfl, rfl, by decide⟩
  versioned := by
    obtain ⟨version, read⟩ := Option.isSome_iff_exists.mp version_read
    exact ⟨version, toOption_eq_some_iff.mp read⟩
  inNamespace := by decide
  named := by decide

theorem ready_garden : ∃ limit, garden.Ready { limit := 1 } limit key shoot state := by
  obtain ⟨text, wanted⟩ := exists_wanted_iff.mpr provided_garden
  obtain ⟨object, desired⟩ : ∃ object, Artifact.desired shoot text = .ok object := ⟨_, rfl⟩
  refine ⟨Artifact.size object, rfl, rfl, rfl, rfl, rfl, ?_, rfl, rfl, provided_garden, ?_, ?_⟩
  · intro absent
    rfl
  · intro existing found
    cases found
  · intro otherText other otherWanted otherDesired
    cases wanted_unique wanted otherWanted
    cases desired.symm.trans otherDesired
    exact Nat.le_refl _

end Sample

end Memory

end ShootKubeconfig.Cluster
