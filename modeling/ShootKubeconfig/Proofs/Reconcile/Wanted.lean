import ShootKubeconfig.Proofs.Endpoints
import ShootKubeconfig.Proofs.Kubeconfig.Request
import ShootKubeconfig.Reconcile.Shoot

namespace ShootKubeconfig.Reconcile

/-- A text is the kubeconfig of a shoot if every gate is open and the request that is made of what
they let through builds it. -/
inductive Wanted (key : Key) (shoot : Shoot) (state : ShootState) (found : Option ConfigMap) :
    String → Prop
  | intro {authority : Octets} {endpoints : List Kubeconfig.Endpoint} {identity : String}
      {format : Kubeconfig.Format} {text : String}
      (advertised : shoot.advertisedAddresses ≠ [])
      (provisioned : TrustAnchor.ofShootState state = .ok authority)
      (trusted : TrustAnchor.validate authority = .ok ())
      (reachable : shoot.endpoints = .ok endpoints)
      (identified : identityIn found = .ok identity)
      (chosen : Kubeconfig.Format.ofKubernetesVersion shoot.kubernetesVersion = .ok format)
      (built : (request key authority endpoints identity).build format = .ok text) :
      Wanted key shoot state found text

variable {key : Key} {shoot : Shoot} {state : ShootState} {found : Option ConfigMap}
  {object : ConfigMap}

theorem readiness_eq_ready_iff {authority : Octets} {endpoints : List Kubeconfig.Endpoint} :
    readiness shoot state = .ok (.ready authority endpoints) ↔
      shoot.advertisedAddresses ≠ [] ∧ TrustAnchor.ofShootState state = .ok authority ∧
        TrustAnchor.validate authority = .ok () ∧ shoot.endpoints = .ok endpoints := by
  unfold readiness
  by_cases silent : shoot.advertisedAddresses = []
  · simp [silent]
  · rw [if_neg silent]
    cases provisioned : TrustAnchor.ofShootState state with
    | error failure => cases failure <;> simp
    | ok held =>
        simp only [bind_eq_ok_iff, mapError_eq_ok_iff, pure_eq_ok_iff, Readiness.ready.injEq,
          Except.ok.injEq]
        constructor
        · rintro ⟨_, trusted, reached, reachable, rfl, rfl⟩
          exact ⟨silent, rfl, trusted, reachable⟩
        · rintro ⟨_, rfl, trusted, reachable⟩
          exact ⟨(), trusted, endpoints, reachable, rfl, rfl⟩

theorem postponed_of_readiness {outcome : Outcome}
    (postponed : readiness shoot state = .ok (.postponed outcome)) :
    outcome = .noEndpoints ∨ outcome = .trustAnchorPending := by
  unfold readiness at postponed
  split at postponed
  · cases postponed
    exact .inl rfl
  · cases provisioned : TrustAnchor.ofShootState state with
    | error failure =>
        rw [provisioned] at postponed
        cases failure <;> cases postponed
        exact .inr rfl
    | ok authority => simp [provisioned] at postponed

theorem desired_eq_ok_iff {request : Kubeconfig.Request} :
    desired shoot request = .ok object ↔
      ∃ format text,
        Kubeconfig.Format.ofKubernetesVersion shoot.kubernetesVersion = .ok format ∧
          request.build format = .ok text ∧ Artifact.desired shoot text = .ok object := by
  simp [desired]

/-- What a reconcile computes between its reads is the ConfigMap with the wanted kubeconfig. -/
theorem wanted_iff_computed :
    (∃ text, Wanted key shoot state found text ∧ Artifact.desired shoot text = .ok object) ↔
      ∃ authority endpoints identity,
        readiness shoot state = .ok (.ready authority endpoints) ∧
          identityIn found = .ok identity ∧
          desired shoot (request key authority endpoints identity) = .ok object := by
  constructor
  · rintro ⟨text, ⟨advertised, provisioned, trusted, reachable, identified, chosen, built⟩, made⟩
    exact ⟨_, _, _,
      readiness_eq_ready_iff.mpr ⟨advertised, provisioned, trusted, reachable⟩, identified,
      desired_eq_ok_iff.mpr ⟨_, text, chosen, built, made⟩⟩
  · rintro ⟨authority, endpoints, identity, ready, identified, computed⟩
    obtain ⟨advertised, provisioned, trusted, reachable⟩ := readiness_eq_ready_iff.mp ready
    obtain ⟨format, text, chosen, built, made⟩ := desired_eq_ok_iff.mp computed
    exact ⟨text, ⟨advertised, provisioned, trusted, reachable, identified, chosen, built⟩, made⟩

theorem wanted_unique {first second : String} (firstWanted : Wanted key shoot state found first)
    (secondWanted : Wanted key shoot state found second) : first = second := by
  obtain ⟨_, provisioned, _, reachable, identified, chosen, built⟩ := firstWanted
  obtain ⟨_, provisioned', _, reachable', identified', chosen', built'⟩ := secondWanted
  cases provisioned.symm.trans provisioned'
  cases reachable.symm.trans reachable'
  cases identified.symm.trans identified'
  cases chosen.symm.trans chosen'
  exact Except.ok.inj (built.symm.trans built')

theorem identityIn_eq_ok_iff {identity : String} :
    identityIn found = .ok identity ↔
      ∃ configMap, found = some configMap ∧
        configMap.data.bind (·.get? identityDataKey) = some identity ∧ identity ≠ "" := by
  cases found with
  | none => simp [identityIn]
  | some configMap =>
      unfold identityIn
      cases published : configMap.data.bind (·.get? identityDataKey) with
      | none => simp [published]
      | some held =>
          by_cases blank : held = ""
          · simp [published, blank]
          · simp only [published, blank, if_false, Except.ok.injEq, Option.some.injEq,
              exists_eq_left']
            constructor
            · rintro rfl
              exact ⟨rfl, blank⟩
            · exact And.left

structure Provided (key : Key) (shoot : Shoot) (state : ShootState) (found : Option ConfigMap) :
    Prop where
  advertised : shoot.advertisedAddresses ≠ []
  reachable : ∀ address ∈ shoot.advertisedAddresses, address.name ≠ "" ∧
    ∃ authority, Uri.authority address.url = .ok authority ∧ Uri.hostOf authority ≠ ""
  trusted : ∃ authority, TrustAnchor.ofShootState state = .ok authority ∧
    TrustAnchor.validate authority = .ok ()
  identified : ∃ configMap identity, found = some configMap ∧
    configMap.data.bind (·.get? identityDataKey) = some identity ∧ identity ≠ ""
  versioned : ∃ version,
    Version.read (Kubeconfig.Format.versionText shoot.kubernetesVersion) = .ok version
  inNamespace : key.namespaceName ≠ ""
  named : key.name ≠ ""

/-- No other gate stands before a kubeconfig. -/
theorem exists_wanted_iff :
    (∃ text, Wanted key shoot state found text) ↔ Provided key shoot state found := by
  constructor
  · rintro ⟨text, ⟨advertised, provisioned, trusted, reachable, identified, chosen, built⟩⟩
    obtain ⟨_, sound, inNamespace, named, _⟩ :=
      Kubeconfig.Request.defect?_eq_none_iff.mp (Kubeconfig.Request.build_eq_ok_iff.mp built).1
    obtain ⟨configMap, held⟩ := identityIn_eq_ok_iff.mp identified
    obtain ⟨version, parsed, _⟩ := Kubeconfig.Format.ofKubernetesVersion_eq_ok_iff.mp chosen
    exact ⟨advertised, exists_endpointsOf_iff.mp ⟨_, reachable, sound⟩, ⟨_, provisioned, trusted⟩,
      ⟨configMap, _, held⟩, ⟨version, parsed⟩, inNamespace, named⟩
  · rintro ⟨advertised, reachable, ⟨authority, provisioned, trusted⟩,
      ⟨configMap, identity, published, held, notBlank⟩, ⟨version, parsed⟩, inNamespace, named⟩
    obtain ⟨endpoints, made, sound⟩ := exists_endpointsOf_iff.mpr reachable
    have someEndpoint : endpoints ≠ [] := by
      rw [← List.length_pos_iff, length_endpointsOf made, List.length_pos_iff]
      exact advertised
    have noDefect : (request key authority endpoints identity).defect? = none :=
      Kubeconfig.Request.defect?_eq_none_iff.mpr
        ⟨someEndpoint, sound, inNamespace, named, notBlank⟩
    exact ⟨_, .intro advertised provisioned trusted made
      (identityIn_eq_ok_iff.mpr ⟨configMap, published, held, notBlank⟩)
      (Kubeconfig.Format.ofKubernetesVersion_eq_ok_iff.mpr ⟨version, parsed, rfl⟩)
      (Kubeconfig.Request.build_eq_ok_iff.mpr ⟨noDefect, rfl⟩)⟩

end ShootKubeconfig.Reconcile
