import ShootKubeconfig.Proofs.Kubeconfig.Request

namespace ShootKubeconfig.Kubeconfig

def Endpoint.Complete (endpoint : Endpoint) : Prop :=
  endpoint.name ≠ "" ∧ endpoint.host ≠ ""

/-- A missing name is told before a missing host. -/
inductive Endpoint.Lacks (endpoint : Endpoint) : (Nat → Failure) → Prop
  | name (unnamed : endpoint.name = "") : Lacks endpoint .endpointNameMissing
  | host (named : endpoint.name ≠ "") (hostless : endpoint.host = "") :
      Lacks endpoint .endpointHostMissing

/-- Something is missing in an endpoint, and nothing in those before it. The first endpoint has the
index `start`. -/
inductive EndpointDefect (start : Nat) (endpoints : List Endpoint) : Failure → Prop
  | intro {index : Nat} {endpoint : Endpoint} {failure : Nat → Failure}
      (found : endpoints[index]? = some endpoint)
      (earlier : ∀ other ∈ endpoints.take index, other.Complete)
      (lacks : endpoint.Lacks failure) : EndpointDefect start endpoints (failure (start + index))

section Endpoint

variable {endpoint : Endpoint} {endpoints rest : List Endpoint} {failure : Nat → Failure}

theorem Endpoint.complete_or_lacks (endpoint : Endpoint) :
    endpoint.Complete ∨ ∃ failure, endpoint.Lacks failure := by
  by_cases unnamed : endpoint.name = ""
  · exact .inr ⟨_, .name unnamed⟩
  · by_cases hostless : endpoint.host = ""
    · exact .inr ⟨_, .host unnamed hostless⟩
    · exact .inl ⟨unnamed, hostless⟩

private theorem endpointDefect?_of_complete (start : Nat) (complete : endpoint.Complete) :
    endpointDefect? start (endpoint :: rest) = endpointDefect? (start + 1) rest := by
  rw [endpointDefect?, if_neg complete.1, if_neg complete.2]

private theorem endpointDefect?_of_lacks (start : Nat) (lacks : endpoint.Lacks failure) :
    endpointDefect? start (endpoint :: rest) = some (failure start) := by
  cases lacks with
  | name unnamed => rw [endpointDefect?, if_pos unnamed]
  | host named hostless => rw [endpointDefect?, if_neg named, if_pos hostless]

private theorem endpointDefect?_of_defect {start : Nat} {first : Failure}
    (defect : EndpointDefect start endpoints first) :
    endpointDefect? start endpoints = some first := by
  cases defect with
  | @intro index endpoint failure found earlier lacks =>
      induction endpoints generalizing start index with
      | nil => simp at found
      | cons head rest ih =>
          cases index with
          | zero =>
              cases found
              exact endpointDefect?_of_lacks start lacks
          | succ index =>
              obtain ⟨complete, earlierRest⟩ := List.forall_mem_cons.mp earlier
              rw [endpointDefect?_of_complete start complete, ih found earlierRest, Nat.add_assoc,
                Nat.add_comm 1]

private theorem defect_of_endpointDefect? {start : Nat} {first : Failure}
    (computed : endpointDefect? start endpoints = some first) :
    EndpointDefect start endpoints first := by
  induction endpoints generalizing start with
  | nil => cases computed
  | cons head rest ih =>
      rcases head.complete_or_lacks with complete | ⟨failure, lacks⟩
      · rw [endpointDefect?_of_complete start complete] at computed
        cases ih computed with
        | intro found earlier lacks =>
            rw [Nat.add_assoc, Nat.add_comm 1]
            exact .intro (List.getElem?_cons_succ.trans found)
              (List.forall_mem_cons.mpr ⟨complete, earlier⟩) lacks
      · rw [endpointDefect?_of_lacks start lacks] at computed
        cases computed
        exact @EndpointDefect.intro start _ 0 head _ rfl (by simp) lacks

theorem EndpointDefect.someEndpoint {start : Nat} {first : Failure}
    (defect : EndpointDefect start endpoints first) : endpoints ≠ [] := by
  rintro rfl
  cases defect with
  | intro found => simp at found

end Endpoint

namespace Request

structure Complete (request : Request) : Prop where
  someEndpoint : request.endpoints ≠ []
  endpoints : ∀ endpoint ∈ request.endpoints, endpoint.Complete
  inNamespace : request.namespaceName ≠ ""
  named : request.shootName ≠ ""
  identified : request.gardenIdentity ≠ ""

/-- A defect of which none of those that are told before it stands in the way. -/
inductive FirstDefect (request : Request) : Failure → Prop
  | endpoints (silent : request.endpoints = []) : FirstDefect request .endpointsMissing
  | endpoint {failure : Failure} (defect : EndpointDefect 0 request.endpoints failure) :
      FirstDefect request failure
  | namespaceName (someEndpoint : request.endpoints ≠ [])
      (complete : ∀ endpoint ∈ request.endpoints, endpoint.Complete)
      (blank : request.namespaceName = "") : FirstDefect request .namespaceMissing
  | shootName (someEndpoint : request.endpoints ≠ [])
      (complete : ∀ endpoint ∈ request.endpoints, endpoint.Complete)
      (inNamespace : request.namespaceName ≠ "") (blank : request.shootName = "") :
      FirstDefect request .shootNameMissing
  | gardenIdentity (someEndpoint : request.endpoints ≠ [])
      (complete : ∀ endpoint ∈ request.endpoints, endpoint.Complete)
      (inNamespace : request.namespaceName ≠ "") (named : request.shootName ≠ "")
      (blank : request.gardenIdentity = "") : FirstDefect request .gardenIdentityMissing

section FirstDefect

variable {request : Request} {failure : Failure}

theorem complete_or_firstDefect (request : Request) :
    request.Complete ∨ ∃ failure, request.FirstDefect failure := by
  by_cases silent : request.endpoints = []
  · exact .inr ⟨_, .endpoints silent⟩
  · cases scanned : endpointDefect? 0 request.endpoints with
    | some failure => exact .inr ⟨failure, .endpoint (defect_of_endpointDefect? scanned)⟩
    | none =>
        have complete := (endpointDefect?_eq_none_iff 0).mp scanned
        by_cases noNamespace : request.namespaceName = ""
        · exact .inr ⟨_, .namespaceName silent complete noNamespace⟩
        · by_cases noName : request.shootName = ""
          · exact .inr ⟨_, .shootName silent complete noNamespace noName⟩
          · by_cases noIdentity : request.gardenIdentity = ""
            · exact .inr ⟨_, .gardenIdentity silent complete noNamespace noName noIdentity⟩
            · exact .inl ⟨silent, complete, noNamespace, noName, noIdentity⟩

theorem defect?_eq_none_iff_complete : request.defect? = none ↔ request.Complete := by
  rw [defect?_eq_none_iff]
  constructor
  · rintro ⟨someEndpoint, endpoints, inNamespace, named, identified⟩
    exact ⟨someEndpoint, endpoints, inNamespace, named, identified⟩
  · rintro ⟨someEndpoint, endpoints, inNamespace, named, identified⟩
    exact ⟨someEndpoint, endpoints, inNamespace, named, identified⟩

theorem FirstDefect.defect? (defect : request.FirstDefect failure) :
    request.defect? = some failure := by
  unfold Request.defect?
  cases defect with
  | endpoints silent => rw [if_pos silent]
  | endpoint defect =>
      rw [if_neg defect.someEndpoint, endpointDefect?_of_defect defect]
  | namespaceName someEndpoint complete blank =>
      rw [if_neg someEndpoint, (endpointDefect?_eq_none_iff 0).mpr complete]
      exact if_pos blank
  | shootName someEndpoint complete inNamespace blank =>
      rw [if_neg someEndpoint, (endpointDefect?_eq_none_iff 0).mpr complete]
      dsimp only
      rw [if_neg inNamespace, if_pos blank]
  | gardenIdentity someEndpoint complete inNamespace named blank =>
      rw [if_neg someEndpoint, (endpointDefect?_eq_none_iff 0).mpr complete]
      dsimp only
      rw [if_neg inNamespace, if_neg named, if_pos blank]

theorem defect?_eq_some_iff : request.defect? = some failure ↔ request.FirstDefect failure := by
  constructor
  · intro computed
    rcases request.complete_or_firstDefect with complete | ⟨other, defect⟩
    · rw [defect?_eq_none_iff_complete.mpr complete] at computed
      cases computed
    · rw [defect.defect?] at computed
      cases computed
      exact defect
  · exact FirstDefect.defect?

theorem build_eq_error_iff {format : Format} :
    request.build format = .error failure ↔ request.FirstDefect failure := by
  rw [← defect?_eq_some_iff]
  unfold build
  cases request.defect? <;> simp

end FirstDefect

end Request

end ShootKubeconfig.Kubeconfig
